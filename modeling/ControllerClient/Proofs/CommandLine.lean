import ControllerClient.Proofs.Client.Running
import ControllerClient.Proofs.Disk.Spelling
import ControllerClient.Workspace

/-!
The clients that are printed. A file's client does not depend on how the file is spelled, nor on
whether it is asked for by path, made by a finder from the file's text, or printed; and a run of
the command line prints the clients of its paths in their order, up to the first that fails.
-/

namespace ControllerClient

theorem Controller.prefixAt_congr {disk : Disk} {file other : Text}
    (same : disk.resolve (Path.ofText file) = disk.resolve (Path.ofText other))
    (controller : Controller) (config : Config) :
    controller.prefixAt disk config file = controller.prefixAt disk config other := by
  unfold Controller.prefixAt Route.ofFile
  rw [same]

theorem Finder.fileOf?_marked (file : Text) : fileOf? (file ++ marker) = some file := by
  have after : Text.after? marker.reverse (file ++ marker).reverse = some file.reverse := by
    rw [Text.after?_eq_some_iff, List.reverse_append]
  unfold fileOf?
  rw [after, Option.map_some, List.reverse_reverse]

namespace CommandLine

variable {disk : Disk} {config : Config} {place : Place} {file : Text}

theorem clientAt_of_readText {source : Text}
    (reads : disk.readText (Path.ofText file) = .ok source) :
    clientAt disk config file = Controller.clientCode disk config file source := by
  unfold clientAt
  rw [reads]
  rfl

def controllerAt? (disk : Disk) (file : Text) : Except Failure (Option Controller) := do
  .ok (Controller.ofStatements? (← Source.read (← disk.readText (Path.ofText file))))

def clientOf (disk : Disk) (config : Config) (file : Text) : Option Controller → Except Failure Text
  | none => .error (.noControllerFound file)
  | some controller => do
    let routePrefix ← controller.prefixAt disk config file
    .ok (← controller.client routePrefix config).code

theorem clientAt_of_plain (plain : '\x00' ∉ file) :
    clientAt disk config file = controllerAt? disk file >>= clientOf disk config file := by
  unfold controllerAt?
  cases reads : disk.readText (Path.ofText file) with
  | error failure =>
      unfold clientAt
      rw [reads]
      rfl
  | ok source =>
      rw [clientAt_of_readText reads]
      unfold Controller.clientCode Controller.ofSource
      rw [if_neg (fun nul => plain (List.contains_iff_mem.mp nul))]
      dsimp only [bind, Except.bind]
      cases parses : Source.read source with
      | error failure => rfl
      | ok statements =>
          dsimp only
          cases Controller.ofStatements? statements with
          | none => rfl
          | some controller => rfl

/--
The file at a place decides the outcome of asking for its client: it is the same by all spellings
of the file, but that a file without a controller is named as it is spelled.
-/
theorem clientAt_of_spells (placed : ∀ part ∈ disk.here, part ≠ "..".toList)
    (isOpen : disk.tree.IsOpen disk.here) {content : List UInt8}
    (isFile : disk.tree.node? place = some (.file content)) :
    (∃ result, ∀ file, disk.Spells file place → clientAt disk config file = result) ∨
      ∀ file, disk.Spells file place →
        clientAt disk config file = .error (.noControllerFound file) := by
  -- Any one spelling decides for all of them, but a place need not have one.
  by_cases some_ : ∃ first, disk.Spells first place
  · obtain ⟨first, begins⟩ := some_
    have same {file : Text} (spells : disk.Spells file place) :
        controllerAt? disk file = controllerAt? disk first := by
      unfold controllerAt?
      rw [spells.readText_eq begins isFile]
    cases described : controllerAt? disk first with
    | error failure =>
        left
        refine ⟨.error failure, fun file spells => ?_⟩
        rw [clientAt_of_plain spells.not_mem_nul, same spells, described]
        rfl
    | ok found =>
        cases found with
        | none =>
            right
            intro file spells
            rw [clientAt_of_plain spells.not_mem_nul, same spells, described]
            rfl
        | some controller =>
            left
            refine ⟨clientOf disk config first (some controller), fun file spells => ?_⟩
            have addressed : controller.prefixAt disk config file =
                controller.prefixAt disk config first := by
              apply Controller.prefixAt_congr
              rw [spells.resolve_eq placed isOpen, begins.resolve_eq placed isOpen]
            rw [clientAt_of_plain spells.not_mem_nul, same spells, described]
            change clientOf disk config file (some controller) = _
            rw [clientOf, clientOf, addressed]
  · exact Or.inl ⟨.ok [], fun file spells => absurd ⟨file, spells⟩ some_⟩

def shown (path code : Text) : Text := headerLine path ++ code ++ ['\n']

def runOf (path : Text) : Except Failure Text → Run
  | .ok code => ⟨shown path code, [], .ok 0⟩
  | .error failure => ⟨headerLine path, [], .error failure⟩

theorem printAll_singleton (path : Text) :
    printAll disk config [path] = runOf path (clientAt disk config path) := by
  unfold printAll
  cases clientAt disk config path with
  | error failure => rfl
  | ok code => rfl

/--
A run over some paths with a way to make clients. `printed` are the clients of the first of them,
and behind these either no path is left or one that fails.
-/
inductive Prints (client : Text → Except Failure Text) :
    List Text → List (Text × Text) → Run → Prop where
  | all {printed : List (Text × Text)} (each : ∀ entry ∈ printed, client entry.1 = .ok entry.2) :
      Prints client (printed.map Prod.fst) printed
        ⟨printed.flatMap fun entry => shown entry.1 entry.2, [], .ok 0⟩
  | upTo {printed : List (Text × Text)} {path : Text} {later : List Text} {failure : Failure}
      (each : ∀ entry ∈ printed, client entry.1 = .ok entry.2)
      (fails : client path = .error failure) :
      Prints client (printed.map Prod.fst ++ path :: later) printed
        ⟨(printed.flatMap fun entry => shown entry.1 entry.2) ++ headerLine path, [],
          .error failure⟩

theorem Prints.cons {client : Text → Except Failure Text} {paths : List Text}
    {printed : List (Text × Text)} {run : Run} {path code : Text}
    (succeeds : client path = .ok code) (prints : Prints client paths printed run) :
    Prints client (path :: paths) ((path, code) :: printed)
      { run with output := shown path code ++ run.output } := by
  have grown {printed : List (Text × Text)}
      (each : ∀ entry ∈ printed, client entry.1 = .ok entry.2) :
      ∀ entry ∈ (path, code) :: printed, client entry.1 = .ok entry.2 :=
    List.forall_mem_cons.mpr ⟨succeeds, each⟩
  cases prints with
  | all each => exact .all (grown each)
  | upTo each fails =>
      rw [← List.append_assoc]
      exact .upTo (grown each) fails

theorem prints_printAll (disk : Disk) (config : Config) (paths : List Text) :
    ∃ printed, Prints (clientAt disk config) paths printed (printAll disk config paths) := by
  induction paths with
  | nil => exact ⟨[], .all (List.forall_mem_nil _)⟩
  | cons path later ih =>
      unfold printAll
      cases outcome : clientAt disk config path with
      | error failure => exact ⟨[], .upTo (List.forall_mem_nil _) outcome⟩
      | ok code =>
          obtain ⟨printed, prints⟩ := ih
          refine ⟨(path, code) :: printed, ?_⟩
          have longer := prints.cons outcome
          unfold shown at longer
          rw [List.append_assoc, List.singleton_append] at longer
          exact longer

theorem Prints.result_eq_zero_iff {client : Text → Except Failure Text} {paths : List Text}
    {printed : List (Text × Text)} {run : Run} (prints : Prints client paths printed run) :
    run.result = .ok 0 ↔ ∀ path ∈ paths, ∃ code, client path = .ok code := by
  cases prints with
  | all each =>
      refine iff_of_true rfl ?_
      intro path present
      obtain ⟨entry, inside, rfl⟩ := List.mem_map.mp present
      exact ⟨entry.2, each entry inside⟩
  | @upTo printed path later failure each fails =>
      refine iff_of_false (fun same => by cases same) ?_
      intro succeed
      obtain ⟨code, succeeds⟩ := succeed path (List.mem_append_right _ List.mem_cons_self)
      rw [fails] at succeeds
      cases succeeds

end CommandLine

namespace Workspace

open CommandLine

variable {workspace : Workspace} {config : Config}

theorem clientCode_given (workspace : Workspace) (config : Config) (file : Text) :
    workspace.clientCode file none (some config) =
      (workspace, clientAt workspace.disk config file) := rfl

theorem runCommand_of_loads (loads : (workspace.loadConfig none).2 = .ok config)
    {paths : List Text} (some_ : paths ≠ []) :
    workspace.runCommand paths =
      ((workspace.loadConfig none).1, printAll workspace.disk config paths) := by
  unfold loadConfig at loads
  unfold runCommand CommandLine.run loadConfig
  rw [if_neg (fun none => some_ (List.isEmpty_iff.mp none))]
  cases loaded : Config.load workspace.disk workspace.kept none with
  | error failure =>
      rw [loaded] at loads
      cases loads
  | ok settings =>
      rw [loaded] at loads
      cases loads
      rfl

/--
All ways to the client of the file at a path come to one outcome: with settings given, by a finder
of these settings from the text of the file, and in a run of the command line.
-/
structure Yields (workspace : Workspace) (config : Config) (file : Text)
    (outcome : Except Failure Text) : Prop where
  given : workspace.clientCode file none (some config) = (workspace, outcome)
  transformed : ∀ (finder : Finder) (source : Text), finder.config = config →
    workspace.disk.readText (Path.ofText file) = .ok source →
      finder.transform workspace.disk source (file ++ Finder.marker) = outcome.map some
  printed : (workspace.runCommand [file]).2 = runOf file outcome

theorem Yields.eq_clientAt {file : Text} {outcome : Except Failure Text}
    (yields : workspace.Yields config file outcome) :
    outcome = clientAt workspace.disk config file := (Prod.mk.inj yields.given).2.symm

theorem yields_clientAt (loads : (workspace.loadConfig none).2 = .ok config) (file : Text) :
    workspace.Yields config file (clientAt workspace.disk config file) := by
  refine ⟨clientCode_given workspace config file, ?_, ?_⟩
  · rintro finder source rfl reads
    unfold Finder.transform
    rw [Finder.fileOf?_marked, clientAt_of_readText reads]
    dsimp only
    cases Controller.clientCode workspace.disk finder.config file source with
    | error failure => rfl
    | ok code => rfl
  · rw [runCommand_of_loads loads (List.cons_ne_nil file [])]
    exact printAll_singleton file

/--
All ways to a client agree, where settings can be loaded. The spellings of a file have one
canonical form and read as one text, and either the clients by all of them have one outcome, a
text or a failure, or the file has no controller and each of them says so. A run over some paths
prints the header and the client of each in their order, up to the header of the first whose
client fails, with whose failure it ends; it ends well exactly when every path has a client.
-/
theorem clients_agree (placed : ∀ part ∈ workspace.disk.here, part ≠ "..".toList)
    (isOpen : workspace.disk.tree.IsOpen workspace.disk.here)
    (loads : (workspace.loadConfig none).2 = .ok config) :
    (∀ place content, workspace.disk.tree.node? place = some (.file content) →
      (∀ file, workspace.disk.Spells file place →
        workspace.disk.resolve (Path.ofText file) = .ok (Path.absolute place)) ∧
      (∀ file other, workspace.disk.Spells file place → workspace.disk.Spells other place →
        workspace.disk.readText (Path.ofText file) =
          workspace.disk.readText (Path.ofText other)) ∧
      ((∃ outcome, ∀ file, workspace.disk.Spells file place →
          workspace.Yields config file outcome) ∨
        ∀ file, workspace.disk.Spells file place →
          workspace.Yields config file (.error (.noControllerFound file)))) ∧
    ∀ paths, paths ≠ [] →
      (∃ printed, Prints (fun path => (workspace.clientCode path none (some config)).2) paths
        printed (workspace.runCommand paths).2) ∧
      ((workspace.runCommand paths).2.result = .ok 0 ↔
        ∀ path ∈ paths, ∃ code,
          (workspace.clientCode path none (some config)).2 = .ok code) := by
  constructor
  · intro place content isFile
    refine ⟨fun file spells => spells.resolve_eq placed isOpen,
      fun file other spells otherSpells => spells.readText_eq otherSpells isFile, ?_⟩
    rcases clientAt_of_spells placed isOpen isFile with ⟨outcome, same⟩ | none
    · left
      refine ⟨outcome, fun file spells => ?_⟩
      rw [← same file spells]
      exact yields_clientAt loads file
    · right
      intro file spells
      rw [← none file spells]
      exact yields_clientAt loads file
  · intro paths some_
    rw [runCommand_of_loads loads some_]
    obtain ⟨printed, prints⟩ := prints_printAll workspace.disk config paths
    exact ⟨⟨printed, prints⟩, prints.result_eq_zero_iff⟩

def linkedSource : Text := "@Controller(__file__)\nclass A: pass\ndefine_expose(A)\n".toList

/-- A project with one controller, to which a link leads from outside. -/
def linkedDisk : Disk :=
  { tree := ⟨[(["p".toList], .directory),
      (["p".toList, Config.fileName], .file (Utf8.encode "\x7b\x7d".toList)),
      (["p".toList, "a.py".toList], .file (Utf8.encode linkedSource)),
      (["l".toList], .link (.relative ["p".toList, "a.py".toList]))]⟩
    here := ["p".toList] }

def linkedConfig : Config := .ofEntries (.absolute ["p".toList]) []

theorem clientAt_linkedDisk :
    clientAt linkedDisk linkedConfig "a.py".toList =
      .ok (Client.ofTexts "/a".toList [] (some "A".toList)).code := by
  have reads : linkedDisk.readText (Path.ofText "a.py".toList) = .ok linkedSource := by cbv
  have described : (Controller.ofSource "a.py".toList linkedSource).toOption =
      some ⟨"A".toList, .ofLocation, []⟩ := by decide +kernel
  rw [clientAt_of_readText reads]
  cases accepted : Controller.ofSource "a.py".toList linkedSource with
  | error failure =>
      rw [accepted] at described
      cases described
  | ok controller =>
      rw [accepted] at described
      cases Option.some.inj described
      have based : linkedConfig.base = .str [] := rfl
      have addressed : (⟨"A".toList, .ofLocation, []⟩ : Controller).prefixAt linkedDisk
          linkedConfig "a.py".toList = .ok "/a".toList := by cbv
      exact (Controller.clientCode_texts accepted addressed based :)

/-- The name of the link plays no part in the route, and a run fails at a path without a file. -/
theorem clients_agree_linked :
    (∀ file ∈ ["a.py".toList, "/p/../l".toList, "../p/./a.py".toList],
      (onDisk linkedDisk).Yields linkedConfig file
        (.ok (Client.ofTexts "/a".toList [] (some "A".toList)).code)) ∧
      ((onDisk linkedDisk).runCommand ["/l".toList, "b.py".toList]).2.result ≠ .ok 0 := by
  have isOpen : linkedDisk.tree.IsOpen ["p".toList] := (FileTree.isOpen_nil _).concat rfl
  obtain ⟨each, runs⟩ :=
    @clients_agree (onDisk linkedDisk) linkedConfig (by decide) isOpen (by cbv)
  have isFile : linkedDisk.tree.node? ["p".toList, "a.py".toList] =
      some (.file (Utf8.encode linkedSource)) := rfl
  have spelled : ∀ file ∈ ["a.py".toList, "/p/../l".toList, "../p/./a.py".toList],
      linkedDisk.Spells file ["p".toList, "a.py".toList] := by
    simp only [List.forall_mem_cons]
    exact ⟨⟨by decide, by cbv⟩, ⟨by decide, by cbv⟩, ⟨by decide, by cbv⟩, List.forall_mem_nil _⟩
  have first := spelled "a.py".toList List.mem_cons_self
  constructor
  · intro file present
    rcases (each _ _ isFile).2.2 with ⟨outcome, yields⟩ | none
    · have same := (yields _ first).eq_clientAt.trans clientAt_linkedDisk
      rw [← same]
      exact yields file (spelled file present)
    · cases (none _ first).eq_clientAt.trans clientAt_linkedDisk
  · intro succeeds
    obtain ⟨code, given⟩ := (runs _ (List.cons_ne_nil _ _)).2.mp succeeds "b.py".toList
      (List.mem_cons_of_mem _ List.mem_cons_self)
    have missing : linkedDisk.readText (Path.ofText "b.py".toList) =
        .error (.file .missing "b.py".toList) := by cbv
    change clientAt linkedDisk linkedConfig "b.py".toList = .ok code at given
    unfold clientAt at given
    rw [missing] at given
    cases given

end Workspace

end ControllerClient
