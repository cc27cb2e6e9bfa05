import ControllerClient.Proofs.Config.Keeping
import ControllerClient.Proofs.Module.Asking

/-!
Finders that come and go, over whole runs. An install puts a finder in front, an uninstall
takes one out and forgets the modules that it owns, and imports leave the order as it is. So
the finders are always those that were installed and not uninstalled since, newest first, in
front of all that a program begins with.
-/

namespace ControllerClient

namespace Modules

open Finder (IsBelow)

/-! ### Uninstalls -/

section Changes

variable {modules : Modules} {finder : Finder} {aliasName : Text}

theorem eraseP_of_distinct {entries : List (Nat × Finder)}
    (distinct : (entries.map (·.1)).Nodup) (number : Nat) :
    entries.eraseP (·.1 == number) = entries.filter (·.1 != number) := by
  induction entries with
  | nil => rfl
  | cons entry entries ih =>
      obtain ⟨new, distinct⟩ := List.nodup_cons.mp distinct
      by_cases same : entry.1 = number
      · have others : ∀ other ∈ entries, (other.1 != number) = true := by
          intro other present
          rw [bne_iff_ne, ← same]
          intro equal
          exact new (List.mem_map.mpr ⟨other, present, equal⟩)
        simp [same, List.filter_eq_self.mpr others]
      · simp [same, ih distinct]

theorem withoutFinder_of_absent {number : Nat}
    (absent : ∀ entry ∈ modules.installed, entry.1 ≠ number) :
    modules.withoutFinder number = modules := by
  have same : modules.installed.eraseP (·.1 == number) = modules.installed :=
    List.eraseP_of_forall_not fun entry present found =>
      absent entry present (beq_iff_eq.mp found)
  unfold withoutFinder
  rw [same]

theorem ownedNames_of_aliasName (aliased : finder.aliasName = .str aliasName) (owned : Bool)
    (table : Table Module) :
    ownedNames finder owned table =
      .ok (table.filter fun entry => decide (IsBelow aliasName entry.1) == owned) := by
  induction table with
  | nil => rfl
  | cons entry table ih =>
      rw [ownedNames, Finder.owns_of_aliasName aliased, ih, List.filter_cons]
      by_cases same : decide (IsBelow aliasName entry.1) = owned
      · simp [same, bind, Except.bind]
      · simp [same, bind, Except.bind]

theorem forget_of_aliasName (aliased : finder.aliasName = .str aliasName) (modules : Modules) :
    modules.forget finder = .ok { modules with
      loaded := modules.loaded.filter fun entry => !decide (IsBelow aliasName entry.1) } := by
  unfold forget
  rw [Finder.ownedPrefix_of_aliasName aliased, ownedNames_of_aliasName aliased]
  simp only [beq_false]
  rfl

theorem uninstall_of_aliasName (aliased : finder.aliasName = .str aliasName) (modules : Modules)
    (number : Nat) :
    modules.uninstall number finder =
      ({ modules.withoutFinder number with
        loaded := modules.loaded.filter fun entry => !decide (IsBelow aliasName entry.1) },
        .ok ()) := by
  unfold uninstall
  dsimp only
  rw [forget_of_aliasName aliased]
  rfl

theorem uninstall_of_no_text (noText : ∀ aliasName, finder.aliasName ≠ .str aliasName)
    (modules : Modules) (number : Nat) :
    ∃ failure,
      modules.uninstall number finder = (modules.withoutFinder number, .error failure) := by
  unfold uninstall
  dsimp only
  cases forgets : (modules.withoutFinder number).forget finder with
  | error failure => exact ⟨failure, rfl⟩
  | ok forgotten =>
      obtain ⟨text, ownPrefix, _⟩ := bind_eq_ok_iff.mp forgets
      obtain ⟨aliasName, aliased⟩ := Finder.aliasName_of_ownedPrefix ownPrefix
      exact absurd aliased (noText aliasName)

theorem exists_uninstall (modules : Modules) (number : Nat) (finder : Finder) :
    ∃ loaded, (modules.uninstall number finder).1 =
      { modules.withoutFinder number with loaded } := by
  by_cases text : ∃ aliasName, finder.aliasName = .str aliasName
  · obtain ⟨aliasName, aliased⟩ := text
    rw [uninstall_of_aliasName aliased]
    exact ⟨_, rfl⟩
  · obtain ⟨failure, fails⟩ := uninstall_of_no_text (not_exists.mp text) modules number
    rw [fails]
    exact ⟨modules.loaded, rfl⟩

theorem lookup_uninstall (modules : Modules) (number : Nat) (finder : Finder) (name : Text) :
    (finder.owns name = .ok true →
      (modules.uninstall number finder).1.loaded.lookup name = none) ∧
    (finder.owns name ≠ .ok true →
      (modules.uninstall number finder).1.loaded.lookup name = modules.loaded.lookup name) := by
  by_cases text : ∃ aliasName, finder.aliasName = .str aliasName
  · obtain ⟨aliasName, aliased⟩ := text
    have owned : finder.owns name = .ok true ↔ IsBelow aliasName name := by
      rw [Finder.owns_of_aliasName aliased, Except.ok.injEq, decide_eq_true_iff]
    rw [uninstall_of_aliasName aliased, Ne, owned]
    dsimp only
    rw [Table.lookup_filter fun name => !decide (IsBelow aliasName name)]
    constructor
    · intro below
      simp [below]
    · intro elsewhere
      simp [elsewhere]
  · obtain ⟨failure, fails⟩ := uninstall_of_no_text (not_exists.mp text) modules number
    rw [fails]
    exact ⟨fun owned => absurd (Finder.aliasName_of_owns owned) text, fun _ => rfl⟩

end Changes

end Modules

/-! ### Runs -/

inductive ModuleStep where
  | install (config : Option Config) (aliasName : Value)
  | uninstall (number : Nat) (finder : Finder)
  | importName (name : Text)
  /-- Files change, or settings are loaded or forgotten. -/
  | settle (step : SettingsStep)

def ModuleStep.uninstalls (number : Nat) : ModuleStep → Bool
  | .uninstall other _ => number == other
  | _ => false

namespace Workspace

def advance (workspace : Workspace) : ModuleStep → Workspace
  | .install config aliasName => (workspace.install config aliasName).1
  | .uninstall number finder => (workspace.uninstall number finder).1
  | .importName name => (workspace.importName name).1
  | .settle step => workspace.settle step

def advanceAll (workspace : Workspace) (steps : List ModuleStep) : Workspace :=
  steps.foldl advance workspace

/-- The finder that a step installs, with its number; an install that fails installs none. -/
def installs (workspace : Workspace) : ModuleStep → List (Nat × Finder)
  | .install config aliasName =>
    match (workspace.install config aliasName).2 with
    | .ok finder => [(workspace.finders, finder)]
    | .error _ => []
  | _ => []

/-- The finders that a run installs and does not uninstall later, newest first. -/
def standing (workspace : Workspace) : List ModuleStep → List (Nat × Finder)
  | [] => []
  | step :: later =>
    (workspace.advance step).standing later ++
      (workspace.installs step).filter fun entry => !later.any (·.uninstalls entry.1)

/-- No two finders have one number, and the next number is a new one. -/
structure IsNumbered (workspace : Workspace) : Prop where
  distinct : (workspace.modules.installed.map (·.1)).Nodup
  below : ∀ entry ∈ workspace.modules.installed, entry.1 < workspace.finders

section Steps

variable {workspace : Workspace}

theorem exists_loadConfig (workspace : Workspace) (directory : Option Path) :
    ∃ kept, (workspace.loadConfig directory).1 = { workspace with kept } := by
  unfold loadConfig
  split
  · exact ⟨_, rfl⟩
  · exact ⟨workspace.kept, rfl⟩

theorem exists_configOr (workspace : Workspace) (config : Option Config) :
    ∃ kept, (workspace.configOr config).1 = { workspace with kept } := by
  cases config with
  | none => exact exists_loadConfig workspace none
  | some config => exact ⟨workspace.kept, rfl⟩

/-- An install puts a new finder in front, or else it fails and leaves the modules as they are. -/
theorem install_cases (workspace : Workspace) (config : Option Config) (aliasName : Value) :
    (∃ finder, (workspace.install config aliasName).2 = .ok finder ∧
        (workspace.install config aliasName).1.modules =
          workspace.modules.install workspace.finders finder ∧
        (workspace.install config aliasName).1.finders = workspace.finders + 1) ∨
      ∃ failure, (workspace.install config aliasName).2 = .error failure ∧
        (workspace.install config aliasName).1.modules = workspace.modules ∧
        (workspace.install config aliasName).1.finders = workspace.finders := by
  obtain ⟨kept, same⟩ := exists_configOr workspace config
  unfold install makeFinder
  cases settings : workspace.configOr config with
  | mk later outcome =>
      rw [settings] at same
      obtain rfl : later = { workspace with kept } := same
      cases outcome with
      | error failure => exact Or.inr ⟨failure, rfl, rfl, rfl⟩
      | ok config =>
          dsimp only
          cases Finder.ofConfig workspace.disk config aliasName with
          | error failure => exact Or.inr ⟨failure, rfl, rfl, rfl⟩
          | ok finder => exact Or.inl ⟨finder, rfl, rfl, rfl⟩

theorem install_of_ofConfig {disk : Disk} {config : Config} {given : Value} {finder : Finder}
    (made : Finder.ofConfig disk config given = .ok finder) {workspace : Workspace}
    (placed : workspace.disk = disk) :
    workspace.install (some config) given =
      ({ workspace with
        modules := workspace.modules.install workspace.finders finder
        finders := workspace.finders + 1
        current := some (workspace.finders, finder) }, .ok finder) := by
  simp only [install, makeFinder, configOr, placed, made]

theorem settle_keeps (workspace : Workspace) (step : SettingsStep) :
    (workspace.settle step).modules = workspace.modules ∧
      (workspace.settle step).finders = workspace.finders := by
  cases step with
  | edit change =>
      unfold settle
      dsimp only
      cases change workspace.disk with
      | error failure => exact ⟨rfl, rfl⟩
      | ok disk => exact ⟨rfl, rfl⟩
  | load directory =>
      obtain ⟨kept, same⟩ := exists_loadConfig workspace directory
      unfold settle
      dsimp only
      rw [same]
      exact ⟨rfl, rfl⟩
  | forget => exact ⟨rfl, rfl⟩

/--
What a step does to modules: it puts a new finder in front, or it takes a finder out, or it changes
nothing but what is imported.
-/
inductive Advances (workspace next : Workspace) (step : ModuleStep) : Prop where
  | front (finder : Finder)
      (installs : workspace.installs step = [(workspace.finders, finder)])
      (uninstalls : ∀ number, step.uninstalls number = false)
      (modules : next.modules = workspace.modules.install workspace.finders finder)
      (finders : next.finders = workspace.finders + 1)
  | removed (number : Nat) (loaded : Table Module) (installs : workspace.installs step = [])
      (uninstalls : ∀ other, step.uninstalls other = (other == number))
      (modules : next.modules = { workspace.modules.withoutFinder number with loaded })
      (finders : next.finders = workspace.finders)
  | same (loaded : Table Module) (installs : workspace.installs step = [])
      (uninstalls : ∀ number, step.uninstalls number = false)
      (modules : next.modules = { workspace.modules with loaded })
      (finders : next.finders = workspace.finders)

theorem advances (workspace : Workspace) (step : ModuleStep) :
    Advances workspace (workspace.advance step) step := by
  cases step with
  | install config aliasName =>
      rcases install_cases workspace config aliasName with
        ⟨finder, made, modules, finders⟩ | ⟨failure, fails, modules, finders⟩
      · refine .front finder ?_ (fun _ => rfl) modules finders
        rw [installs, made]
      · refine .same workspace.modules.loaded ?_ (fun _ => rfl) modules finders
        rw [installs, fails]
  | uninstall number finder =>
      obtain ⟨loaded, modules⟩ := workspace.modules.exists_uninstall number finder
      exact .removed number loaded rfl (fun _ => rfl) modules rfl
  | importName name =>
      obtain ⟨loaded, modules⟩ := workspace.modules.exists_importName workspace.disk name
      exact .same loaded rfl (fun _ => rfl) modules rfl
  | settle step =>
      obtain ⟨modules, finders⟩ := settle_keeps workspace step
      exact .same workspace.modules.loaded rfl (fun _ => rfl) modules finders

theorem original_advance (workspace : Workspace) (step : ModuleStep) :
    (workspace.advance step).modules.original = workspace.modules.original := by
  cases workspace.advances step with
  | front finder _ _ modules _ =>
      rw [modules]
      rfl
  | removed number loaded _ _ modules _ =>
      rw [modules]
      rfl
  | same loaded _ _ modules _ => rw [modules]

/-- A step takes out the finders that it uninstalls and puts the one that it installs in front. -/
theorem IsNumbered.installed_advance (numbered : workspace.IsNumbered) (step : ModuleStep) :
    (workspace.advance step).modules.installed =
      workspace.installs step ++
        workspace.modules.installed.filter fun entry => !step.uninstalls entry.1 := by
  cases workspace.advances step with
  | front finder installs uninstalls modules _ =>
      rw [modules, installs]
      simp [Modules.install, uninstalls]
  | removed number loaded installs uninstalls modules _ =>
      have taken : (workspace.modules.withoutFinder number).installed =
          workspace.modules.installed.filter (·.1 != number) :=
        Modules.eraseP_of_distinct numbered.distinct number
      rw [modules, installs]
      simp [taken, uninstalls, bne]
  | same loaded installs uninstalls modules _ =>
      rw [modules, installs]
      simp [uninstalls]

theorem installs_cases (workspace : Workspace) (step : ModuleStep) :
    (∃ finder, workspace.installs step = [(workspace.finders, finder)] ∧
        (workspace.advance step).finders = workspace.finders + 1) ∨
      workspace.installs step = [] ∧ (workspace.advance step).finders = workspace.finders := by
  cases workspace.advances step with
  | front finder installs _ _ finders => exact Or.inl ⟨finder, installs, finders⟩
  | removed number loaded installs _ _ finders => exact Or.inr ⟨installs, finders⟩
  | same loaded installs _ _ finders => exact Or.inr ⟨installs, finders⟩

theorem IsNumbered.advance (numbered : workspace.IsNumbered) (step : ModuleStep) :
    (workspace.advance step).IsNumbered := by
  have within : ∀ entry ∈ workspace.modules.installed.filter fun entry => !step.uninstalls entry.1,
      entry.1 < workspace.finders :=
    fun entry present => numbered.below entry (List.mem_of_mem_filter present)
  have distinct : ((workspace.modules.installed.filter fun entry =>
      !step.uninstalls entry.1).map (·.1)).Nodup :=
    numbered.distinct.sublist (List.filter_sublist.map _)
  have installed := numbered.installed_advance step
  rcases workspace.installs_cases step with ⟨finder, installs, finders⟩ | ⟨installs, finders⟩
  · rw [installs, List.singleton_append] at installed
    constructor
    · rw [installed, List.map_cons, List.nodup_cons]
      refine ⟨?_, distinct⟩
      intro present
      obtain ⟨entry, old, same⟩ := List.mem_map.mp present
      exact absurd (within entry old) (same ▸ lt_irrefl _)
    · rw [installed, finders, List.forall_mem_cons]
      exact ⟨Nat.lt_succ_self _, fun entry old => Nat.lt_succ_of_lt (within entry old)⟩
  · rw [installs, List.nil_append] at installed
    constructor
    · rw [installed]
      exact distinct
    · rw [installed, finders]
      exact within

end Steps

section Runs

variable {workspace : Workspace}

theorem original_advanceAll (workspace : Workspace) (steps : List ModuleStep) :
    (workspace.advanceAll steps).modules.original = workspace.modules.original := by
  induction steps generalizing workspace with
  | nil => rfl
  | cons step later ih =>
      exact (ih (workspace.advance step)).trans (workspace.original_advance step)

/--
After a run those finders are installed that it installed and did not uninstall, and behind them
those of before that it did not uninstall.
-/
theorem IsNumbered.installed_advanceAll (numbered : workspace.IsNumbered)
    (steps : List ModuleStep) :
    (workspace.advanceAll steps).modules.installed =
      workspace.standing steps ++
        workspace.modules.installed.filter fun entry => !steps.any (·.uninstalls entry.1) := by
  induction steps generalizing workspace with
  | nil => simp [advanceAll, standing]
  | cons step later ih =>
      have last := ih (numbered.advance step)
      rw [numbered.installed_advance step, List.filter_append, List.filter_filter] at last
      change ((workspace.advance step).advanceAll later).modules.installed = _
      rw [last, standing, List.append_assoc]
      congr 2
      apply List.filter_congr
      intro entry _
      rw [List.any_cons, Bool.not_or, Bool.and_comm]

theorem installed_of_bare (bare : workspace.modules.installed = []) (steps : List ModuleStep) :
    (workspace.advanceAll steps).modules.installed = workspace.standing steps := by
  have numbered : workspace.IsNumbered := by
    constructor
    · rw [bare]
      exact List.nodup_nil
    · rw [bare]
      exact List.forall_mem_nil _
  rw [numbered.installed_advanceAll steps, bare, List.filter_nil, List.append_nil]

end Runs

/--
Finders over a run of any length, from a start without finders. What is asked for modules are the
finders that the run installed and did not uninstall later, newest first, and then the importers
that were there before. An uninstall of a finder that is not there changes nothing about that. An
uninstall forgets what the finder owns and no other module, and it succeeds if the alias is text.
The newest finder that owns a name decides about it, whatever was imported meanwhile, and those
behind it are not asked: it imports what it locates, or it refuses the name. Only a name with a
slash or with two asterisks in a row can end otherwise, where the name is no pattern to search for.
-/
theorem standing_decides (workspace : Workspace) (bare : workspace.modules.installed = [])
    (steps : List ModuleStep) :
    let after := workspace.advanceAll steps
    after.modules.path =
        (workspace.standing steps).map .installed ++ workspace.modules.original.map .original ∧
      (∀ (number : Nat) (finder : Finder),
        ((∀ entry ∈ workspace.standing steps, entry.1 ≠ number) →
          (after.uninstall number finder).1.modules.path = after.modules.path) ∧
        (∀ aliasName, finder.aliasName = .str aliasName →
          (after.uninstall number finder).2 = .ok ()) ∧
        ∀ name,
          (finder.owns name = .ok true →
            (after.uninstall number finder).1.modules.loaded.lookup name = none) ∧
          (finder.owns name ≠ .ok true →
            (after.uninstall number finder).1.modules.loaded.lookup name =
              after.modules.loaded.lookup name)) ∧
      ∀ (name : Text) (newer : List (Nat × Finder)) (entry : Nat × Finder)
        (older : List (Nat × Finder)),
        workspace.standing steps = newer ++ entry :: older →
        (∀ front ∈ newer, front.2.owns name = .ok false) → entry.2.owns name = .ok true →
        ∃ outcome,
          Modules.consult after.disk name after.modules.path =
              ((newer ++ [entry]).map .installed, outcome) ∧
            Modules.DecidedBy entry.2 after.disk name outcome ∧
            (∀ loaded, Modules.find { after.modules with loaded } after.disk name = outcome) ∧
            (after.modules.Asks after.disk name → (after.importName name).2 = outcome) := by
  intro after
  have installed : after.modules.installed = workspace.standing steps :=
    installed_of_bare bare steps
  have path : after.modules.path =
      (workspace.standing steps).map .installed ++ workspace.modules.original.map .original := by
    unfold Modules.path
    rw [installed, workspace.original_advanceAll steps]
  refine ⟨path, ?_, ?_⟩
  · intro number finder
    refine ⟨?_, ?_, after.modules.lookup_uninstall number finder⟩
    · intro absent
      obtain ⟨loaded, modules⟩ := after.modules.exists_uninstall number finder
      rw [← installed] at absent
      change ((after.modules.uninstall number finder).1).path = _
      rw [modules, Modules.withoutFinder_of_absent absent]
      rfl
    · intro aliasName aliased
      unfold uninstall
      dsimp only
      rw [Modules.uninstall_of_aliasName aliased]
  · intro name newer entry older standing declines owned
    obtain ⟨outcome, asked, decided⟩ :=
      Modules.consult_of_newest after.disk declines owned older
        (workspace.modules.original.map .original)
    rw [← standing, ← path] at asked
    refine ⟨outcome, asked, decided, ?_, ?_⟩
    · intro loaded
      have finds := Modules.find_eq_consult { after.modules with loaded } after.disk name
      exact finds.trans (congrArg Prod.snd asked)
    · intro asks
      exact (Modules.importName_of_asks asks).trans (congrArg Prod.snd asked)

def otherFinder : Finder :=
  { Modules.projectFinder with
    config := .ofEntries (.absolute ["lib".toList]) []
    searchRoot := .absolute ["lib".toList] }

/-- Installs under one alias; the last one is undone after the alias was imported. -/
def sharedAlias : List ModuleStep :=
  [.install (some Modules.projectFinder.config) .null,
    .importName "apis".toList,
    .install (some otherFinder.config) .null,
    .install (some Modules.projectFinder.config) .null,
    .uninstall 2 Modules.projectFinder]

/-- The newest of the finders that stand gives the alias, and the other one is not asked. -/
theorem standing_decides_sharedAlias :
    ((onDisk Finder.sharedDisk).advanceAll sharedAlias).modules.path =
        [.installed (1, otherFinder), .installed (0, Modules.projectFinder)] ∧
      (((onDisk Finder.sharedDisk).advanceAll sharedAlias).importName "apis".toList).2 =
        .ok (.package (.absolute ["lib".toList])) := by
  have made : Finder.ofConfig Finder.sharedDisk Modules.projectFinder.config .null =
      .ok Modules.projectFinder := by
    cbv
  have madeOther : Finder.ofConfig Finder.sharedDisk otherFinder.config .null =
      .ok otherFinder := by
    cbv
  have aliased : Modules.projectFinder.aliasName = .str "apis".toList := rfl
  have dotless : '.' ∉ "apis".toList := by decide
  obtain ⟨after, run⟩ : ∃ after, (onDisk Finder.sharedDisk).advanceAll sharedAlias = after :=
    ⟨_, rfl⟩
  have modules : after.modules =
      { installed := [(1, otherFinder), (0, Modules.projectFinder)], loaded := [] } := by
    rw [← run]
    simp only [advanceAll, sharedAlias, List.foldl_cons, List.foldl_nil, advance, onDisk,
      install_of_ofConfig made, install_of_ofConfig madeOther, Modules.install, uninstall,
      Modules.uninstall_of_aliasName aliased, importName]
    rw [Modules.importName_alias rfl aliased dotless (List.cons_ne_nil _ _) rfl]
    rfl
  obtain ⟨path, _, decides⟩ := standing_decides (onDisk Finder.sharedDisk) rfl sharedAlias
  have standing : (onDisk Finder.sharedDisk).standing sharedAlias =
      [(1, otherFinder), (0, Modules.projectFinder)] := by
    rw [← installed_of_bare rfl, run, modules]
  rw [standing] at path decides
  rw [run] at path decides ⊢
  refine ⟨path, ?_⟩
  have asks : after.modules.Asks after.disk "apis".toList := by
    have parents : (Modules.chainOf "apis".toList).tail = [] := by decide
    rw [Modules.Asks, parents, modules]
    exact ⟨rfl, ⟨'a', _, rfl, by decide⟩, _, _, rfl, rfl⟩
  obtain ⟨outcome, _, decided, _, gives⟩ :=
    decides "apis".toList [] (1, otherFinder) [(0, Modules.projectFinder)] rfl
      (List.forall_mem_nil _) (Finder.owns_alias rfl)
  have located : otherFinder.locate after.disk "apis".toList =
      .ok (some (.package (.absolute ["lib".toList]))) :=
    Finder.locate_alias rfl dotless after.disk
  rw [gives asks]
  rcases decided with ⟨location, found, imported⟩ | ⟨failure, fails, _⟩
  · rw [located] at found
    cases found
    exact imported
  · rw [located] at fails
    cases fails

end Workspace

end ControllerClient
