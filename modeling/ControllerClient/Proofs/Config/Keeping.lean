import ControllerClient.Proofs.Failure
import ControllerClient.Workspace

/-!
Settings that are kept, over whole runs. The way to a project's root is looked
up on the files as they are, and the settings of a root are those of its first
successful load since settings were last forgotten. What is kept and what has
happened agree root by root, and every step keeps the agreement.
-/

namespace ControllerClient

/-! ### Reading settings -/

namespace Config

theorem readEntries_eq_ok_iff {disk : Disk} {file : Path} {entries : Entries} :
    readEntries disk file = .ok entries ↔
      ∃ text, disk.readText file = .ok text ∧ Json.read text = .ok (.dict entries) := by
  unfold readEntries
  rw [bind_eq_ok_iff]
  constructor
  · rintro ⟨text, content, read⟩
    obtain ⟨value, document, read⟩ := bind_eq_ok_iff.mp read
    cases value with
    | dict found =>
        cases read
        exact ⟨text, content, document⟩
    | _ => cases read
  · rintro ⟨text, content, object⟩
    exact ⟨text, content, bind_eq_ok_iff.mpr ⟨_, object, rfl⟩⟩

theorem read_eq_ok_iff {disk : Disk} {root : Path} {config : Config} :
    read disk root = .ok config ↔
      disk.isFile (fileIn root) = true ∧
        ∃ text entries, disk.readText (fileIn root) = .ok text ∧
          Json.read text = .ok (.dict entries) ∧ config = ofEntries root entries := by
  unfold read
  by_cases there : disk.isFile (fileIn root) = true
  · rw [if_pos there]
    constructor
    · intro read
      obtain ⟨entries, found, read⟩ := bind_eq_ok_iff.mp read
      cases read
      obtain ⟨text, content, object⟩ := readEntries_eq_ok_iff.mp found
      exact ⟨there, text, entries, content, object, rfl⟩
    · rintro ⟨_, text, entries, content, object, rfl⟩
      exact bind_eq_ok_iff.mpr ⟨entries, readEntries_eq_ok_iff.mpr ⟨text, content, object⟩, rfl⟩
  · rw [if_neg there]
    constructor
    · intro read
      cases read
    · rintro ⟨isThere, _⟩
      exact absurd isThere there

/-- A load gives what is kept for the root that it leads to, or else reads the root's file. -/
theorem load_of_findProjectRoot {disk : Disk} {kept : Kept} {directory : Option Path} {root : Path}
    (found : findProjectRoot disk directory = .ok root) :
    load disk kept directory =
      match kept.lookup root with
      | some config => .ok (config, kept)
      | none => (read disk root).bind fun config => .ok (config, (root, config) :: kept) := by
  unfold load
  rw [found]
  rfl

theorem read_of_absent {disk : Disk} {root : Path} (absent : disk.isFile (fileIn root) = false) :
    read disk root = .error (.configNotFound root.text) := by
  unfold read
  dsimp only
  rw [absent]
  rfl

end Config

/-! ### Runs -/

inductive SettingsStep where
  /-- Files or the working directory change; a change that fails leaves them as they are. -/
  | edit (change : Disk → Except Failure Disk)
  | load (directory : Option Path)
  | forget

namespace Workspace

def settle (workspace : Workspace) : SettingsStep → Workspace
  | .edit change =>
    match change workspace.disk with
    | .ok disk => { workspace with disk }
    | .error _ => workspace
  | .load directory => (workspace.loadConfig directory).1
  | .forget => workspace.forgetConfigs

def settleAll (workspace : Workspace) (steps : List SettingsStep) : Workspace :=
  steps.foldl settle workspace

def loaded (workspace : Workspace) (directory : Option Path) : List (Path × Config) :=
  match Config.findProjectRoot workspace.disk directory, (workspace.loadConfig directory).2 with
  | .ok root, .ok config => [(root, config)]
  | _, _ => []

/-- The loads that succeeded since settings were last forgotten, behind those before a run. -/
def loadsSince (workspace : Workspace) (loads : List (Path × Config)) :
    List SettingsStep → List (Path × Config)
  | [] => loads
  | .edit change :: later => loadsSince (workspace.settle (.edit change)) loads later
  | .load directory :: later =>
    loadsSince (workspace.settle (.load directory)) (loads ++ workspace.loaded directory) later
  | .forget :: later => loadsSince (workspace.settle .forget) [] later

/-! ### One load -/

section Load

variable {workspace : Workspace} {directory : Option Path} {root : Path}

theorem loadConfig_of_error {failure : Failure}
    (missing : Config.findProjectRoot workspace.disk directory = .error failure) :
    workspace.loadConfig directory = (workspace, .error failure) := by
  unfold loadConfig Config.load
  rw [missing]
  rfl

theorem loadConfig_of_kept (found : Config.findProjectRoot workspace.disk directory = .ok root)
    {config : Config} (kept : workspace.kept.lookup root = some config) :
    workspace.loadConfig directory = (workspace, .ok config) := by
  unfold loadConfig
  rw [Config.load_of_findProjectRoot found, kept]

theorem loadConfig_of_new (found : Config.findProjectRoot workspace.disk directory = .ok root)
    (new : workspace.kept.lookup root = none) :
    workspace.loadConfig directory =
      match Config.read workspace.disk root with
      | .ok config => ({ workspace with kept := (root, config) :: workspace.kept }, .ok config)
      | .error failure => (workspace, .error failure) := by
  unfold loadConfig
  rw [Config.load_of_findProjectRoot found, new]
  cases Config.read workspace.disk root with
  | error failure => rfl
  | ok config => rfl

theorem disk_loadConfig (workspace : Workspace) (directory : Option Path) :
    (workspace.loadConfig directory).1.disk = workspace.disk := by
  unfold loadConfig
  cases Config.load workspace.disk workspace.kept directory with
  | error failure => rfl
  | ok loaded => rfl

theorem loadConfig_eq_self {failure : Failure}
    (fails : (workspace.loadConfig directory).2 = .error failure) :
    (workspace.loadConfig directory).1 = workspace := by
  unfold loadConfig at fails ⊢
  cases loads : Config.load workspace.disk workspace.kept directory with
  | error failure => rfl
  | ok loaded =>
      rw [loads] at fails
      cases fails

theorem lookup_loadConfig_of_ne
    (elsewhere : Config.findProjectRoot workspace.disk directory ≠ .ok root) :
    (workspace.loadConfig directory).1.kept.lookup root = workspace.kept.lookup root := by
  cases found : Config.findProjectRoot workspace.disk directory with
  | error failure => rw [loadConfig_of_error found]
  | ok other =>
      cases kept : workspace.kept.lookup other with
      | some config => rw [loadConfig_of_kept found kept]
      | none =>
          rw [loadConfig_of_new found kept]
          cases Config.read workspace.disk other with
          | error failure => rfl
          | ok config =>
              have differ : root ≠ other := by
                rintro rfl
                exact elsewhere found
              change List.lookup root ((other, config) :: workspace.kept) = _
              rw [List.lookup_cons, beq_false_of_ne differ]

/-- What a load gives for a root is kept for the root. -/
theorem lookup_loadConfig_self (found : Config.findProjectRoot workspace.disk directory = .ok root)
    {config : Config} (gives : (workspace.loadConfig directory).2 = .ok config) :
    (workspace.loadConfig directory).1.kept.lookup root = some config := by
  cases kept : workspace.kept.lookup root with
  | some earlier =>
      rw [loadConfig_of_kept found kept] at gives ⊢
      cases gives
      exact kept
  | none =>
      rw [loadConfig_of_new found kept] at gives ⊢
      cases read : Config.read workspace.disk root with
      | error failure =>
          rw [read] at gives
          cases gives
      | ok new =>
          rw [read] at gives
          cases gives
          change List.lookup root ((root, config) :: workspace.kept) = _
          rw [List.lookup_cons_self]

end Load

/-! ### What is kept and what has happened -/

/-- What is kept for each root is what the first load of the root gave. -/
def Remembers (workspace : Workspace) (loads : List (Path × Config)) : Prop :=
  ∀ root, workspace.kept.lookup root = loads.lookup root

theorem Remembers.load {workspace : Workspace} {loads : List (Path × Config)}
    (remembers : workspace.Remembers loads) (directory : Option Path) :
    (workspace.loadConfig directory).1.Remembers (loads ++ workspace.loaded directory) := by
  intro root
  unfold loaded
  rw [List.lookup_append]
  cases found : Config.findProjectRoot workspace.disk directory with
  | error failure =>
      rw [loadConfig_of_error found]
      simp [remembers root]
  | ok other =>
      cases gives : (workspace.loadConfig directory).2 with
      | error failure =>
          rw [loadConfig_eq_self gives]
          simp [remembers root]
      | ok config =>
          by_cases same : root = other
          · -- The root of the load: either it was kept, and so given, or it is new.
            subst same
            rw [lookup_loadConfig_self found gives, ← remembers root]
            cases kept : workspace.kept.lookup root with
            | some earlier =>
                rw [loadConfig_of_kept found kept] at gives
                cases gives
                rfl
            | none => simp
          · have elsewhere : Config.findProjectRoot workspace.disk directory ≠ .ok root := by
              rw [found]
              intro equal
              exact same (Except.ok.inj equal).symm
            rw [lookup_loadConfig_of_ne elsewhere, remembers root]
            simp [List.lookup_cons, beq_false_of_ne same]

theorem Remembers.settleAll {workspace : Workspace} {loads : List (Path × Config)}
    (remembers : workspace.Remembers loads) (steps : List SettingsStep) :
    (workspace.settleAll steps).Remembers (workspace.loadsSince loads steps) := by
  induction steps generalizing workspace loads with
  | nil => exact remembers
  | cons step steps ih =>
      cases step with
      | edit change =>
          apply ih
          unfold settle
          dsimp only
          cases change workspace.disk with
          | error failure => exact remembers
          | ok disk => exact remembers
      | load directory => exact ih (remembers.load directory)
      | forget =>
          apply ih
          intro root
          rfl

/-- A load gives what is remembered for the root that it leads to, or else what it reads. -/
theorem Remembers.loadConfig_eq {workspace : Workspace} {loads : List (Path × Config)}
    (remembers : workspace.Remembers loads) (directory : Option Path) :
    (workspace.loadConfig directory).2 =
      match Config.findProjectRoot workspace.disk directory with
      | .error failure => .error failure
      | .ok root =>
        match loads.lookup root with
        | some config => .ok config
        | none => Config.read workspace.disk root := by
  cases found : Config.findProjectRoot workspace.disk directory with
  | error failure => rw [loadConfig_of_error found]
  | ok root =>
      dsimp only
      rw [← remembers root]
      cases kept : workspace.kept.lookup root with
      | some config => rw [loadConfig_of_kept found kept]
      | none =>
          rw [loadConfig_of_new found kept]
          cases Config.read workspace.disk root with
          | error failure => rfl
          | ok config => rfl

/-! ### Runs that differ in one load -/

/-- The files are the same, and so is what is kept for a root. -/
structure AgreesFor (root : Path) (workspace other : Workspace) : Prop where
  disk : workspace.disk = other.disk
  kept : workspace.kept.lookup root = other.kept.lookup root

theorem AgreesFor.loadConfig_eq {root : Path} {workspace other : Workspace}
    (agrees : AgreesFor root workspace other) {directory : Option Path}
    (found : Config.findProjectRoot workspace.disk directory = .ok root) :
    (workspace.loadConfig directory).2 = (other.loadConfig directory).2 := by
  have foundOther : Config.findProjectRoot other.disk directory = .ok root := by
    rw [← agrees.disk]
    exact found
  cases kept : workspace.kept.lookup root with
  | some config =>
      rw [loadConfig_of_kept found kept, loadConfig_of_kept foundOther (agrees.kept ▸ kept)]
  | none =>
      rw [loadConfig_of_new found kept, loadConfig_of_new foundOther (agrees.kept ▸ kept),
        agrees.disk]
      cases Config.read other.disk root with
      | error failure => rfl
      | ok config => rfl

theorem AgreesFor.load {root : Path} {workspace other : Workspace}
    (agrees : AgreesFor root workspace other) (directory : Option Path) :
    AgreesFor root (workspace.loadConfig directory).1 (other.loadConfig directory).1 := by
  refine ⟨?_, ?_⟩
  · rw [disk_loadConfig, disk_loadConfig, agrees.disk]
  · by_cases found : Config.findProjectRoot workspace.disk directory = .ok root
    · have same := agrees.loadConfig_eq found
      have foundOther : Config.findProjectRoot other.disk directory = .ok root := by
        rw [← agrees.disk]
        exact found
      cases gives : (workspace.loadConfig directory).2 with
      | error failure =>
          rw [gives] at same
          rw [loadConfig_eq_self gives, loadConfig_eq_self same.symm]
          exact agrees.kept
      | ok config =>
          rw [gives] at same
          rw [lookup_loadConfig_self found gives, lookup_loadConfig_self foundOther same.symm]
    · have elsewhere : Config.findProjectRoot other.disk directory ≠ .ok root := by
        rw [← agrees.disk]
        exact found
      rw [lookup_loadConfig_of_ne found, lookup_loadConfig_of_ne elsewhere]
      exact agrees.kept

theorem AgreesFor.settleAll {root : Path} {workspace other : Workspace}
    (agrees : AgreesFor root workspace other) (steps : List SettingsStep) :
    AgreesFor root (workspace.settleAll steps) (other.settleAll steps) := by
  induction steps generalizing workspace other with
  | nil => exact agrees
  | cons step steps ih =>
      apply ih
      cases step with
      | edit change =>
          unfold settle
          dsimp only
          rw [← agrees.disk]
          cases change workspace.disk with
          | error failure => exact agrees
          | ok disk => exact ⟨rfl, agrees.kept⟩
      | load directory => exact agrees.load directory
      | forget => exact ⟨agrees.disk, rfl⟩

theorem agreesFor_loadConfig {root : Path} {workspace : Workspace} {directory : Option Path}
    (idle : Config.findProjectRoot workspace.disk directory ≠ .ok root ∨
      ∃ failure, (workspace.loadConfig directory).2 = .error failure) :
    AgreesFor root (workspace.loadConfig directory).1 workspace := by
  rcases idle with elsewhere | ⟨failure, fails⟩
  · exact ⟨disk_loadConfig workspace directory, lookup_loadConfig_of_ne elsewhere⟩
  · rw [loadConfig_eq_self fails]
    exact ⟨rfl, rfl⟩

/--
Settings over a run of any length, from a start at which nothing is kept. A load looks up the
project's root on the files as they are. It gives what the first load that succeeded for this
root since settings were last forgotten gave, whatever the files are now, and if there was none
it reads the root's file as it is, which has to hold an object. A load that fails leaves nothing
behind, and without a load that failed or led to another root a later load for a root gives the
same.
-/
theorem loadConfig_settleAll (disk : Disk) :
    (∀ (steps : List SettingsStep) (directory : Option Path),
      let workspace := (onDisk disk).settleAll steps
      ((workspace.loadConfig directory).2 =
          match Config.findProjectRoot workspace.disk directory with
          | .error failure => .error failure
          | .ok root =>
            match ((onDisk disk).loadsSince [] steps).lookup root with
            | some config => .ok config
            | none => Config.read workspace.disk root) ∧
        (∀ root config, Config.read workspace.disk root = .ok config ↔
          workspace.disk.isFile (Config.fileIn root) = true ∧
            ∃ text entries, workspace.disk.readText (Config.fileIn root) = .ok text ∧
              Json.read text = .ok (.dict entries) ∧ config = .ofEntries root entries) ∧
        ∀ failure, (workspace.loadConfig directory).2 = .error failure →
          (workspace.loadConfig directory).1 = workspace) ∧
    ∀ (earlier later : List SettingsStep) (idle directory : Option Path) (root : Path),
      let before := (onDisk disk).settleAll earlier
      (Config.findProjectRoot before.disk idle ≠ .ok root ∨
        ∃ failure, (before.loadConfig idle).2 = .error failure) →
      let after := (onDisk disk).settleAll (earlier ++ .load idle :: later)
      let shorter := (onDisk disk).settleAll (earlier ++ later)
      after.disk = shorter.disk ∧
        (Config.findProjectRoot after.disk directory = .ok root →
          (after.loadConfig directory).2 = (shorter.loadConfig directory).2) := by
  refine ⟨?_, ?_⟩
  · intro steps directory workspace
    have remembers : (onDisk disk).Remembers [] := fun root => rfl
    refine ⟨(remembers.settleAll steps).loadConfig_eq directory, ?_, ?_⟩
    · intro root config
      exact Config.read_eq_ok_iff
    · intro failure fails
      exact loadConfig_eq_self fails
  · intro earlier later idle directory root before unconcerned after shorter
    have agrees : AgreesFor root after shorter := by
      change AgreesFor root (settleAll _ (earlier ++ .load idle :: later))
        (settleAll _ (earlier ++ later))
      unfold settleAll
      rw [List.foldl_append, List.foldl_append, List.foldl_cons]
      exact (agreesFor_loadConfig unconcerned).settleAll later
    exact ⟨agrees.disk, fun found => agrees.loadConfig_eq found⟩

def redirectedDisk : Disk :=
  { tree := ⟨[(["w".toList], .directory), (["p".toList], .directory),
      (["w".toList, Config.fileName], .file (Utf8.encode "\x7b\"root\":\"/p\"\x7d".toList)),
      (["p".toList, Config.fileName], .file (Utf8.encode "\x7b\x7d".toList))]⟩
    here := ["w".toList] }

def removal : SettingsStep :=
  .edit fun disk => disk.remove (Path.ofText "/p/full-stack.json".toList)

/--
Settings outlast their file, until they are forgotten, and a load from a directory without
settings makes no difference.
-/
theorem loadConfig_settleAll_removed :
    (((onDisk redirectedDisk).settleAll [.load none, removal]).loadConfig none).2 =
        .ok (.ofEntries (.absolute ["p".toList]) []) ∧
      (((onDisk redirectedDisk).settleAll [.load none, removal, .forget]).loadConfig none).2 =
        .error (.configNotFound "/p".toList) ∧
      (((onDisk redirectedDisk).settleAll
          ([.load none] ++ .load (some (.absolute [])) :: [removal])).loadConfig none).2 =
        (((onDisk redirectedDisk).settleAll ([.load none] ++ [removal])).loadConfig none).2 := by
  obtain ⟨answers, unchanged⟩ := loadConfig_settleAll redirectedDisk
  refine ⟨?_, ?_, ?_⟩
  · rw [(answers [.load none, removal] none).1]
    cbv
  · let settled := (onDisk redirectedDisk).settleAll [.load none, removal, .forget]
    have found : Config.findProjectRoot settled.disk none = .ok (.absolute ["p".toList]) := by cbv
    have absent : settled.disk.isFile (Config.fileIn (.absolute ["p".toList])) = false := by cbv
    rw [(answers [.load none, removal, .forget] none).1, found]
    exact Config.read_of_absent absent
  · have fails : Config.findProjectRoot
        ((onDisk redirectedDisk).settleAll [.load none]).disk (some (.absolute [])) =
          .error (.configNotFound "/".toList) := by cbv
    have found : Config.findProjectRoot ((onDisk redirectedDisk).settleAll
        ([.load none] ++ .load (some (.absolute [])) :: [removal])).disk none =
          .ok (.absolute ["p".toList]) := by cbv
    refine (unchanged _ _ _ _ _ (Or.inl ?_)).2 found
    rw [fails]
    intro same
    cases same

end Workspace

end ControllerClient
