import ControllerClient.Module
import ControllerClient.Proofs.Finder.Packages
import ControllerClient.Proofs.Table

/-!
Imports of names below the alias of a finder. A name is imported after the names
above it, which are packages unless they stand for files themselves, so that
nothing but such a file stands between a name and what it resolves to.
-/

namespace ControllerClient.Modules

open Finder (nameOf IsPlain)

/-! ### Single modules -/

section Steps

variable {modules : Modules} {disk : Disk} {finder : Finder} {name : Text}

theorem client_of_runController {id : Text} {module : Module}
    (runs : runController finder disk id = .ok module) : ∃ client, module = .client client := by
  obtain ⟨source, _, runs⟩ := bind_eq_ok_iff.mp runs
  obtain ⟨code?, _, runs⟩ := bind_eq_ok_iff.mp runs
  cases code? with
  | none => cases runs
  | some code =>
      obtain ⟨client, _, runs⟩ := bind_eq_ok_iff.mp runs
      cases runs
      exact ⟨client, rfl⟩

theorem checkParent_eq_ok_iff {parent : Text} {above : List Text} :
    modules.checkParent name (parent :: above) = .ok () ↔
      ∀ client, modules.loaded.lookup parent ≠ some (.client client) := by
  rw [checkParent]
  constructor
  · intro passes client same
    rw [same] at passes
    cases passes
  · intro noClient
    split
    · next client same => exact absurd same (noClient client)
    · rfl

theorem locateIn_front (number : Nat) (others : List (Nat × Finder))
    (owned : finder.owns name = .ok true) :
    locateIn disk name ((number, finder) :: others) =
      (finder.locate disk name).map (Option.map (finder, ·)) := by
  rw [locateIn]
  rcases Finder.locates_or_fails disk owned with ⟨location, located⟩ | ⟨failure, fails⟩
  · rw [located]
    rfl
  · rw [fails]
    rfl

theorem find_eq_ok_iff {number : Nat} {others : List (Nat × Finder)}
    (front : modules.installed = (number, finder) :: others) (owned : finder.owns name = .ok true)
    {module : Module} :
    modules.find disk name = .ok module ↔
      ∃ location, finder.locate disk name = .ok (some location) ∧
        runLocation finder disk location = .ok module := by
  unfold find
  rw [front, locateIn_front number others owned]
  rcases Finder.locates_or_fails disk owned with ⟨location, located⟩ | ⟨failure, fails⟩
  · rw [located]
    constructor
    · intro runs
      exact ⟨location, rfl, runs⟩
    · rintro ⟨other, same, runs⟩
      cases same
      exact runs
  · rw [fails]
    constructor
    · intro none
      cases none
    · rintro ⟨location, none, _⟩
      cases none

theorem load_eq_ok_iff {parents : List Text} {next : Modules} {module : Module} :
    modules.load disk name parents = (next, .ok module) ↔
      modules.checkParent name parents = .ok () ∧ modules.find disk name = .ok module ∧
        next = { modules with loaded := Table.insert modules.loaded name module } := by
  unfold load
  cases found : (do modules.checkParent name parents; modules.find disk name) with
  | error failure =>
      constructor
      · intro none
        cases none
      · rintro ⟨passes, finds, _⟩
        rw [bind_eq_ok_iff.mpr ⟨(), passes, finds⟩] at found
        cases found
  | ok other =>
      obtain ⟨_, passes, finds⟩ := bind_eq_ok_iff.mp found
      constructor
      · intro loads
        cases loads
        exact ⟨passes, finds, rfl⟩
      · rintro ⟨_, same, rfl⟩
        rw [finds] at same
        cases same
        rfl

theorem loadChain_of_unloaded {parents : List Text} (unloaded : modules.loaded.lookup name = none) :
    modules.loadChain disk (name :: parents) =
      match modules.loadChain disk parents with
      | (after, .error failure) => (after, .error failure)
      | (after, .ok _) =>
        ((after.load disk name parents).1, (after.load disk name parents).2.map some) := by
  cases imports : modules.loadChain disk parents with
  | mk after outcome =>
      cases outcome with
      | error failure => rw [loadChain, unloaded, imports]
      | ok outcome => rw [loadChain, unloaded, imports]

def IsAbsolute (name : Text) : Prop := ∃ c rest, name = c :: rest ∧ c ≠ '.'

theorem importName_of_unloaded {parents : List Text} (chain : chainOf name = name :: parents)
    (unloaded : modules.loaded.lookup name = none) (absolute : IsAbsolute name) :
    modules.importName disk name =
      match modules.loadChain disk parents with
      | (after, .error failure) => (after, .error failure)
      | (after, .ok _) => after.load disk name parents := by
  obtain ⟨c, rest, rfl, notDot⟩ := absolute
  rw [importName, chain, loadChain_of_unloaded unloaded]
  · cases modules.loadChain disk parents with
    | mk after outcome =>
        cases outcome with
        | error failure => rfl
        | ok outcome =>
            dsimp only
            cases after.load disk (c :: rest) parents with
            | mk next result =>
                cases result with
                | error failure => rfl
                | ok module => rfl
  · intro none
    cases none
  · intro later same
    exact notDot (List.cons.inj same).1

/--
Importing a name comes to a file: the names above it are imported, modules can stand below the
last of them, and a finder that is asked for the name gives the id of the file.
-/
def Reaches (modules : Modules) (disk : Disk) (name : Text) (finder : Finder) (id : Text) : Prop :=
  modules.loaded.lookup name = none ∧
    ∃ parents after outcome, chainOf name = name :: parents ∧
      modules.loadChain disk parents = (after, .ok outcome) ∧
      after.checkParent name parents = .ok () ∧
      locateIn disk name after.installed = .ok (some (finder, .controller id))

theorem importName_of_reaches {id : Text} (absolute : IsAbsolute name)
    (reaches : modules.Reaches disk name finder id) :
    (modules.importName disk name).2 = runController finder disk id := by
  obtain ⟨unloaded, parents, after, outcome, chain, imports, passes, located⟩ := reaches
  have finds : after.find disk name = runController finder disk id := by
    unfold find
    rw [located]
    rfl
  rw [importName_of_unloaded chain unloaded absolute, imports]
  dsimp only
  unfold load
  rw [passes, finds]
  cases runController finder disk id with
  | error failure => rfl
  | ok module => rfl

end Steps

/-! ### The names above a name -/

/-- The first names from an alias on down to some parts, longest first. -/
def beginnings (aliasName : Text) (parts : List Text) : Nat → List Text
  | 0 => []
  | count + 1 => nameOf aliasName (parts.take count) :: beginnings aliasName parts count

theorem map_reverse_range (aliasName : Text) (parts : List Text) (count : Nat) :
    ((List.range count).reverse.map fun n =>
        Text.joined ['.'] ((aliasName :: parts).take (n + 1))) =
      beginnings aliasName parts count := by
  induction count with
  | zero => rfl
  | succ count ih =>
      rw [List.range_succ, List.reverse_append, List.reverse_singleton, List.singleton_append,
        List.map_cons, ih]
      rfl

theorem chainOf_nameOf {aliasName : Text} (dotless : '.' ∉ aliasName) {parts : List Text}
    (plain : ∀ part ∈ parts, IsPlain part) :
    chainOf (nameOf aliasName parts) =
      nameOf aliasName parts :: beginnings aliasName parts parts.length := by
  have free : ∀ part ∈ aliasName :: parts, '.' ∉ part :=
    List.forall_mem_cons.mpr ⟨dotless, fun part present => (plain part present).isPart.1⟩
  unfold chainOf nameOf
  rw [Text.pieces_joined (List.cons_ne_nil _ _) free, map_reverse_range, List.length_cons,
    beginnings, List.take_length]
  rfl

theorem nameOf_take_inj {aliasName : Text} (dotless : '.' ∉ aliasName) {parts : List Text}
    (plain : ∀ part ∈ parts, IsPlain part) {left right : Nat} (belowLeft : left ≤ parts.length)
    (belowRight : right ≤ parts.length)
    (same : nameOf aliasName (parts.take left) = nameOf aliasName (parts.take right)) :
    left = right := by
  have taken (height : Nat) :
      Finder.partsOf (nameOf aliasName (parts.take height)) = parts.take height :=
    Finder.partsOf_nameOf dotless fun part present =>
      (plain part (List.mem_of_mem_take present)).isPart
  have equal := congrArg Finder.partsOf same
  rw [taken, taken] at equal
  have lengths := congrArg List.length equal
  rw [List.length_take, List.length_take] at lengths
  omega

theorem isAbsolute_nameOf {aliasName : Text} (dotless : '.' ∉ aliasName) (some_ : aliasName ≠ [])
    (parts : List Text) : IsAbsolute (nameOf aliasName parts) := by
  cases aliasName with
  | nil => exact absurd rfl some_
  | cons c rest =>
      have notDot : c ≠ '.' := by
        rintro rfl
        exact dotless List.mem_cons_self
      cases parts with
      | nil => exact ⟨c, rest, rfl, notDot⟩
      | cons part parts =>
          exact ⟨c, _, Finder.nameOf_eq (c :: rest) (List.cons_ne_nil part parts), notDot⟩

/-! ### Imports below an alias -/

/--
Modules after the first names from an alias on have been imported one after the other: the names
that follow are still to be imported, and there is a client under a name exactly when it stands
for a file. Only the last of the names can stand for one, since nothing is imported below it.
-/
structure Imported (modules : Modules) (disk : Disk) (finder : Finder) (aliasName : Text)
    (parts : List Text) (count : Nat) (after : Modules) : Prop where
  installed : after.installed = modules.installed
  unloaded : ∀ height, count ≤ height → height ≤ parts.length →
    after.loaded.lookup (nameOf aliasName (parts.take height)) = none
  last : ∀ height, height + 1 = count →
    ((∃ client, after.loaded.lookup (nameOf aliasName (parts.take height)) =
        some (.client client)) ↔
      ∃ id, finder.resolve disk (nameOf aliasName (parts.take height)) = .ok (some id))
  above : ∀ height, height + 1 < count → ∀ id,
    finder.resolve disk (nameOf aliasName (parts.take height)) ≠ .ok (some id)

section Chain

variable {modules after : Modules} {disk : Disk} {finder : Finder} {number : Nat}
  {others : List (Nat × Finder)} {aliasName : Text} {parts : List Text} {count : Nat}

theorem Imported.checkParent_iff
    (imported : Imported modules disk finder aliasName parts count after) (name : Text) :
    after.checkParent name (beginnings aliasName parts count) = .ok () ↔
      ∀ height, height < count → ∀ id,
        finder.resolve disk (nameOf aliasName (parts.take height)) ≠ .ok (some id) := by
  cases count with
  | zero =>
      constructor
      · intro _ height below
        cases below
      · intro _
        rfl
  | succ count =>
      rw [beginnings, checkParent_eq_ok_iff]
      constructor
      · intro noClient height below id resolved
        rcases Nat.lt_succ_iff_lt_or_eq.mp below with higher | rfl
        · exact imported.above height (Nat.succ_lt_succ higher) id resolved
        · obtain ⟨client, loaded⟩ := (imported.last height rfl).mpr ⟨id, resolved⟩
          exact noClient client loaded
      · intro noFile client loaded
        obtain ⟨id, resolved⟩ := (imported.last count rfl).mp ⟨client, loaded⟩
        exact noFile count (Nat.lt_succ_self count) id resolved

variable (front : modules.installed = (number, finder) :: others)
  (aliased : finder.aliasName = .str aliasName) (dotless : '.' ∉ aliasName)
  (plain : ∀ part ∈ parts, IsPlain part)

include front aliased

/-- What is found for a name is a client exactly when the name stands for a file. -/
theorem client_of_find_iff (imported : Imported modules disk finder aliasName parts count after)
    {height : Nat} {module : Module}
    (finds : after.find disk (nameOf aliasName (parts.take height)) = .ok module) :
    (∃ client, module = .client client) ↔
      ∃ id, finder.resolve disk (nameOf aliasName (parts.take height)) = .ok (some id) := by
  obtain ⟨location, located, runs⟩ :=
    (find_eq_ok_iff (imported.installed.trans front)
      (Finder.owns_beginning aliased parts height)).mp finds
  cases location with
  | package directory =>
      constructor
      · rintro ⟨client, rfl⟩
        cases runs
      · rintro ⟨id, resolved⟩
        have file := Finder.locate_eq_controller_iff.mpr resolved
        rw [located] at file
        cases file
  | controller id =>
      constructor
      · rintro _
        exact ⟨id, Finder.locate_eq_controller_iff.mp located⟩
      · intro _
        exact client_of_runController runs

include dotless plain

theorem Imported.load (imported : Imported modules disk finder aliasName parts count after)
    (within : count ≤ parts.length) {next : Modules} {module : Module}
    (loads : after.load disk (nameOf aliasName (parts.take count))
      (beginnings aliasName parts count) = (next, .ok module)) :
    Imported modules disk finder aliasName parts (count + 1) next := by
  obtain ⟨passes, finds, rfl⟩ := load_eq_ok_iff.mp loads
  refine ⟨imported.installed, ?_, ?_, ?_⟩
  · intro height beyond below
    have differs : nameOf aliasName (parts.take height) ≠ nameOf aliasName (parts.take count) := by
      intro same
      have equal := nameOf_take_inj dotless plain below within same
      omega
    rw [Table.lookup_insert_of_ne _ _ differs]
    exact imported.unloaded height (by omega) below
  · intro height isLast
    cases Nat.succ.inj isLast
    rw [Table.lookup_insert_self]
    rw [← client_of_find_iff front aliased imported finds]
    constructor
    · rintro ⟨client, same⟩
      exact ⟨client, Option.some.inj same⟩
    · rintro ⟨client, rfl⟩
      exact ⟨client, rfl⟩
  · intro height below
    exact (imported.checkParent_iff _).mp passes height (Nat.lt_of_succ_lt_succ below)

variable (fresh : ∀ name, finder.owns name = .ok true → modules.loaded.lookup name = none)

include fresh

omit front dotless plain in
theorem unloaded_beginning (parts : List Text) (height : Nat) :
    modules.loaded.lookup (nameOf aliasName (parts.take height)) = none :=
  fresh _ (Finder.owns_beginning aliased parts height)

/-- Importing the first names from an alias on imports them one after the other. -/
theorem imported_of_loadChain (within : count ≤ parts.length) {outcome : Option Module}
    (imports : modules.loadChain disk (beginnings aliasName parts count) = (after, .ok outcome)) :
    Imported modules disk finder aliasName parts count after := by
  induction count generalizing after outcome with
  | zero =>
      cases imports
      refine ⟨rfl, fun height _ _ => unloaded_beginning aliased fresh parts height, ?_, ?_⟩
      · intro height none
        cases none
      · intro height none
        cases none
  | succ count ih =>
      rw [beginnings, loadChain_of_unloaded (unloaded_beginning aliased fresh parts count)] at imports
      split at imports
      · cases imports
      · next before _ earlier =>
          have imported := ih (by omega) earlier
          cases loaded : before.load disk (nameOf aliasName (parts.take count))
              (beginnings aliasName parts count) with
          | mk next result =>
              rw [loaded] at imports
              cases result with
              | error failure => cases imports
              | ok module =>
                  cases imports
                  exact imported.load front aliased dotless plain (by omega) loaded

theorem loadChain_of_packages (within : count ≤ parts.length)
    (packages : ∀ height, height < count → ∃ directory,
      finder.locate disk (nameOf aliasName (parts.take height)) = .ok (some (.package directory))) :
    ∃ after outcome,
      modules.loadChain disk (beginnings aliasName parts count) = (after, .ok outcome) := by
  induction count with
  | zero => exact ⟨modules, none, rfl⟩
  | succ count ih =>
      obtain ⟨before, outcome, earlier⟩ :=
        ih (by omega) fun height below => packages height (Nat.lt_succ_of_lt below)
      have imported := imported_of_loadChain front aliased dotless plain fresh (by omega) earlier
      have noFile : ∀ height, height < count → ∀ id,
          finder.resolve disk (nameOf aliasName (parts.take height)) ≠ .ok (some id) := by
        intro height below id resolved
        obtain ⟨directory, package⟩ := packages height (Nat.lt_succ_of_lt below)
        rw [Finder.locate_eq_controller_iff.mpr resolved] at package
        cases package
      obtain ⟨directory, package⟩ := packages count (Nat.lt_succ_self count)
      have finds : before.find disk (nameOf aliasName (parts.take count)) =
          .ok (.package directory) :=
        (find_eq_ok_iff (imported.installed.trans front)
          (Finder.owns_beginning aliased parts count)).mpr ⟨_, package, rfl⟩
      have loads := load_eq_ok_iff.mpr ⟨(imported.checkParent_iff _).mpr noFile, finds, rfl⟩
      rw [beginnings, loadChain_of_unloaded (unloaded_beginning aliased fresh parts count), earlier]
      dsimp only
      rw [loads]
      exact ⟨_, _, rfl⟩

/--
A name is imported from the file that it stands for exactly when there is such a file and no name
above stands for a file.
-/
theorem reaches_iff (rooted : finder.searchRoot.root = .top) {id : Text} :
    modules.Reaches disk (nameOf aliasName parts) finder id ↔
      finder.resolve disk (nameOf aliasName parts) = .ok (some id) ∧
        ∀ height, height < parts.length → ∀ other,
          finder.resolve disk (nameOf aliasName (parts.take height)) ≠ .ok (some other) := by
  have owned : finder.owns (nameOf aliasName parts) = .ok true := by
    have whole := Finder.owns_beginning aliased parts parts.length
    rwa [List.take_length] at whole
  have chain := chainOf_nameOf dotless plain
  constructor
  · rintro ⟨_, parents, after, outcome, split, imports, passes, located⟩
    obtain rfl : beginnings aliasName parts parts.length = parents :=
      (List.cons.inj (chain.symm.trans split)).2
    have imported := imported_of_loadChain front aliased dotless plain fresh le_rfl imports
    refine ⟨?_, (imported.checkParent_iff _).mp passes⟩
    rw [imported.installed, front, locateIn_front number others owned] at located
    apply Finder.locate_eq_controller_iff.mp
    cases location : finder.locate disk (nameOf aliasName parts) with
    | error failure =>
        rw [location] at located
        cases located
    | ok found =>
        cases found with
        | none =>
            rw [location] at located
            cases located
        | some found =>
            rw [location] at located
            cases located
            rfl
  · rintro ⟨resolved, noFile⟩
    obtain ⟨after, outcome, imports⟩ :=
      loadChain_of_packages front aliased dotless plain fresh le_rfl fun height within =>
        ⟨_, Finder.locate_beginning aliased dotless rooted plain resolved within
          (noFile height within)⟩
    have imported := imported_of_loadChain front aliased dotless plain fresh le_rfl imports
    refine ⟨fresh _ owned, _, after, outcome, chain, imports,
      (imported.checkParent_iff _).mpr noFile, ?_⟩
    rw [imported.installed, front, locateIn_front number others owned,
      Finder.locate_eq_controller_iff.mpr resolved]
    rfl

/-- An import that gives a client reaches a file. -/
theorem reaches_of_importName (rooted : finder.searchRoot.root = .top) (some_ : aliasName ≠ [])
    {client : ClientModule}
    (imports : (modules.importName disk (nameOf aliasName parts)).2 = .ok (.client client)) :
    ∃ id, modules.Reaches disk (nameOf aliasName parts) finder id := by
  have unloaded : modules.loaded.lookup (nameOf aliasName parts) = none := by
    have whole := unloaded_beginning aliased fresh parts parts.length
    rwa [List.take_length] at whole
  rw [importName_of_unloaded (chainOf_nameOf dotless plain) unloaded
    (isAbsolute_nameOf dotless some_ parts)] at imports
  split at imports
  · cases imports
  · next after _ earlier =>
      have imported := imported_of_loadChain front aliased dotless plain fresh le_rfl earlier
      cases loaded : after.load disk (nameOf aliasName parts)
          (beginnings aliasName parts parts.length) with
      | mk next result =>
          rw [loaded] at imports
          obtain rfl : result = .ok (.client client) := imports
          obtain ⟨passes, finds, _⟩ := load_eq_ok_iff.mp loaded
          have whole : nameOf aliasName (parts.take parts.length) = nameOf aliasName parts := by
            rw [List.take_length]
          rw [← whole] at finds
          obtain ⟨id, resolved⟩ :=
            (client_of_find_iff front aliased imported finds).mp ⟨client, rfl⟩
          rw [whole] at resolved
          exact ⟨id, (reaches_iff front aliased dotless plain fresh rooted).mpr
            ⟨resolved, (imported.checkParent_iff _).mp passes⟩⟩

end Chain

/--
Names below the alias of any finder of a project, on any file tree. A name is located in the
file that it stands for, if there is one, and then no name above it fails: each is a package, or
else a file itself. So, with the finder in front and nothing below its alias imported yet, a name
is imported from its file exactly when there is one and no name above stands for a file, and
whatever is imported from no file is no client. Names below the empty alias begin with a dot, so
that they cannot be imported by themselves.
-/
theorem import_reaches {origin disk : Disk} {config : Config} {given : Value} {finder : Finder}
    (made : Finder.ofConfig origin config given = .ok finder) {aliasName : Text}
    (aliased : finder.aliasName = .str aliasName) (dotless : '.' ∉ aliasName) {parts : List Text}
    (identifiers : ∀ part ∈ parts, Text.isIdentifier part = true) :
    (∀ id, finder.locate disk (Text.joined ['.'] (aliasName :: parts)) =
          .ok (some (.controller id)) ↔
        finder.resolve disk (Text.joined ['.'] (aliasName :: parts)) = .ok (some id)) ∧
    (∀ id, finder.resolve disk (Text.joined ['.'] (aliasName :: parts)) = .ok (some id) →
      ∀ height, height < parts.length →
        (∃ other,
          finder.resolve disk (Text.joined ['.'] (aliasName :: parts.take height)) =
              .ok (some other) ∧
            finder.locate disk (Text.joined ['.'] (aliasName :: parts.take height)) =
              .ok (some (.controller other))) ∨
        (∀ other, finder.resolve disk (Text.joined ['.'] (aliasName :: parts.take height)) ≠
            .ok (some other)) ∧
          finder.locate disk (Text.joined ['.'] (aliasName :: parts.take height)) =
            .ok (some (.package (Path.absolute (finder.searchRoot.parts ++ parts.take height))))) ∧
    ∀ (modules : Modules) (number : Nat) (others : List (Nat × Finder)),
      modules.installed = (number, finder) :: others →
      (∀ name, finder.owns name = .ok true → modules.loaded.lookup name = none) →
        (∀ id, modules.Reaches disk (Text.joined ['.'] (aliasName :: parts)) finder id ↔
          finder.resolve disk (Text.joined ['.'] (aliasName :: parts)) = .ok (some id) ∧
            ∀ height, height < parts.length → ∀ other,
              finder.resolve disk (Text.joined ['.'] (aliasName :: parts.take height)) ≠
                .ok (some other)) ∧
        (aliasName ≠ [] →
          (∀ id, modules.Reaches disk (Text.joined ['.'] (aliasName :: parts)) finder id →
            (modules.importName disk (Text.joined ['.'] (aliasName :: parts))).2 =
              runController finder disk id) ∧
          ∀ client, (modules.importName disk (Text.joined ['.'] (aliasName :: parts))).2 =
              .ok (.client client) →
            ∃ id, modules.Reaches disk (Text.joined ['.'] (aliasName :: parts)) finder id) := by
  have rooted := Finder.root_of_ofConfig made
  have plain : ∀ part ∈ parts, IsPlain part :=
    fun part present => Finder.isPlain_of_isIdentifier (identifiers part present)
  refine ⟨fun id => Finder.locate_eq_controller_iff, ?_, ?_⟩
  · intro id resolved height within
    by_cases file : ∃ other,
        finder.resolve disk (nameOf aliasName (parts.take height)) = .ok (some other)
    · obtain ⟨other, above⟩ := file
      exact Or.inl ⟨other, above, Finder.locate_eq_controller_iff.mpr above⟩
    · have noFile := not_exists.mp file
      exact Or.inr ⟨noFile, Finder.locate_beginning aliased dotless rooted plain resolved within
        noFile⟩
  · intro modules number others front fresh
    refine ⟨fun id => reaches_iff front aliased dotless plain fresh rooted, ?_⟩
    intro nonempty
    refine ⟨fun id => importName_of_reaches (isAbsolute_nameOf dotless nonempty parts), ?_⟩
    intro client
    exact reaches_of_importName front aliased dotless plain fresh rooted nonempty

def projectFinder : Finder :=
  { Finder.sharedFinder with config := .ofEntries (.absolute ["api".toList]) [] }

/-- The beginning of a dotted file name is a package, so that the import comes to the file. -/
theorem import_reaches_shared :
    projectFinder.locate Finder.sharedDisk "apis.user.user".toList =
        .ok (some (.package (Path.absolute ["api".toList, "user".toList, "user".toList]))) ∧
      (empty.install 0 projectFinder).Reaches Finder.sharedDisk "apis.user.user.controller".toList
        projectFinder "/api/user/user.controller.py?_api".toList := by
  have made : Finder.ofConfig Finder.sharedDisk (.ofEntries (.absolute ["api".toList]) []) .null =
      .ok projectFinder := by
    cbv
  have resolved : projectFinder.resolve Finder.sharedDisk "apis.user.user.controller".toList =
      .ok (some "/api/user/user.controller.py?_api".toList) := by
    cbv
  have noFile : ∀ height, height < 3 → ∀ other,
      projectFinder.resolve Finder.sharedDisk (Text.joined ['.'] ("apis".toList ::
        ["user".toList, "user".toList, "controller".toList].take height)) ≠ .ok (some other) := by
    have alone : projectFinder.resolve Finder.sharedDisk "apis".toList = .ok none := by cbv
    have user : projectFinder.resolve Finder.sharedDisk "apis.user".toList =
        .error (.unresolvableModule "apis.user".toList "/api".toList) := by
      cbv
    have inUser : projectFinder.resolve Finder.sharedDisk "apis.user.user".toList =
        .error (.unresolvableModule "apis.user.user".toList "/api".toList) := by
      cbv
    intro height below other resolved
    have each : height = 0 ∨ height = 1 ∨ height = 2 := by omega
    rcases each with rfl | rfl | rfl
    · cases alone.symm.trans resolved
    · cases user.symm.trans resolved
    · cases inUser.symm.trans resolved
  obtain ⟨_, above, imports⟩ := @import_reaches _ Finder.sharedDisk _ _ _ made "apis".toList rfl
    (by decide) ["user".toList, "user".toList, "controller".toList] (by decide)
  have inFront := imports (empty.install 0 projectFinder) 0 [] rfl fun name _ => rfl
  constructor
  · rcases above _ resolved 2 (by decide) with ⟨other, file, _⟩ | ⟨_, package⟩
    · exact absurd file (noFile 2 (by decide) other)
    · exact package
  · exact (inFront.1 _).mpr ⟨resolved, noFile⟩

end ControllerClient.Modules
