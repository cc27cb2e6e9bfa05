import ControllerClient.Proofs.Disk.Address
import ControllerClient.Route.Address

/-!
Routes as addresses. Where no link is on the way, the route of a controller file
leads from the route root to the directory that the file stands for, so that
files have the same route exactly when they stand for the same directory.
-/

namespace ControllerClient

namespace Text

theorem not_mem_replaced {old new : Char} (differ : old ≠ new) (text : Text) :
    old ∉ replaced old new text := by
  intro present
  obtain ⟨c, _, became⟩ := List.mem_map.mp present
  by_cases here : c = old
  · rw [if_pos here] at became
    exact differ became.symm
  · rw [if_neg here] at became
    exact here became

theorem replaced_of_not_mem {old new : Char} {text : Text} (free : old ∉ text) :
    replaced old new text = text := by
  unfold replaced
  conv => rhs; rw [← List.map_id text]
  apply List.map_congr_left
  intro c present
  have differs : ¬ c = old := fun same => free (same ▸ present)
  rw [if_neg differs]
  rfl

theorem replaced_eq_nil_iff {old new : Char} {text : Text} :
    replaced old new text = [] ↔ text = [] := List.map_eq_nil_iff

theorem withoutFirst_nil (text : Text) : withoutFirst [] text = text := by
  cases text with
  | nil => rfl
  | cons c rest => rfl

end Text

namespace Route

def suffixText? (setting : Value) : Option Text :=
  match setting with
  | .str text => some text
  | other => if other.isTruthy then none else some []

theorem constructorName_of_suffixText? {setting : Value} {suffix : Text}
    (suffixed : suffixText? setting = some suffix) (stem : Text) :
    constructorName stem setting = .ok (Text.withoutFirst suffix stem) := by
  unfold suffixText? at suffixed
  split at suffixed
  · next text =>
      cases suffixed
      unfold constructorName
      by_cases some_ : (Value.str suffix).isTruthy = true
      · rw [if_pos some_]
      · have none : suffix = [] := by
          unfold Value.isTruthy at some_
          rw [Bool.not_eq_true, Bool.not_eq_false'] at some_
          exact List.isEmpty_iff.mp some_
        rw [if_neg some_, none, Text.withoutFirst_nil]
  · by_cases some_ : setting.isTruthy = true
    · rw [if_pos some_] at suffixed
      cases suffixed
    · rw [if_neg some_] at suffixed
      cases suffixed
      unfold constructorName
      rw [if_neg some_, Text.withoutFirst_nil]

/-- The directory that the controller file at a place stands for, in normal form. -/
def targetPlace (suffix : Text) (file : Place) : Place :=
  Path.normalParts
    (targetOf (Path.absolute file) (Text.withoutFirst suffix (Path.absolute file).stem)).parts

theorem ordinary_targetPlace (suffix : Text) {file : Place}
    (ordinary : ∀ part ∈ file, Path.IsOrdinary part) :
    ∀ part ∈ targetPlace suffix file, Path.IsOrdinary part := by
  have above : ∀ part ∈ (Path.absolute file).parent.parts, Path.IsOrdinary part :=
    fun part present => ordinary part ((List.dropLast_sublist file).mem present)
  apply Path.forall_mem_normalParts
  intro part present differs
  unfold targetOf at present
  split at present
  · exact above part present
  · unfold Path.joinText Path.join at present
    split at present
    · exact Path.isOrdinary_of_mem_ofText present differs
    · rcases List.mem_append.mp present with inParent | inName
      · exact above part inParent
      · exact Path.isOrdinary_of_mem_ofText inName differs

/-- A route is the address of a place, counted from a root. -/
structure IsAddress (root target : Place) (route : Text) : Prop where
  begins : route.head? = some '/'
  plain : '\\' ∉ route
  root_iff : route = ['/'] ↔ target = root
  /-- From the root the route leads to the place. -/
  leads : (∀ part ∈ target, '\\' ∉ part) →
    Path.normalParts ((Path.absolute root).joinText route.tail).parts = target
  /-- The route goes back to the longest beginning that root and place share, and on. -/
  way : (∀ part ∈ target, '\\' ∉ part) →
    ∃ shared later, shared <+: root ∧ target = shared ++ later ∧
      (∀ common, common <+: root → common <+: target → common.length ≤ shared.length) ∧
      route.tail = Text.joined ['/']
        (List.replicate (root.length - shared.length) "..".toList ++ later) ∧
      ∀ part ∈ later, Path.IsOrdinary part

section Between

variable {root target : Place}
  (rootForward : ∀ part ∈ root, part ≠ "..".toList)
  (ordinary : ∀ part ∈ target, Path.IsOrdinary part)

include rootForward ordinary

theorem relativeParts_plain :
    ∀ part ∈ Path.relativeParts root target, part = "..".toList ∨ part ∈ target := by
  obtain ⟨shared, later, _, inTarget, _, way⟩ :=
    Path.relativeParts_shared rootForward fun part present => (ordinary part present).2.2.1
  intro part present
  rw [way] at present
  rcases List.mem_append.mp present with back | on
  · exact Or.inl (List.eq_of_mem_replicate back)
  · rw [inTarget]
    exact Or.inr (List.mem_append_right shared on)

theorem ofText_way :
    Path.ofText (Text.joined ['/'] (Path.relativeParts root target)) =
      .relative (Path.relativeParts root target) := by
  apply Path.ofText_joined
  intro part present
  rcases relativeParts_plain rootForward ordinary part present with rfl | inTarget
  · exact ⟨rfl, by decide⟩
  · exact ⟨(ordinary part inTarget).isComponent, (ordinary part inTarget).2.2.2⟩

theorem tail_between (free : ∀ part ∈ target, '\\' ∉ part) :
    (between (Path.absolute root) (Path.absolute target)).tail =
      Text.joined ['/'] (Path.relativeParts root target) := by
  apply Text.replaced_of_not_mem
  intro present
  rcases Text.mem_joined present with between | ⟨part, inside, held⟩
  · revert between
    decide
  · rcases relativeParts_plain rootForward ordinary part inside with rfl | inTarget
    · revert held
      decide
    · exact free part inTarget held

/-- The route from a root to a place is the place's address. -/
theorem isAddress_between :
    IsAddress root target (between (Path.absolute root) (Path.absolute target)) := by
  have forward : ∀ part ∈ target, part ≠ "..".toList :=
    fun part present => (ordinary part present).2.2.1
  have read := ofText_way rootForward ordinary
  refine ⟨rfl, ?_, ?_, ?_, ?_⟩
  · intro present
    rcases List.mem_cons.mp present with isSlash | inWay
    · revert isSlash
      decide
    · exact Text.not_mem_replaced (by decide) _ inWay
  · rw [← Path.relativeParts_eq_nil_iff rootForward forward]
    constructor
    · intro none
      have empty : Text.joined ['/'] (Path.relativeParts root target) = [] :=
        Text.replaced_eq_nil_iff.mp (List.cons.inj none).2
      rw [empty] at read
      exact (congrArg Path.parts read).symm
    · intro none
      unfold between
      change '/' :: Text.replaced '\\' '/' (Text.joined ['/'] (Path.relativeParts root target)) = _
      rw [none]
      rfl
  · intro free
    rw [tail_between rootForward ordinary free]
    unfold Path.joinText
    rw [read]
    change Path.walked [] (root ++ Path.relativeParts root target) = target
    rw [Path.walked_append, Path.walked_forward [] rootForward, List.nil_append]
    exact Path.walked_relativeParts rootForward forward
  · intro free
    obtain ⟨shared, later, inRoot, inTarget, longest, way⟩ :=
      Path.relativeParts_shared rootForward forward
    refine ⟨shared, later, inRoot, inTarget, longest, ?_, ?_⟩
    · rw [tail_between rootForward ordinary free, way]
    · intro part present
      apply ordinary part
      rw [inTarget]
      exact List.mem_append_right shared present

end Between

theorem between_normalParts (root target : Path) :
    between root (Path.absolute (Path.normalParts target.parts)) = between root target := by
  unfold between
  rw [← Path.relativeParts_normalParts root.parts target.parts]
  rfl

section Files

variable {disk : Disk} {config : Config} {variant setting suffix : Text} {root : Path}

theorem root_of_direct (placed : ∀ part ∈ disk.here, Path.IsOrdinary part)
    (chosen : variant = "dist".toList ∧ config.distRoot = .str setting ∨
      variant = "src".toList ∧ config.srcRoot = .str setting)
    (rootDirect : disk.IsDirect (config.projectRoot.joinText setting))
    (rooted : config.routeRoot disk (.str variant) = .ok root) :
    root = Path.absolute (disk.lexicalPlace (config.projectRoot.joinText setting)) := by
  have resolves : disk.resolve (config.projectRoot.joinText setting) = .ok root := by
    unfold Config.routeRoot at rooted
    rcases chosen with ⟨rfl, given⟩ | ⟨rfl, given⟩
    · rw [given] at rooted
      exact rooted
    · rw [given] at rooted
      exact rooted
  have direct := Disk.resolve_of_direct (fun part present => (placed part present).2.2.1)
    (Disk.nameFault?_of_resolve resolves) rootDirect
  exact Except.ok.inj (resolves.symm.trans direct)

theorem nameFault?_of_ofFile {variant : Value} {file : Path} {route : Text}
    (given : ofFile disk config variant file = .ok route) : Disk.nameFault? file.text = none := by
  obtain ⟨root, _, given⟩ := bind_eq_ok_iff.mp given
  obtain ⟨resolved, resolves, _⟩ := bind_eq_ok_iff.mp given
  exact Disk.nameFault?_of_resolve resolves

theorem ofFile_of_direct (placed : ∀ part ∈ disk.here, Path.IsOrdinary part)
    (rooted : config.routeRoot disk (.str variant) = .ok root)
    (suffixed : suffixText? config.suffix = some suffix) {file : Path}
    (named : Disk.nameFault? file.text = none) (direct : disk.IsDirect file) :
    ofFile disk config (.str variant) file =
      .ok (between root (Path.absolute (targetPlace suffix (disk.lexicalPlace file)))) := by
  unfold ofFile
  rw [rooted]
  change (disk.resolve file).bind _ = _
  rw [Disk.resolve_of_direct (fun part present => (placed part present).2.2.1) named direct]
  change (constructorName (Path.absolute (disk.lexicalPlace file)).stem config.suffix).bind _ = _
  rw [constructorName_of_suffixText? suffixed]
  exact congrArg Except.ok (between_normalParts _ _).symm

end Files

/--
Routes are addresses, for both variants and any settings that give a route root, with a suffix
that is text or nothing. The working directory is a place, and no link is on the way to the
route root or to the files. Then every file whose path can be one of a file has a route, a route
is the address of the directory that its file stands for, and two files have the same route
exactly when they stand for the same directory, unless a backslash in its components is taken
for a slash.
-/
theorem ofFile_address {disk : Disk} {config : Config} {variant setting suffix : Text} {root : Path}
    (placed : ∀ part ∈ disk.here, Path.IsOrdinary part)
    (chosen : variant = "dist".toList ∧ config.distRoot = .str setting ∨
      variant = "src".toList ∧ config.srcRoot = .str setting)
    (rootDirect : disk.IsDirect (config.projectRoot.joinText setting))
    (rooted : config.routeRoot disk (.str variant) = .ok root)
    (suffixed : suffixText? config.suffix = some suffix) :
    let target (file : Text) := targetPlace suffix (disk.lexicalPlace (Path.ofText file))
    let route (file : Text) := ofFile disk config (.str variant) (Path.ofText file)
    (∀ file : Text, disk.IsDirect (Path.ofText file) →
      (Disk.nameFault? (Path.ofText file).text = none → ∃ text, route file = .ok text) ∧
        ∀ text, route file = .ok text → IsAddress root.parts (target file) text) ∧
    ∀ file other text otherText : Text, disk.IsDirect (Path.ofText file) →
      disk.IsDirect (Path.ofText other) → route file = .ok text → route other = .ok otherText →
        (target file = target other → text = otherText) ∧
          ((∀ part ∈ target file, '\\' ∉ part) → (∀ part ∈ target other, '\\' ∉ part) →
            text = otherText → target file = target other) := by
  intro target route
  have atRoot := root_of_direct placed chosen rootDirect rooted
  have rootForward : ∀ part ∈ root.parts, part ≠ "..".toList := by
    rw [atRoot]
    exact Disk.forward_lexicalPlace _ fun part present => (placed part present).2.2.1
  have address (file : Text) (direct : disk.IsDirect (Path.ofText file)) (text : Text)
      (given : route file = .ok text) : IsAddress root.parts (target file) text := by
    have between_ := ofFile_of_direct placed rooted suffixed (nameFault?_of_ofFile given) direct
    rw [Except.ok.inj (given.symm.trans between_), atRoot]
    rw [atRoot] at rootForward
    exact isAddress_between rootForward
      (ordinary_targetPlace suffix (Disk.ordinary_lexicalPlace file placed))
  refine ⟨?_, ?_⟩
  · intro file direct
    exact ⟨fun named => ⟨_, ofFile_of_direct placed rooted suffixed named direct⟩,
      address file direct⟩
  · intro file other text otherText direct otherDirect given otherGiven
    have first := address file direct text given
    have second := address other otherDirect otherText otherGiven
    constructor
    · intro same
      have forFile := ofFile_of_direct placed rooted suffixed (nameFault?_of_ofFile given) direct
      have forOther :=
        ofFile_of_direct placed rooted suffixed (nameFault?_of_ofFile otherGiven) otherDirect
      rw [Except.ok.inj (given.symm.trans forFile), Except.ok.inj (otherGiven.symm.trans forOther)]
      exact congrArg (fun place => between root (Path.absolute place)) same
    · intro free otherFree same
      -- Either target is where the common route leads from the root.
      have leads := first.leads free
      rw [same, second.leads otherFree] at leads
      exact leads.symm

/-- A working directory beside a project, and a file of the project. -/
def besideDisk : Disk :=
  { tree := ⟨[(["work".toList], .directory), (["proj".toList], .directory),
      (["proj".toList, "a_ctrl.py".toList], .file [])]⟩
    here := ["work".toList] }

def suffixedConfig : Config :=
  .ofEntries (.absolute ["proj".toList])
    [(.str "routeSrcRoot".toList, .str "api/v1".toList), (.str "suffix".toList, .str "_ctrl".toList)]

theorem isDirect_besideDisk (path : Path) : besideDisk.IsDirect path := by
  apply Disk.isDirect_of_forall_mem
  simp [besideDisk]

theorem routeRoot_suffixedConfig : suffixedConfig.routeRoot besideDisk (.str "src".toList) =
    .ok (Path.absolute ["proj".toList, "api".toList, "v1".toList]) := by
  cbv

/-- A file outside the route root has a route that goes back, as has one in its own directory. -/
theorem ofFile_address_outside :
    ∃ text, ofFile besideDisk suffixedConfig (.str "src".toList)
        (Path.ofText "../proj/./a_ctrl.py".toList) = .ok text ∧
      IsAddress ["proj".toList, "api".toList, "v1".toList] ["proj".toList, "a".toList] text ∧
      ofFile besideDisk suffixedConfig (.str "src".toList)
        (Path.ofText "/proj/a/a_ctrl.txt".toList) = .ok text := by
  have direct := isDirect_besideDisk
  obtain ⟨addressed, compared⟩ := @ofFile_address besideDisk suffixedConfig "src".toList
    "api/v1".toList "_ctrl".toList _ (by decide) (Or.inr ⟨rfl, rfl⟩) (direct _)
    routeRoot_suffixedConfig rfl
  obtain ⟨text, given⟩ := (addressed "../proj/./a_ctrl.py".toList (direct _)).1 (by decide)
  obtain ⟨inside, givenInside⟩ := (addressed "/proj/a/a_ctrl.txt".toList (direct _)).1 (by decide)
  have same := (compared _ _ text inside (direct _) (direct _) given givenInside).1 (by decide)
  refine ⟨text, given, (addressed _ (direct _)).2 text given, ?_⟩
  rw [same]
  exact givenInside

end Route

end ControllerClient
