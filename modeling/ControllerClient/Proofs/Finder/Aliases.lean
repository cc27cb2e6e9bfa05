import ControllerClient.Proofs.Finder.Refusal

/-!
What the alias of a finder is good for. Below one search root only the parts of a name
behind its first dot count, so that finders with different aliases find the same for
names that agree there; what follows a dot of the alias itself is looked up like the rest.
-/

namespace ControllerClient

namespace Text

theorem onFirstPiece_append (c : Char) {found : List Text} (some_ : found ≠ []) (more : List Text) :
    onFirstPiece c (found ++ more) = onFirstPiece c found ++ more := by
  cases found with
  | nil => exact absurd rfl some_
  | cons piece later => rfl

theorem pieces_append_cons (separator : Char) (front behind : Text) :
    pieces separator (front ++ separator :: behind) =
      pieces separator front ++ pieces separator behind := by
  induction front with
  | nil =>
      rw [List.nil_append, pieces_cons, if_pos rfl]
      rfl
  | cons c front ih =>
      rw [List.cons_append, pieces_cons, pieces_cons, ih]
      by_cases cut : c = separator
      · rw [if_pos cut, if_pos cut]
        rfl
      · rw [if_neg cut, if_neg cut, onFirstPiece_append c (pieces_ne_nil separator front)]

end Text

namespace Finder

theorem partsOf_nameOf_append (aliasName : Text) {parts : List Text}
    (free : ∀ part ∈ parts, '.' ∉ part) :
    partsOf (nameOf aliasName parts) = partsOf aliasName ++ parts := by
  by_cases none : parts = []
  · rw [none, List.append_nil]
    rfl
  · unfold partsOf
    rw [nameOf_eq aliasName none, List.append_assoc, List.singleton_append,
      Text.pieces_append_cons, Text.pieces_joined none free,
      List.tail_append_of_ne_nil (Text.pieces_ne_nil '.' aliasName)]

def SameRoot (finder other : Finder) : Prop := finder.searchRoot = other.searchRoot

section SameRoot

variable {finder other : Finder} {disk : Disk} {name otherName : Text}
  (sameRoot : SameRoot finder other)

include sameRoot

theorem SameRoot.directoryOf_eq (parts : List Text) :
    finder.directoryOf parts = other.directoryOf parts := by
  unfold directoryOf
  rw [sameRoot]

theorem SameRoot.candidate_eq (parts : List Text) :
    finder.candidate parts = other.candidate parts := by
  funext depth
  unfold candidate
  rw [sameRoot.directoryOf_eq]

theorem SameRoot.beginsFile_eq (parts : List Text) (depths : List Nat) :
    finder.beginsFile disk parts depths = other.beginsFile disk parts depths := by
  induction depths with
  | nil => rfl
  | cons depth depths ih => rw [beginsFile, beginsFile, sameRoot.directoryOf_eq, ih]

variable (same : partsOf name = partsOf otherName)

include same

theorem SameRoot.findFile_eq : finder.findFile disk name = other.findFile disk otherName := by
  unfold findFile candidates
  dsimp only
  rw [same, sameRoot.candidate_eq]

theorem SameRoot.isPackage_eq (below : finder.isAlias name = false)
    (otherBelow : other.isAlias otherName = false) :
    finder.isPackage disk name = other.isPackage disk otherName := by
  unfold isPackage isDottedPrefix
  dsimp only
  rw [below, otherBelow, same, sameRoot.directoryOf_eq, sameRoot.beginsFile_eq]

theorem SameRoot.resolve_iff (owned : finder.owns name = .ok true)
    (otherOwned : other.owns otherName = .ok true) (below : finder.isAlias name = false)
    (otherBelow : other.isAlias otherName = false) (id : Text) :
    finder.resolve disk name = .ok (some id) ↔ other.resolve disk otherName = .ok (some id) := by
  rw [resolve_eq_some_iff, resolve_eq_some_iff, sameRoot.findFile_eq same]
  simp only [owned, otherOwned, below, otherBelow]

end SameRoot

section Search

variable {finder : Finder} {disk : Disk} {name : Text}

theorem isSearchable_of_isIdentifier {part : Text} (identifier : Text.isIdentifier part = true) :
    IsSearchable part := by
  have plain := isPlain_of_isIdentifier identifier
  refine ⟨plain.isPart.2, fun doubled => ?_⟩
  have asterisk : '*' ∈ part := doubled.subset List.mem_cons_self
  exact (plain.literal '*' asterisk).1 rfl

theorem isSearchable_joined {parts : List Text} (each : ∀ part ∈ parts, IsSearchable part) :
    IsSearchable (Text.joined ['.'] parts) := by
  induction parts with
  | nil => decide
  | cons part parts ih =>
      obtain ⟨first, others⟩ := List.forall_mem_cons.mp each
      by_cases none : parts = []
      · rw [none]
        exact first
      · have later := ih others
        rw [Text.joined_cons_of_ne_nil ['.'] part none, List.append_assoc, List.singleton_append]
        refine ⟨fun slash => ?_, fun doubled => ?_⟩
        · rcases List.mem_append.mp slash with inFirst | behind
          · exact first.1 inFirst
          · rcases List.mem_cons.mp behind with isDot | inLater
            · cases isDot
            · exact later.1 inLater
        · rw [← Pattern.hasDoubledAsterisk_iff, Pattern.hasDoubledAsterisk_append,
            Pattern.hasDoubledAsterisk_iff, Pattern.hasDoubledAsterisk_iff] at doubled
          exact doubled.elim first.2 later.2

theorem exists_isPackage (each : ∀ part ∈ partsOf name, IsSearchable part) :
    ∃ isPackage, finder.isPackage disk name = .ok isPackage := by
  -- The search looks at the parts only, so that it may as well begin with an empty alias.
  have same : partsOf (nameOf [] (partsOf name)) = partsOf name := by
    apply partsOf_nameOf_append
    intro part present
    exact Text.not_mem_of_mem_pieces part (List.mem_of_mem_tail present)
  have searchable : IsSearchable (nameOf [] (partsOf name)) := by
    apply isSearchable_joined
    exact List.forall_mem_cons.mpr ⟨by decide, each⟩
  obtain ⟨begins, searched⟩ := @exists_beginsFile finder disk _ searchable
    (List.range (partsOf name).length)
  rw [same] at searched
  unfold isPackage isDottedPrefix
  dsimp only
  rw [searched]
  split
  · exact ⟨true, rfl⟩
  · exact ⟨begins, rfl⟩

theorem not_isController (noFile : ∀ id, finder.resolve disk name ≠ .ok (some id))
    (owned : finder.owns name = .ok true) : finder.isController disk name = false := by
  rw [Bool.eq_false_iff]
  intro isFile
  obtain ⟨id, resolved⟩ := resolve_of_isController owned isFile
  exact noFile id resolved

theorem locate_of_isPackage_error (owned : finder.owns name = .ok true)
    (noFile : ∀ id, finder.resolve disk name ≠ .ok (some id)) {failure : Failure}
    (fails : finder.isPackage disk name = .error failure) :
    finder.locate disk name = .error failure := by
  unfold locate
  rw [owned]
  change (if finder.isController disk name = true then _ else _) = _
  rw [not_isController noFile owned, if_neg Bool.false_ne_true, fails]
  rfl

theorem locate_of_not_isPackage (owned : finder.owns name = .ok true)
    (noFile : ∀ id, finder.resolve disk name ≠ .ok (some id))
    (notPackage : finder.isPackage disk name = .ok false) :
    finder.locate disk name = .error (.unresolvableModule name finder.searchRoot.text) := by
  rcases locate_cases disk owned with ⟨id, resolved, _⟩ |
    ⟨_, ⟨package, _⟩ | ⟨_, failure, fails, refused | searchFails⟩⟩
  · exact absurd resolved (noFile id)
  · rw [notPackage] at package
    cases package
  · rw [fails, refused]
  · rw [notPackage] at searchFails
    cases searchFails

end Search

/-- What two finders make of two names, one of each: the same, or they refuse them. -/
inductive SameLocation (disk : Disk) (finder other : Finder) (name otherName : Text) : Prop where
  | package (directory : Path) (here : finder.locate disk name = .ok (some (.package directory)))
      (there : other.locate disk otherName = .ok (some (.package directory)))
  | controller (id : Text) (here : finder.locate disk name = .ok (some (.controller id)))
      (there : other.locate disk otherName = .ok (some (.controller id)))
  | refused
      (here : finder.locate disk name = .error (.unresolvableModule name finder.searchRoot.text))
      (there : other.locate disk otherName =
        .error (.unresolvableModule otherName other.searchRoot.text))

section SameLocation

variable {finder other : Finder} {disk : Disk} {name otherName : Text}

/-- Names with the same parts have the same location, or the search for them fails alike. -/
theorem SameRoot.sameLocation (sameRoot : SameRoot finder other)
    (same : partsOf name = partsOf otherName) (owned : finder.owns name = .ok true)
    (otherOwned : other.owns otherName = .ok true) (below : finder.isAlias name = false)
    (otherBelow : other.isAlias otherName = false) :
    SameLocation disk finder other name otherName ∨
      ∃ failure, finder.isPackage disk name = .error failure ∧
        finder.locate disk name = .error failure ∧
        other.locate disk otherName = .error failure := by
  have resolves := @SameRoot.resolve_iff finder other disk name otherName sameRoot same owned
    otherOwned below otherBelow
  by_cases isFile : ∃ id, finder.resolve disk name = .ok (some id)
  · obtain ⟨id, resolved⟩ := isFile
    exact Or.inl (.controller id (locate_eq_controller_iff.mpr resolved)
      (locate_eq_controller_iff.mpr ((resolves id).mp resolved)))
  · have noFile := not_exists.mp isFile
    have noOther : ∀ id, other.resolve disk otherName ≠ .ok (some id) :=
      fun id resolved => noFile id ((resolves id).mpr resolved)
    have packages := @SameRoot.isPackage_eq finder other disk name otherName sameRoot same below
      otherBelow
    cases package : finder.isPackage disk name with
    | error failure =>
        refine Or.inr ⟨failure, rfl, locate_of_isPackage_error owned noFile package, ?_⟩
        rw [package] at packages
        exact locate_of_isPackage_error otherOwned noOther packages.symm
    | ok isPackage =>
        rw [package] at packages
        cases isPackage with
        | true =>
            refine Or.inl (.package _ (locate_of_isPackage owned noFile package) ?_)
            rw [locate_of_isPackage otherOwned noOther packages.symm, ← same,
              sameRoot.directoryOf_eq]
        | false =>
            exact Or.inl (.refused (locate_of_not_isPackage owned noFile package)
              (locate_of_not_isPackage otherOwned noOther packages.symm))

end SameLocation

section Made

variable {disk : Disk} {config : Config} {aliasName : Text}

theorem ofConfig_eq_error_iff {given : Value} {failure : Failure} :
    ofConfig disk config given = .error failure ↔
      config.routeRoot disk (.str "src".toList) = .error failure := by
  unfold ofConfig
  rw [bind_eq_error_iff]
  constructor
  · rintro (fails | ⟨root, _, none⟩)
    · exact fails
    · cases none
  · exact Or.inl

theorem of_ofConfig {finder : Finder} (some_ : aliasName ≠ [])
    (made : ofConfig disk config (.str aliasName) = .ok finder) :
    finder.aliasName = .str aliasName ∧
      config.routeRoot disk (.str "src".toList) = .ok finder.searchRoot := by
  have truthy : (Value.str aliasName).isTruthy = true := by simp [Value.isTruthy, some_]
  obtain ⟨root, rooted, made⟩ := bind_eq_ok_iff.mp made
  cases made
  exact ⟨if_pos truthy, rooted⟩

end Made

/--
The alias in front of a name does not matter. Whether a finder can be made does not depend on it,
and of names that agree behind their first dots all finders of a project make the same: they stand
for the same file, are the same package, or are refused. Where no alias has a dot these are all
names with the same parts below it. The search for longer names fails alike only for aliases that
share, behind their first dots, a part with a slash or a doubled asterisk.
-/
theorem locate_alike {disk : Disk} {config : Config} {left right : Text}
    {parts others : List Text} (someLeft : left ≠ []) (someRight : right ≠ [])
    (someParts : parts ≠ []) (someOthers : others ≠ [])
    (identifiers : ∀ part ∈ parts, Text.isIdentifier part = true)
    (otherIdentifiers : ∀ part ∈ others, Text.isIdentifier part = true)
    (same : partsOf left ++ parts = partsOf right ++ others) :
    (∀ failure, ofConfig disk config (.str left) = .error failure ↔
      ofConfig disk config (.str right) = .error failure) ∧
    ∀ finder other, ofConfig disk config (.str left) = .ok finder →
      ofConfig disk config (.str right) = .ok other → ∀ later : Disk,
        (∀ id, finder.resolve later (nameOf left parts) = .ok (some id) ↔
          other.resolve later (nameOf right others) = .ok (some id)) ∧
        (SameLocation later finder other (nameOf left parts) (nameOf right others) ∨
          (∃ part, part ∈ partsOf left ∧ part ∈ partsOf right ∧ ¬ IsSearchable part) ∧
            ∃ failure, Pattern.IsPatternFailure failure ∧
              finder.locate later (nameOf left parts) = .error failure ∧
              other.locate later (nameOf right others) = .error failure) := by
  have free {parts : List Text} (identifiers : ∀ part ∈ parts, Text.isIdentifier part = true) :
      ∀ part ∈ parts, '.' ∉ part :=
    fun part present => (isPlain_of_isIdentifier (identifiers part present)).isPart.1
  have leftParts := partsOf_nameOf_append left (free identifiers)
  have rightParts := partsOf_nameOf_append right (free otherIdentifiers)
  refine ⟨fun failure => ofConfig_eq_error_iff.trans ofConfig_eq_error_iff.symm, ?_⟩
  intro finder other made otherMade later
  obtain ⟨aliased, rooted⟩ := of_ofConfig someLeft made
  obtain ⟨otherAliased, otherRooted⟩ := of_ofConfig someRight otherMade
  have sameRoot : SameRoot finder other := Except.ok.inj (rooted.symm.trans otherRooted)
  have sameParts : partsOf (nameOf left parts) = partsOf (nameOf right others) := by
    rw [leftParts, rightParts, same]
  have owned := owns_nameOf aliased someParts
  have otherOwned := owns_nameOf otherAliased someOthers
  have below := isAlias_nameOf aliased someParts
  have otherBelow := isAlias_nameOf otherAliased someOthers
  refine ⟨sameRoot.resolve_iff sameParts owned otherOwned below otherBelow, ?_⟩
  rcases @SameRoot.sameLocation finder other later _ _ sameRoot sameParts owned otherOwned below
    otherBelow with sameLocation | ⟨failure, searchFails, here, there⟩
  · exact Or.inl sameLocation
  · refine Or.inr ⟨?_, failure, (isPatternFailure_of_isPackage searchFails).2, here, there⟩
    have faulty : ¬ ∀ part ∈ partsOf left ++ parts, IsSearchable part := by
      intro each
      rw [← leftParts] at each
      obtain ⟨isPackage, package⟩ := @exists_isPackage finder later _ each
      rw [searchFails] at package
      cases package
    obtain ⟨part, unsearchable⟩ := not_forall.mp faulty
    obtain ⟨inLeft, unsearchable⟩ := Classical.not_imp.mp unsearchable
    have notIdentifier : ¬ Text.isIdentifier part = true :=
      fun identifier => unsearchable (isSearchable_of_isIdentifier identifier)
    have inRight := inLeft
    rw [same] at inRight
    refine ⟨part, ?_, ?_, unsearchable⟩
    · exact (List.mem_append.mp inLeft).resolve_right (mt (identifiers part) notIdentifier)
    · exact (List.mem_append.mp inRight).resolve_right (mt (otherIdentifiers part) notIdentifier)

def sharedConfig : Config :=
  .ofEntries (.absolute []) [(.str "routeSrcRoot".toList, .str "api".toList)]

/-- What follows the dot of an alias is looked up as a directory. -/
theorem locate_alike_dotted :
    ∃ finder other, ofConfig sharedDisk sharedConfig (.str "apis".toList) = .ok finder ∧
      ofConfig sharedDisk sharedConfig (.str "shop.user".toList) = .ok other ∧
      finder.resolve sharedDisk "apis.user.user.controller".toList =
        .ok (some "/api/user/user.controller.py?_api".toList) ∧
      other.resolve sharedDisk "shop.user.user.controller".toList =
        .ok (some "/api/user/user.controller.py?_api".toList) := by
  obtain ⟨_, alike⟩ := @locate_alike sharedDisk sharedConfig "apis".toList "shop.user".toList
    ["user".toList, "user".toList, "controller".toList] ["user".toList, "controller".toList]
    (by decide) (by decide) (by decide) (by decide) (by decide) (by decide) (by decide)
  have left : ofConfig sharedDisk sharedConfig (.str "apis".toList) =
      .ok ⟨sharedConfig, .str "apis".toList, .absolute ["api".toList]⟩ := by
    cbv
  have right : ofConfig sharedDisk sharedConfig (.str "shop.user".toList) =
      .ok ⟨sharedConfig, .str "shop.user".toList, .absolute ["api".toList]⟩ := by
    cbv
  have resolves := (alike _ _ left right sharedDisk).1 "/api/user/user.controller.py?_api".toList
  have here : (⟨sharedConfig, .str "apis".toList, .absolute ["api".toList]⟩ : Finder).resolve
      sharedDisk "apis.user.user.controller".toList =
        .ok (some "/api/user/user.controller.py?_api".toList) := by
    cbv
  exact ⟨_, _, left, right, here, resolves.mp here⟩

end Finder

end ControllerClient
