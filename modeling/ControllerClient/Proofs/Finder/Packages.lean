import ControllerClient.Proofs.Disk.Address
import ControllerClient.Proofs.Disk.Search
import ControllerClient.Proofs.Finder.Resolution
import ControllerClient.Proofs.Source.Names

/-!
What a finder makes of the names above a name. Where a name stands for a file,
every name above it is a directory or the beginning of the file's name, so that
it is a package, unless it stands for a file itself.
-/

namespace ControllerClient.Finder

/-! ### Parts of names -/

/-- What names a directory and stands for itself in a pattern. -/
structure IsPlain (part : Text) : Prop where
  isPart : IsPart part
  some_ : part ≠ []
  literal : Pattern.IsLiteral part

theorem isPlain_of_isIdentifier {part : Text} (identifier : Text.isIdentifier part = true) :
    IsPlain part := by
  have outside (c : Char) (begins : Text.beginsIdentifier c = false)
      (continues : Text.continuesIdentifier c = false) : c ∉ part := by
    intro present
    rcases Text.continuesIdentifier_of_mem identifier present with isFirst | isLater
    · rw [begins] at isFirst
      cases isFirst
    · rw [continues] at isLater
      cases isLater
  refine ⟨⟨outside '.' (by decide) (by decide), outside '/' (by decide) (by decide)⟩, ?_, ?_⟩
  · rintro rfl
    cases identifier
  · intro c present
    refine ⟨?_, ?_, ?_⟩
    · rintro rfl
      exact outside '*' (by decide) (by decide) present
    · rintro rfl
      exact outside '?' (by decide) (by decide) present
    · rintro rfl
      exact outside '[' (by decide) (by decide) present

/-! ### Names that stand for files -/

section Locations

variable {finder : Finder} {disk : Disk} {name : Text}

theorem resolve_eq_some_iff {id : Text} :
    finder.resolve disk name = .ok (some id) ↔
      finder.owns name = .ok true ∧ finder.isAlias name = false ∧
        ∃ file, finder.findFile disk name = some file ∧ idOf file = id := by
  unfold resolve
  cases owned : finder.owns name with
  | error failure =>
      constructor
      · intro refused
        cases refused
      · rintro ⟨none, _⟩
        cases none
  | ok owns =>
      change (if (!owns || finder.isAlias name) = true then _ else _) = _ ↔ _
      by_cases declined : (!owns || finder.isAlias name) = true
      · rw [if_pos declined]
        constructor
        · intro none
          cases none
        · rintro ⟨own, below, _⟩
          cases own
          rw [below] at declined
          cases declined
      · rw [if_neg declined]
        obtain ⟨own, below⟩ := Bool.or_eq_false_iff.mp (Bool.eq_false_iff.mpr declined)
        rw [Bool.not_eq_false'] at own
        cases found : finder.findFile disk name with
        | none =>
            constructor
            · intro refused
              cases refused
            · rintro ⟨_, _, file, none, _⟩
              cases none
        | some file =>
            constructor
            · intro resolved
              cases resolved
              exact ⟨congrArg Except.ok own, below, file, rfl, rfl⟩
            · rintro ⟨_, _, other, same, rfl⟩
              cases same
              rfl

theorem isController_of_resolve {id : Text} (resolved : finder.resolve disk name = .ok (some id)) :
    finder.isController disk name = true := by
  obtain ⟨_, below, file, found, _⟩ := resolve_eq_some_iff.mp resolved
  unfold isController
  rw [below, found]
  rfl

theorem resolve_of_isController (owned : finder.owns name = .ok true)
    (isFile : finder.isController disk name = true) :
    ∃ id, finder.resolve disk name = .ok (some id) := by
  unfold isController at isFile
  obtain ⟨below, found⟩ := Bool.and_eq_true_iff.mp isFile
  obtain ⟨file, found⟩ := Option.isSome_iff_exists.mp found
  exact ⟨idOf file, resolve_eq_some_iff.mpr
    ⟨owned, (Bool.not_eq_true' _).mp below, file, found, rfl⟩⟩

theorem resolve_of_not_isPackage (owned : finder.owns name = .ok true)
    (noFile : ∀ id, finder.resolve disk name ≠ .ok (some id))
    (notPackage : finder.isPackage disk name = .ok false) :
    finder.resolve disk name = .error (.unresolvableModule name finder.searchRoot.text) := by
  have below : finder.isAlias name = false := by
    apply Bool.eq_false_iff.mpr
    intro isAlias
    unfold isPackage at notPackage
    rw [isAlias, Bool.true_or, if_pos rfl] at notPackage
    cases notPackage
  cases found : finder.findFile disk name with
  | none =>
      unfold resolve
      rw [owned, below, found]
      rfl
  | some file =>
      exact absurd (resolve_eq_some_iff.mpr ⟨owned, below, file, found, rfl⟩) (noFile _)

/--
What a finder makes of its own names: a file, or else a package, or else a failure. It refuses the
name, unless it cannot tell whether the name is a package.
-/
theorem locate_cases (disk : Disk) (owned : finder.owns name = .ok true) :
    (∃ id, finder.resolve disk name = .ok (some id) ∧
      finder.locate disk name = .ok (some (.controller id))) ∨
    (∀ id, finder.resolve disk name ≠ .ok (some id)) ∧
      (finder.isPackage disk name = .ok true ∧
          finder.locate disk name = .ok (some (.package (finder.directoryOf (partsOf name)))) ∨
        finder.isPackage disk name ≠ .ok true ∧
          ∃ failure, finder.locate disk name = .error failure ∧
            (failure = .unresolvableModule name finder.searchRoot.text ∨
              finder.isPackage disk name = .error failure)) := by
  unfold locate
  rw [owned]
  change (∃ id, _ ∧ (if finder.isController disk name = true then _ else _) = _) ∨ _ ∧
    (_ ∧ (if finder.isController disk name = true then _ else _) = _ ∨
      _ ∧ ∃ failure, (if finder.isController disk name = true then _ else _) = _ ∧ _)
  by_cases isFile : finder.isController disk name = true
  · obtain ⟨id, resolved⟩ := resolve_of_isController owned isFile
    refine Or.inl ⟨id, resolved, ?_⟩
    rw [if_pos isFile, resolved]
    rfl
  · have noFile : ∀ id, finder.resolve disk name ≠ .ok (some id) :=
      fun id resolved => isFile (isController_of_resolve resolved)
    refine Or.inr ⟨noFile, ?_⟩
    rw [if_neg isFile]
    cases package : finder.isPackage disk name with
    | error failure =>
        refine Or.inr ⟨?_, failure, rfl, Or.inr rfl⟩
        intro same
        cases same
    | ok isPackage =>
        cases isPackage with
        | true => exact Or.inl ⟨rfl, rfl⟩
        | false =>
            have refused := resolve_of_not_isPackage owned noFile package
            refine Or.inr ⟨?_, _, ?_, Or.inl rfl⟩
            · intro same
              cases same
            · rw [refused]
              rfl

/-- A name is imported from a file exactly when it stands for that file. -/
theorem locate_eq_controller_iff {id : Text} :
    finder.locate disk name = .ok (some (.controller id)) ↔
      finder.resolve disk name = .ok (some id) := by
  constructor
  · intro located
    cases owned : finder.owns name with
    | error failure =>
        unfold locate at located
        rw [owned] at located
        cases located
    | ok owns =>
        cases owns with
        | false =>
            unfold locate at located
            rw [owned] at located
            cases located
        | true =>
            rcases locate_cases disk owned with ⟨other, resolved, file⟩ |
              ⟨_, ⟨_, package⟩ | ⟨_, failure, refused, _⟩⟩
            · rw [located] at file
              cases file
              exact resolved
            · rw [located] at package
              cases package
            · rw [located] at refused
              cases refused
  · intro resolved
    rcases locate_cases disk (resolve_eq_some_iff.mp resolved).1 with ⟨other, same, file⟩ | ⟨noFile, _⟩
    · rw [resolved] at same
      cases same
      exact file
    · exact absurd resolved (noFile id)

theorem locates_or_fails (disk : Disk) (owned : finder.owns name = .ok true) :
    (∃ location, finder.locate disk name = .ok (some location)) ∨
      ∃ failure, finder.locate disk name = .error failure := by
  rcases locate_cases disk owned with ⟨id, _, file⟩ |
    ⟨_, ⟨_, package⟩ | ⟨_, failure, refused, _⟩⟩
  · exact Or.inl ⟨_, file⟩
  · exact Or.inl ⟨_, package⟩
  · exact Or.inr ⟨failure, refused⟩

theorem locate_of_isPackage (owned : finder.owns name = .ok true)
    (noFile : ∀ id, finder.resolve disk name ≠ .ok (some id))
    (isPackage : finder.isPackage disk name = .ok true) :
    finder.locate disk name = .ok (some (.package (finder.directoryOf (partsOf name)))) := by
  rcases locate_cases disk owned with ⟨id, resolved, _⟩ |
    ⟨_, ⟨_, package⟩ | ⟨notPackage, _⟩⟩
  · exact absurd resolved (noFile id)
  · exact package
  · exact absurd isPackage notPackage

end Locations

/-! ### Patterns of longer names -/

theorem joined_drop {parts : List Text} {depth height : Nat} (past : depth < height)
    (within : height < parts.length) :
    Text.joined ['.'] (parts.drop depth) =
      Text.joined ['.'] ((parts.take height).drop depth) ++ ['.'] ++
        Text.joined ['.'] (parts.drop height) := by
  have taken : (parts.take height).length = height := by
    rw [List.length_take, Nat.min_eq_left within.le]
  have split : parts.drop depth = (parts.take height).drop depth ++ parts.drop height := by
    rw [← List.drop_append_of_le_length (by rw [taken]; exact past.le), List.take_append_drop]
  have first : (parts.take height).drop depth ≠ [] := by
    apply List.ne_nil_of_length_pos
    rw [List.length_drop, taken]
    omega
  have rest : parts.drop height ≠ [] := by
    apply List.ne_nil_of_length_pos
    rw [List.length_drop]
    omega
  rw [split, Text.joined_append_of_ne_nil ['.'] first rest]

section Patterns

variable {parts : List Text} (plain : ∀ part ∈ parts, IsPlain part)

include plain

theorem literal_joined : Pattern.IsLiteral (Text.joined ['.'] parts ++ ['.']) := by
  have dot : Pattern.IsLiteral ['.'] := by decide
  intro c present
  rcases List.mem_append.mp present with inParts | isLast
  · rcases Text.mem_joined inParts with between | ⟨part, inside, held⟩
    · exact dot c between
    · exact (plain part inside).literal c held
  · exact dot c isLast

theorem slash_not_mem_joined : '/' ∉ Text.joined ['.'] parts ++ ['.'] := by
  intro present
  rcases List.mem_append.mp present with inParts | isLast
  · exact not_mem_joined (fun part inside => (plain part inside).isPart) inParts
  · revert isLast
    decide

theorem glob_longerNames (disk : Disk) (directory : Path) :
    ∃ found, disk.glob directory (longerNames parts) = .ok found ∧
      ∀ name, name ∈ disk.names directory → disk.isDirectory directory = true →
        (∃ middle, name = Text.joined ['.'] parts ++ ['.'] ++ middle ++ extension) →
          directory.join (.relative [name]) ∈ found := by
  have literalBehind : Pattern.IsLiteral extension := by decide
  have pattern : longerNames parts =
      (Text.joined ['.'] parts ++ ['.']) ++ '*' :: extension := by
    unfold longerNames
    simp only [List.append_assoc]
    rfl
  rw [pattern]
  exact Disk.glob_wildcard (literal_joined plain) literalBehind (slash_not_mem_joined plain)
    (by decide) directory

end Patterns

/-! ### Directories above a file -/

theorem root_of_ofConfig {disk : Disk} {config : Config} {given : Value} {finder : Finder}
    (made : ofConfig disk config given = .ok finder) : finder.searchRoot.root = .top := by
  obtain ⟨root, found, made⟩ := bind_eq_ok_iff.mp made
  cases made
  obtain ⟨path, _, resolves⟩ := bind_eq_ok_iff.mp found
  exact Disk.root_of_resolve resolves

section Above

variable {finder : Finder} {disk : Disk} {parts : List Text}
  (rooted : finder.searchRoot.root = .top) (plain : ∀ part ∈ parts, IsPlain part)

include rooted plain

theorem directoryOf_take (height : Nat) :
    finder.directoryOf (parts.take height) =
      Path.absolute (finder.searchRoot.parts ++ parts.take height) := by
  have plainTaken : ∀ part ∈ parts.take height, IsPlain part :=
    fun part present => plain part (List.mem_of_mem_take present)
  have kept : (parts.take height).filter (· != []) = parts.take height := by
    apply List.filter_eq_self.mpr
    intro part present
    exact bne_iff_ne.mpr (plainTaken part present).some_
  unfold directoryOf
  rw [foldl_joinText_plain _ fun part present => (plainTaken part present).isPart, kept, rooted]
  rfl

theorem fileAt_plain (depth : Nat) :
    fileAt finder.searchRoot parts depth =
      Path.absolute (finder.searchRoot.parts ++ parts.take depth ++
        [Text.joined ['.'] (parts.drop depth) ++ extension]) := by
  have kept : (parts.take depth).filter (· != []) = parts.take depth := by
    apply List.filter_eq_self.mpr
    intro part present
    exact bne_iff_ne.mpr (plain part (List.mem_of_mem_take present)).some_
  unfold fileAt componentsAt
  rw [kept, rooted, ← List.append_assoc]
  rfl

theorem isDirectory_of_isFile {depth height : Nat} (within : height ≤ depth)
    (isFile : disk.isFile (fileAt finder.searchRoot parts depth) = true) :
    disk.isDirectory (finder.directoryOf (parts.take height)) = true := by
  obtain ⟨content, there⟩ := Disk.node?_of_isFile isFile
  have split : parts.take depth = parts.take height ++ (parts.take depth).drop height := by
    have first : (parts.take depth).take height = parts.take height := by
      rw [List.take_take, Nat.min_eq_left within]
    rw [← first, List.take_append_drop]
  rw [fileAt_plain rooted plain, split, ← List.append_assoc, List.append_assoc] at there
  rw [directoryOf_take rooted plain]
  exact Disk.isDirectory_above (List.append_ne_nil_of_right_ne_nil _ (List.cons_ne_nil _ _)) there

theorem mem_names_of_isFile {depth : Nat}
    (isFile : disk.isFile (fileAt finder.searchRoot parts depth) = true) :
    Text.joined ['.'] (parts.drop depth) ++ extension ∈
      disk.names (finder.directoryOf (parts.take depth)) := by
  obtain ⟨content, there⟩ := Disk.node?_of_isFile isFile
  have component := plain_componentsAt (fun part present => (plain part present).isPart) depth
    (Text.joined ['.'] (parts.drop depth) ++ extension)
    (List.mem_append_right _ (List.mem_singleton_self _))
  rw [fileAt_plain rooted plain] at there
  rw [directoryOf_take rooted plain]
  exact Disk.mem_names component.2.2 there

/--
Parts that go past the directory of a file begin its name: wherever the search starts, it
comes to that directory without failing.
-/
theorem beginsFile_of_isFile {depth height : Nat} (past : depth < height)
    (within : height < parts.length)
    (isFile : disk.isFile (fileAt finder.searchRoot parts depth) = true) {depths : List Nat}
    (present : depth ∈ depths) :
    finder.beginsFile disk (parts.take height) depths = .ok true := by
  induction depths with
  | nil => cases present
  | cons first later ih =>
      have plainTaken : ∀ part ∈ (parts.take height).drop first, IsPlain part :=
        fun part inside => plain part (List.mem_of_mem_take (List.mem_of_mem_drop inside))
      obtain ⟨found, searched, finds⟩ :=
        glob_longerNames plainTaken disk (finder.directoryOf ((parts.take height).take first))
      rw [beginsFile, searched]
      change (if found.any disk.isFile = true then Except.ok true
        else finder.beginsFile disk (parts.take height) later) = _
      by_cases any : found.any disk.isFile = true
      · rw [if_pos any]
      · rw [if_neg any]
        rcases List.mem_cons.mp present with rfl | inLater
        · have directory : (parts.take height).take depth = parts.take depth := by
            rw [List.take_take, Nat.min_eq_left past.le]
          have file : (finder.directoryOf (parts.take depth)).join
              (.relative [Text.joined ['.'] (parts.drop depth) ++ extension]) =
                fileAt finder.searchRoot parts depth := by
            rw [directoryOf_take rooted plain]
            exact (fileAt_plain rooted plain depth).symm
          rw [directory] at finds
          have longer : Text.joined ['.'] (parts.drop depth) ++ extension =
              Text.joined ['.'] ((parts.take height).drop depth) ++ ['.'] ++
                Text.joined ['.'] (parts.drop height) ++ extension := by
            rw [joined_drop past within]
          have there := finds _ (mem_names_of_isFile rooted plain isFile)
            (isDirectory_of_isFile rooted plain le_rfl isFile) ⟨_, longer⟩
          rw [file] at there
          exact absurd (List.any_eq_true.mpr ⟨_, there, isFile⟩) any
        · exact ih inLater

/-- Above a name that stands for a file there are packages, also where there are files too. -/
theorem isPackage_beginning {aliasName : Text} (dotless : '.' ∉ aliasName) {depth height : Nat}
    (within : height < parts.length)
    (isFile : disk.isFile (fileAt finder.searchRoot parts depth) = true) :
    finder.isPackage disk (nameOf aliasName (parts.take height)) = .ok true := by
  have plainTaken : ∀ part ∈ parts.take height, IsPart part :=
    fun part present => (plain part (List.mem_of_mem_take present)).isPart
  have taken : partsOf (nameOf aliasName (parts.take height)) = parts.take height :=
    partsOf_nameOf dotless plainTaken
  unfold isPackage isDottedPrefix
  dsimp only
  rw [taken]
  by_cases above : height ≤ depth
  · rw [isDirectory_of_isFile rooted plain above isFile, Bool.or_true, if_pos rfl]
  · have length : (parts.take height).length = height := by
      rw [List.length_take, Nat.min_eq_left within.le]
    have begins : finder.beginsFile disk (parts.take height)
        (List.range (parts.take height).length) = .ok true := by
      refine beginsFile_of_isFile rooted plain (by omega) within isFile ?_
      rw [length, List.mem_range]
      omega
    rw [begins, ite_self]

end Above

/-! ### Names above a name -/

section Names

variable {finder : Finder} {disk : Disk} {aliasName : Text} {parts : List Text}
  (aliased : finder.aliasName = .str aliasName) (dotless : '.' ∉ aliasName)

include aliased

theorem owns_alias : finder.owns aliasName = .ok true := by
  have below : IsBelow aliasName aliasName := Or.inl rfl
  rw [owns_of_aliasName aliased, decide_eq_true below]

theorem owns_beginning (parts : List Text) (height : Nat) :
    finder.owns (nameOf aliasName (parts.take height)) = .ok true := by
  by_cases none : parts.take height = []
  · rw [none]
    exact owns_alias aliased
  · exact owns_nameOf aliased none

include dotless

theorem locate_alias (disk : Disk) :
    finder.locate disk aliasName = .ok (some (.package finder.searchRoot)) := by
  have isAlias : finder.isAlias aliasName = true := by
    unfold isAlias
    rw [aliased, Value.sameKey_str_iff]
  have noFile : ∀ id, finder.resolve disk aliasName ≠ .ok (some id) := by
    intro id resolved
    obtain ⟨_, notAlias, _⟩ := resolve_eq_some_iff.mp resolved
    rw [isAlias] at notAlias
    cases notAlias
  have package : finder.isPackage disk aliasName = .ok true := by
    unfold isPackage
    rw [isAlias, Bool.true_or, if_pos rfl]
  have bare : partsOf aliasName = [] := partsOf_nameOf dotless (List.forall_mem_nil _)
  rw [locate_of_isPackage (owns_alias aliased) noFile package, bare]
  rfl

variable (rooted : finder.searchRoot.root = .top) (plain : ∀ part ∈ parts, IsPlain part)

include rooted plain

/--
Where a name stands for a file, every name above it that stands for none is a package, and what
it is imported from is the directory that its parts lead to.
-/
theorem locate_beginning {id : Text}
    (resolved : finder.resolve disk (nameOf aliasName parts) = .ok (some id)) {height : Nat}
    (within : height < parts.length)
    (noFile : ∀ other, finder.resolve disk (nameOf aliasName (parts.take height)) ≠
      .ok (some other)) :
    finder.locate disk (nameOf aliasName (parts.take height)) =
      .ok (some (.package
        (Path.absolute (finder.searchRoot.parts ++ parts.take height)))) := by
  have isPart : ∀ part ∈ parts, IsPart part := fun part present => (plain part present).isPart
  have some_ : parts ≠ [] := List.ne_nil_of_length_pos (Nat.zero_lt_of_lt within)
  obtain ⟨depth, _, isFile, _⟩ :=
    (resolve_eq_ok_iff aliased disk dotless some_ isPart).mp resolved
  have package := isPackage_beginning rooted plain dotless within isFile
  rw [locate_of_isPackage (owns_beginning aliased parts height) noFile package,
    partsOf_nameOf dotless fun part present => isPart part (List.mem_of_mem_take present),
    directoryOf_take rooted plain]

end Names

end ControllerClient.Finder
