import ControllerClient.Proofs.Finder.Packages

/-!
How a finder refuses names of its own. A name that stands for nothing is refused by
name, unless the search for longer file names fails first, which takes a name with a
slash or with two asterisks in a row.
-/

namespace ControllerClient

namespace Pattern

theorem hasDoubledAsterisk_cons_iff {c : Char} {text : Text} :
    hasDoubledAsterisk (c :: text) = true ↔
      (c = '*' ∧ text.head? = some '*') ∨ hasDoubledAsterisk text = true := by
  cases text with
  | nil => simp [hasDoubledAsterisk]
  | cons d text =>
      by_cases both : c = '*' ∧ d = '*'
      · obtain ⟨rfl, rfl⟩ := both
        simp [hasDoubledAsterisk]
      · rw [hasDoubledAsterisk]
        · simp [both]
        · rintro rest rfl same
          exact both ⟨rfl, (List.cons.inj same).1⟩

theorem hasDoubledAsterisk_iff {text : Text} :
    hasDoubledAsterisk text = true ↔ "**".toList <:+: text := by
  induction text with
  | nil => simp [hasDoubledAsterisk]
  | cons c text ih =>
      have front : "**".toList <+: c :: text ↔ c = '*' ∧ text.head? = some '*' := by
        cases text with
        | nil => simp
        | cons d text => simp [eq_comm]
      rw [hasDoubledAsterisk_cons_iff, List.infix_cons_iff, ih, front]

theorem hasDoubledAsterisk_append {text : Text} (behind : Text) :
    hasDoubledAsterisk (text ++ '.' :: behind) = true ↔
      hasDoubledAsterisk text = true ∨ hasDoubledAsterisk behind = true := by
  induction text with
  | nil => simp [hasDoubledAsterisk]
  | cons c text ih =>
      have head : (text ++ '.' :: behind).head? = some '*' ↔ text.head? = some '*' := by
        cases text <;> simp
      rw [List.cons_append, hasDoubledAsterisk_cons_iff, hasDoubledAsterisk_cons_iff, ih, head,
        or_assoc]

def IsPatternFailure (failure : Failure) : Prop :=
  failure = .unsupportedPattern ∨ failure = .shape .partialRecursiveWildcard

theorem isPatternFailure_of_mapM {parts : List Text} {failure : Failure}
    (fails : parts.mapM Component.ofText = .error failure) : IsPatternFailure failure := by
  induction parts with
  | nil => cases fails
  | cons part parts ih =>
      rw [List.mapM_cons, bind_eq_error_iff] at fails
      rcases fails with first | ⟨component, _, later⟩
      · unfold Component.ofText at first
        split at first
        · cases first
        · split at first
          · cases first
            exact Or.inr rfl
          · split at first <;> cases first
      · rcases bind_eq_error_iff.mp later with others | ⟨components, _, none⟩
        · exact ih others
        · cases none

theorem isPatternFailure_of_componentsOf {pattern : Text} {failure : Failure}
    (fails : componentsOf pattern = .error failure) : IsPatternFailure failure := by
  unfold componentsOf at fails
  by_cases rooted : (Path.ofText pattern).rooted = true
  · simp only [if_pos rooted] at fails
    cases fails
    exact Or.inl rfl
  · simp only [if_neg rooted] at fails
    exact isPatternFailure_of_mapM fails

theorem exists_componentsOf {pattern : Text} (free : '/' ∉ pattern)
    (component : Path.isComponent pattern = true) (single : hasDoubledAsterisk pattern = false) :
    ∃ components, componentsOf pattern = .ok components := by
  have whole : ∃ one, Component.ofText pattern = .ok one := by
    unfold Component.ofText
    split
    · exact ⟨_, rfl⟩
    · rw [single, if_neg Bool.false_ne_true]
      split
      · exact ⟨_, rfl⟩
      · exact ⟨_, rfl⟩
  obtain ⟨one, whole⟩ := whole
  refine ⟨[one], ?_⟩
  unfold componentsOf
  rw [Path.ofText_component free component]
  change List.mapM Component.ofText [pattern] = _
  rw [List.mapM_cons, whole]
  rfl

end Pattern

namespace Finder

variable {finder : Finder} {disk : Disk} {name : Text}

/-- Names that can be searched for as they stand. -/
def IsSearchable (name : Text) : Prop := '/' ∉ name ∧ ¬ "**".toList <:+: name

instance (name : Text) : Decidable (IsSearchable name) := inferInstanceAs (Decidable (_ ∧ _))

theorem suffix_of_drop_partsOf (name : Text) (depth : Nat) :
    Text.joined ['.'] ((partsOf name).drop depth) <:+ name := by
  have whole := Text.joined_drop_suffix ['.'] (Text.pieces '.' name) (depth + 1)
  rw [Text.joined_pieces] at whole
  unfold partsOf
  rwa [List.drop_tail]

/-- The search for longer names does not fail on a name that can be searched for. -/
theorem exists_glob (searchable : IsSearchable name) (disk : Disk) (directory : Path)
    (depth : Nat) :
    ∃ found, disk.glob directory (longerNames ((partsOf name).drop depth)) = .ok found := by
  have ending := suffix_of_drop_partsOf name depth
  have pattern : longerNames ((partsOf name).drop depth) =
      Text.joined ['.'] ((partsOf name).drop depth) ++ '.' :: "*.py".toList := by
    unfold longerNames
    rw [List.append_assoc]
    rfl
  rw [pattern]
  generalize Text.joined ['.'] ((partsOf name).drop depth) = text at ending
  have free : '/' ∉ text ++ '.' :: "*.py".toList := by
    intro present
    rcases List.mem_append.mp present with inside | behind
    · exact searchable.1 (ending.subset inside)
    · revert behind
      decide
  have single : Pattern.hasDoubledAsterisk (text ++ '.' :: "*.py".toList) = false := by
    rw [Bool.eq_false_iff]
    intro doubled
    rcases (Pattern.hasDoubledAsterisk_append _).mp doubled with inside | behind
    · exact searchable.2 ((Pattern.hasDoubledAsterisk_iff.mp inside).trans ending.isInfix)
    · revert behind
      decide
  have component : Path.isComponent (text ++ '.' :: "*.py".toList) = true := by
    have last : (text ++ '.' :: "*.py".toList).getLast? = some 'y' := by simp
    unfold Path.isComponent
    rw [Bool.and_eq_true, bne_iff_ne, bne_iff_ne]
    constructor
    · intro none
      rw [none] at last
      cases last
    · intro dot
      rw [dot] at last
      revert last
      decide
  obtain ⟨components, read⟩ := Pattern.exists_componentsOf free component single
  unfold Disk.glob
  rw [read]
  exact ⟨_, rfl⟩

theorem isPatternFailure_of_beginsFile {parts : List Text} {depths : List Nat} {failure : Failure}
    (fails : finder.beginsFile disk parts depths = .error failure) :
    Pattern.IsPatternFailure failure := by
  induction depths with
  | nil => cases fails
  | cons depth depths ih =>
      rcases bind_eq_error_iff.mp fails with search | ⟨found, _, later⟩
      · rcases bind_eq_error_iff.mp search with pattern | ⟨components, _, none⟩
        · exact Pattern.isPatternFailure_of_componentsOf pattern
        · cases none
      · split at later
        · cases later
        · exact ih later

theorem exists_beginsFile (searchable : IsSearchable name) (depths : List Nat) :
    ∃ begins, finder.beginsFile disk (partsOf name) depths = .ok begins := by
  induction depths with
  | nil => exact ⟨false, rfl⟩
  | cons depth depths ih =>
      obtain ⟨found, search⟩ := exists_glob searchable disk
        (finder.directoryOf ((partsOf name).take depth)) depth
      rw [beginsFile, search]
      by_cases isFile : found.any disk.isFile = true
      · exact ⟨true, if_pos isFile⟩
      · obtain ⟨begins, later⟩ := ih
        exact ⟨begins, (if_neg isFile).trans later⟩

theorem isPatternFailure_of_isPackage {failure : Failure}
    (fails : finder.isPackage disk name = .error failure) :
    ¬ IsSearchable name ∧ Pattern.IsPatternFailure failure := by
  unfold isPackage at fails
  split at fails
  · cases fails
  · refine ⟨fun searchable => ?_, isPatternFailure_of_beginsFile fails⟩
    obtain ⟨begins, search⟩ := exists_beginsFile searchable (List.range (partsOf name).length)
    cases search.symm.trans fails

theorem failure_of_locate (owned : finder.owns name = .ok true) {failure : Failure}
    (fails : finder.locate disk name = .error failure) :
    failure = .unresolvableModule name finder.searchRoot.text ∨
      ¬ IsSearchable name ∧ Pattern.IsPatternFailure failure := by
  rcases locate_cases disk owned with ⟨id, _, file⟩ |
    ⟨_, ⟨_, package⟩ | ⟨_, other, same, refused⟩⟩
  · rw [fails] at file
    cases file
  · rw [fails] at package
    cases package
  · rw [fails] at same
    cases same
    exact refused.imp_right isPatternFailure_of_isPackage

/-- The search fails where two asterisks in a row are a part of a longer name. -/
example : sharedFinder.isDottedPrefix sharedDisk "apis.a**".toList =
    .error (.shape .partialRecursiveWildcard) := rfl

end Finder

end ControllerClient
