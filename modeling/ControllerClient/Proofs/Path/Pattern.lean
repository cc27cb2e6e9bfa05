import ControllerClient.Path.Pattern
import ControllerClient.Proofs.Path

/-!
Patterns with one asterisk between characters that stand for themselves. They
describe the texts that begin and end as they do.
-/

namespace ControllerClient.Pattern

theorem mem_endings_iff {text rest : Text} : rest ∈ endings text ↔ rest <:+ text := by
  induction text with
  | nil => rw [endings, List.mem_singleton, List.suffix_nil]
  | cons c text ih => rw [endings, List.mem_cons, ih, List.suffix_cons_iff]

theorem describes_run_iff {later : List Element} {text : Text} :
    describes (.run :: later) text = true ↔
      ∃ middle rest, text = middle ++ rest ∧ describes later rest = true := by
  rw [describes, List.any_eq_true]
  constructor
  · rintro ⟨rest, ending, described⟩
    obtain ⟨middle, whole⟩ := mem_endings_iff.mp ending
    exact ⟨middle, rest, whole.symm, described⟩
  · rintro ⟨middle, rest, rfl, described⟩
    exact ⟨rest, mem_endings_iff.mpr (List.suffix_append middle rest), described⟩

theorem describes_exactly_iff {characters text : Text} {later : List Element} :
    describes (characters.map .exactly ++ later) text = true ↔
      ∃ rest, text = characters ++ rest ∧ describes later rest = true := by
  induction characters generalizing text with
  | nil =>
      constructor
      · intro described
        exact ⟨text, rfl, described⟩
      · rintro ⟨rest, rfl, described⟩
        exact described
  | cons c characters ih =>
      rw [List.map_cons, List.cons_append]
      cases text with
      | nil =>
          constructor
          · intro described
            cases described
          · rintro ⟨rest, whole, _⟩
            cases whole
      | cons d text =>
          rw [describes, Bool.and_eq_true, beq_iff_eq, ih]
          constructor
          · rintro ⟨rfl, rest, rfl, described⟩
            exact ⟨rest, rfl, described⟩
          · rintro ⟨rest, whole, described⟩
            obtain ⟨same, behind⟩ := List.cons.inj whole
            exact ⟨same.symm, rest, behind, described⟩

def IsLiteral (text : Text) : Prop := ∀ c ∈ text, c ≠ '*' ∧ c ≠ '?' ∧ c ≠ '['

instance (text : Text) : Decidable (IsLiteral text) :=
  List.decidableBAll (fun c => c ≠ '*' ∧ c ≠ '?' ∧ c ≠ '[') text

theorem elementsFrom_append {text : Text} (literal : IsLiteral text) (fuel : Nat) (rest : Text) :
    elementsFrom (text.length + fuel) (text ++ rest) =
      text.map .exactly ++ elementsFrom fuel rest := by
  induction text with
  | nil => rw [List.length_nil, Nat.zero_add, List.nil_append, List.map_nil, List.nil_append]
  | cons c text ih =>
      obtain ⟨noRun, noAnyone, noBracket⟩ := literal c List.mem_cons_self
      have later := ih fun d present => literal d (List.mem_cons_of_mem c present)
      rw [List.length_cons, Nat.succ_add, List.cons_append, elementsFrom, later]
      · rfl
      · rintro rfl
        exact noRun rfl
      · rintro rfl
        exact noAnyone rfl
      · rintro rfl
        exact noBracket rfl

theorem not_hasDoubledAsterisk {text : Text} (literal : IsLiteral text) :
    hasDoubledAsterisk text = false := by
  induction text with
  | nil => rfl
  | cons c text ih =>
      rw [hasDoubledAsterisk]
      · exact ih fun d present => literal d (List.mem_cons_of_mem c present)
      · rintro rest rfl
        exact absurd rfl (literal '*' List.mem_cons_self).1

section Wildcard

variable {before behind : Text} (literalBefore : IsLiteral before) (literalBehind : IsLiteral behind)

include literalBefore literalBehind

theorem elements_wildcard :
    elements (before ++ '*' :: behind) =
      before.map .exactly ++ .run :: behind.map .exactly := by
  have last := elementsFrom_append literalBehind 0 []
  rw [List.append_nil, Nat.add_zero, elementsFrom, List.append_nil] at last
  unfold elements
  rw [List.length_append, List.length_cons, elementsFrom_append literalBefore, elementsFrom, last]

/-- An asterisk between two texts describes what begins with one and then ends with the other. -/
theorem describes_wildcard_iff {text : Text} :
    describes (elements (before ++ '*' :: behind)) text = true ↔
      ∃ middle, text = before ++ middle ++ behind := by
  have last : ∀ rest, describes (behind.map .exactly) rest = true ↔ rest = behind := by
    intro rest
    rw [← List.append_nil (behind.map Element.exactly), describes_exactly_iff]
    constructor
    · rintro ⟨ending, rfl, none⟩
      rw [List.isEmpty_iff.mp none, List.append_nil]
    · rintro rfl
      exact ⟨[], (List.append_nil rest).symm, rfl⟩
  rw [elements_wildcard literalBefore literalBehind, describes_exactly_iff]
  constructor
  · rintro ⟨rest, rfl, described⟩
    obtain ⟨middle, ending, rfl, isLast⟩ := describes_run_iff.mp described
    rw [(last ending).mp isLast]
    exact ⟨middle, (List.append_assoc before middle behind).symm⟩
  · rintro ⟨middle, rfl⟩
    refine ⟨middle ++ behind, List.append_assoc before middle behind, ?_⟩
    exact describes_run_iff.mpr ⟨middle, behind, rfl, (last behind).mpr rfl⟩

theorem not_hasDoubledAsterisk_wildcard :
    hasDoubledAsterisk (before ++ '*' :: behind) = false := by
  induction before with
  | nil =>
      rw [List.nil_append, hasDoubledAsterisk]
      · exact not_hasDoubledAsterisk literalBehind
      · rintro rest - rfl
        exact absurd rfl (literalBehind '*' List.mem_cons_self).1
  | cons c before ih =>
      rw [List.cons_append, hasDoubledAsterisk]
      · exact ih fun d present => literalBefore d (List.mem_cons_of_mem c present)
      · rintro rest rfl
        exact absurd rfl (literalBefore '*' List.mem_cons_self).1

theorem componentsOf_wildcard (freeBefore : '/' ∉ before) (freeBehind : '/' ∉ behind) :
    componentsOf (before ++ '*' :: behind) =
      .ok [.matching (elements (before ++ '*' :: behind))] := by
  have single := not_hasDoubledAsterisk_wildcard literalBefore literalBehind
  have held : '*' ∈ before ++ '*' :: behind := List.mem_append_right before List.mem_cons_self
  have free : '/' ∉ before ++ '*' :: behind := by
    intro present
    rcases List.mem_append.mp present with inBefore | present
    · exact freeBefore inBefore
    · rcases List.mem_cons.mp present with differs | inBehind
      · revert differs
        decide
      · exact freeBehind inBehind
  have component : Path.isComponent (before ++ '*' :: behind) = true := by
    unfold Path.isComponent
    rw [Bool.and_eq_true, bne_iff_ne, bne_iff_ne]
    constructor
    · intro none
      rw [none] at held
      cases held
    · intro dot
      rw [dot] at held
      revert held
      decide
  have special : (before ++ '*' :: behind).any (fun c => c = '*' || c = '?' || c = '[') = true :=
    List.any_eq_true.mpr ⟨'*', held, rfl⟩
  have whole : Component.ofText (before ++ '*' :: behind) =
      .ok (.matching (elements (before ++ '*' :: behind))) := by
    unfold Component.ofText
    rw [if_neg, single, if_neg Bool.false_ne_true, if_pos special]
    intro doubled
    rw [doubled] at single
    cases single
  unfold componentsOf
  rw [Path.ofText_component free component]
  change List.mapM Component.ofText [before ++ '*' :: behind] = _
  rw [List.mapM_cons, whole]
  rfl

end Wildcard

end ControllerClient.Pattern
