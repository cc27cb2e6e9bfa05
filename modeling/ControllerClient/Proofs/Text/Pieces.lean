import Mathlib
import ControllerClient.Text

/-!
Cutting at a character and joining with it. The pieces of a text do not hold the
character, and joined pieces that do not hold it are cut where they were joined.
-/

namespace ControllerClient.Text

variable {separator : Char}

theorem mem_onFirstPiece {c : Char} {found : List Text} {piece : Text} {P : Text → Prop}
    (first : ∀ piece, P piece → P (c :: piece)) (alone : P [c])
    (each : ∀ piece ∈ found, P piece) (present : piece ∈ onFirstPiece c found) : P piece := by
  cases found with
  | nil =>
      rw [List.mem_singleton.mp present]
      exact alone
  | cons head later =>
      rcases List.mem_cons.mp present with rfl | inLater
      · exact first head (each head List.mem_cons_self)
      · exact each piece (List.mem_cons_of_mem head inLater)

theorem not_mem_of_mem_pieces {text : Text} :
    ∀ piece ∈ pieces separator text, separator ∉ piece := by
  induction text with
  | nil =>
      intro piece present
      rw [List.mem_singleton.mp present]
      exact List.not_mem_nil
  | cons c rest ih =>
      intro piece present
      rw [pieces_cons] at present
      split at present
      · rcases List.mem_cons.mp present with rfl | later
        · exact List.not_mem_nil
        · exact ih piece later
      · next differs =>
          have grown (piece : Text) (free : separator ∉ piece) : separator ∉ c :: piece := by
            intro inside
            rcases List.mem_cons.mp inside with same | later
            · exact differs same.symm
            · exact free later
          exact mem_onFirstPiece grown (grown [] List.not_mem_nil) ih present

theorem mem_of_mem_pieces {text : Text} :
    ∀ piece ∈ pieces separator text, ∀ c ∈ piece, c ∈ text := by
  induction text with
  | nil =>
      intro piece present c inside
      rw [List.mem_singleton.mp present] at inside
      exact inside
  | cons d rest ih =>
      have later : ∀ piece ∈ pieces separator rest, ∀ c ∈ piece, c ∈ d :: rest :=
        fun piece present c inside => List.mem_cons_of_mem d (ih piece present c inside)
      intro piece present
      rw [pieces_cons] at present
      split at present
      · rcases List.mem_cons.mp present with rfl | inLater
        · intro c inside
          cases inside
        · exact later piece inLater
      · have grown (piece : Text) (each : ∀ c ∈ piece, c ∈ d :: rest) :
            ∀ c ∈ d :: piece, c ∈ d :: rest :=
          List.forall_mem_cons.mpr ⟨List.mem_cons_self, each⟩
        refine mem_onFirstPiece grown (grown [] ?_) later present
        intro c inside
        cases inside

theorem pieces_of_not_mem {text : Text} (free : separator ∉ text) :
    pieces separator text = [text] := by
  induction text with
  | nil => rfl
  | cons c rest ih =>
      have differs : ¬ c = separator := fun same => free (same ▸ List.mem_cons_self)
      have later := ih fun inside => free (List.mem_cons_of_mem c inside)
      rw [pieces_cons, if_neg differs, later]
      rfl

theorem pieces_append {piece : Text} (free : separator ∉ piece) (rest : Text) :
    pieces separator (piece ++ separator :: rest) = piece :: pieces separator rest := by
  induction piece with
  | nil =>
      rw [List.nil_append, pieces_cons, if_pos rfl]
  | cons c piece ih =>
      have differs : ¬ c = separator := fun same => free (same ▸ List.mem_cons_self)
      have later := ih fun inside => free (List.mem_cons_of_mem c inside)
      rw [List.cons_append, pieces_cons, if_neg differs, later]
      rfl

/-- Joined pieces are cut where they were joined. -/
theorem pieces_joined {parts : List Text} (some_ : parts ≠ [])
    (free : ∀ part ∈ parts, separator ∉ part) : pieces separator (joined [separator] parts) = parts := by
  induction parts with
  | nil => exact absurd rfl some_
  | cons part parts ih =>
      have first := free part List.mem_cons_self
      cases parts with
      | nil => exact pieces_of_not_mem first
      | cons second later =>
          have others := ih (List.cons_ne_nil second later)
            fun other present => free other (List.mem_cons_of_mem part present)
          rw [joined_cons_of_ne_nil _ _ (List.cons_ne_nil second later), List.append_assoc,
            List.singleton_append, pieces_append first, others]

theorem exists_joined_cons (separator part : Text) (parts : List Text) :
    ∃ more, joined separator (part :: parts) = part ++ more := by
  cases parts with
  | nil => exact ⟨[], (List.append_nil part).symm⟩
  | cons second parts => exact ⟨_, List.append_assoc part separator _⟩

theorem joined_drop_suffix (separator : Text) (parts : List Text) (n : Nat) :
    joined separator (parts.drop n) <:+ joined separator parts := by
  induction parts generalizing n with
  | nil => rw [List.drop_nil]
  | cons part parts ih =>
      cases n with
      | zero => exact List.suffix_refl _
      | succ n =>
          rw [List.drop_succ_cons]
          cases parts with
          | nil =>
              rw [List.drop_nil]
              exact List.nil_suffix
          | cons second parts =>
              rw [joined_cons_of_ne_nil separator part (List.cons_ne_nil second parts)]
              exact (ih n).trans (List.suffix_append _ _)

theorem joined_append (separator : Text) (parts : List Text) {later : List Text}
    (some_ : later ≠ []) :
    joined separator (parts ++ later) = joined separator (parts ++ [joined separator later]) := by
  induction parts with
  | nil => rfl
  | cons part parts ih =>
      have left : parts ++ later ≠ [] := fun none => some_ (List.append_eq_nil_iff.mp none).2
      have right : parts ++ [joined separator later] ≠ [] :=
        fun none => List.cons_ne_nil _ _ (List.append_eq_nil_iff.mp none).2
      rw [List.cons_append, List.cons_append, joined_cons_of_ne_nil _ _ left,
        joined_cons_of_ne_nil _ _ right, ih]

theorem joined_append_of_ne_nil (separator : Text) {parts later : List Text} (some_ : parts ≠ [])
    (more : later ≠ []) :
    joined separator (parts ++ later) =
      joined separator parts ++ separator ++ joined separator later := by
  induction parts with
  | nil => exact absurd rfl some_
  | cons part parts ih =>
      rw [List.cons_append]
      cases parts with
      | nil => exact joined_cons_of_ne_nil separator part more
      | cons second rest =>
          have others := ih (List.cons_ne_nil second rest)
          have behind : second :: rest ++ later ≠ [] := List.append_ne_nil_of_right_ne_nil _ more
          rw [joined_cons_of_ne_nil _ part behind, others,
            joined_cons_of_ne_nil _ part (List.cons_ne_nil second rest)]
          simp only [List.append_assoc]

theorem mem_joined {separator : Text} {parts : List Text} {c : Char}
    (present : c ∈ joined separator parts) : c ∈ separator ∨ ∃ part ∈ parts, c ∈ part := by
  induction parts with
  | nil => cases present
  | cons part parts ih =>
      cases parts with
      | nil => exact Or.inr ⟨part, List.mem_cons_self, present⟩
      | cons second later =>
          rw [joined_cons_of_ne_nil _ _ (List.cons_ne_nil second later), List.mem_append,
            List.mem_append] at present
          rcases present with (inFirst | between) | inLater
          · exact Or.inr ⟨part, List.mem_cons_self, inFirst⟩
          · exact Or.inl between
          · rcases ih inLater with between | ⟨other, inside, held⟩
            · exact Or.inl between
            · exact Or.inr ⟨other, List.mem_cons_of_mem part inside, held⟩

theorem mem_joined_of_mem {separator part : Text} {parts : List Text} (inside : part ∈ parts)
    {c : Char} (held : c ∈ part) : c ∈ joined separator parts := by
  induction parts with
  | nil => cases inside
  | cons first parts ih =>
      cases parts with
      | nil =>
          rw [List.mem_singleton.mp inside] at held
          exact held
      | cons second later =>
          rw [joined_cons_of_ne_nil _ _ (List.cons_ne_nil second later), List.mem_append,
            List.mem_append]
          rcases List.mem_cons.mp inside with rfl | inLater
          · exact Or.inl (Or.inl held)
          · exact Or.inr (ih inLater)

theorem count_joined {part : Text} {parts : List Text} :
    (joined [separator] (part :: parts)).count separator =
      ((part :: parts).map (List.count separator)).sum + parts.length := by
  induction parts generalizing part with
  | nil =>
      change part.count separator = part.count separator + 0 + 0
      rfl
  | cons second later ih =>
      rw [joined_cons_of_ne_nil _ _ (List.cons_ne_nil second later), List.count_append,
        List.count_append, ih, List.count_singleton_self]
      simp only [List.map_cons, List.sum_cons, List.length_cons]
      omega

theorem length_joined_cons (separator : Text) {piece : Text} (some_ : piece ≠ []) (pieces : List Text) :
    (joined separator pieces).length < (joined separator (piece :: pieces)).length := by
  have long := List.length_pos_iff.mpr some_
  cases pieces with
  | nil => exact long
  | cons second later =>
      rw [joined_cons_of_ne_nil separator piece (List.cons_ne_nil second later), List.length_append,
        List.length_append]
      omega

theorem length_joined_concat (separator : Text) {piece : Text} (some_ : piece ≠ []) (pieces : List Text) :
    (joined separator pieces).length < (joined separator (pieces ++ [piece])).length := by
  have long := List.length_pos_iff.mpr some_
  by_cases none : pieces = []
  · rw [none]
    exact long
  · rw [joined_append_of_ne_nil separator none (List.cons_ne_nil piece []), List.length_append,
      List.length_append]
    change _ < _ + piece.length
    omega

end ControllerClient.Text
