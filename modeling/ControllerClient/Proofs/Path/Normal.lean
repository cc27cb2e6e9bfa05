import ControllerClient.Proofs.Path

/-!
Normal paths: walks along components, in which two dots lead one step back, and
the way from one place to another. The way goes back to what the places share
and on from there, and walking it leads from the one to the other.
-/

namespace ControllerClient.Path

/-- What names an entry of a directory. -/
def IsOrdinary (part : Text) : Prop :=
  part ≠ [] ∧ part ≠ ['.'] ∧ part ≠ "..".toList ∧ '/' ∉ part

instance (part : Text) : Decidable (IsOrdinary part) :=
  inferInstanceAs (Decidable (part ≠ [] ∧ part ≠ ['.'] ∧ part ≠ "..".toList ∧ '/' ∉ part))

theorem IsOrdinary.isComponent {part : Text} (ordinary : IsOrdinary part) :
    isComponent part = true := by
  unfold Path.isComponent
  rw [Bool.and_eq_true, bne_iff_ne, bne_iff_ne]
  exact ⟨ordinary.1, ordinary.2.1⟩

theorem isOrdinary_of_mem_ofText {text part : Text} (present : part ∈ (ofText text).parts)
    (differs : part ≠ "..".toList) : IsOrdinary part := by
  obtain ⟨piece, component⟩ := List.mem_filter.mp present
  unfold Path.isComponent at component
  rw [Bool.and_eq_true, bne_iff_ne, bne_iff_ne] at component
  exact ⟨component.1, component.2, differs, Text.not_mem_of_mem_pieces part piece⟩

theorem parent_concat (directory : List Text) (name : Text) :
    (absolute (directory ++ [name])).parent = absolute directory :=
  congrArg absolute List.dropLast_concat

def walked (start parts : List Text) : List Text := (parts.foldl stepNormal start.reverse).reverse

theorem normalParts_eq (parts : List Text) : normalParts parts = walked [] parts := rfl

@[simp] theorem walked_nil (start : List Text) : walked start [] = start := List.reverse_reverse start

theorem walked_append (start parts later : List Text) :
    walked start (parts ++ later) = walked (walked start parts) later := by
  unfold walked
  rw [List.foldl_append, List.reverse_reverse]

theorem walked_cons (start : List Text) (part : Text) (parts : List Text) :
    walked start (part :: parts) =
      if part = "..".toList then walked start.dropLast parts
      else walked (start ++ [part]) parts := by
  unfold walked
  rw [List.foldl_cons, stepNormal]
  by_cases up : part = "..".toList
  · rw [if_pos up, if_pos up, List.tail_reverse]
  · rw [if_neg up, if_neg up, List.reverse_append, List.reverse_singleton, List.singleton_append]

theorem walked_forward {parts : List Text} (start : List Text)
    (forward : ∀ part ∈ parts, part ≠ "..".toList) : walked start parts = start ++ parts := by
  induction parts generalizing start with
  | nil => simp
  | cons part parts ih =>
      have later : ∀ other ∈ parts, other ≠ "..".toList :=
        fun other present => forward other (List.mem_cons_of_mem part present)
      rw [walked_cons, if_neg (forward part List.mem_cons_self), ih _ later, List.append_assoc,
        List.singleton_append]

theorem walked_back (start : List Text) (steps : Nat) :
    walked start (List.replicate steps "..".toList) = start.take (start.length - steps) := by
  induction steps generalizing start with
  | zero => simp
  | succ steps ih =>
      rw [List.replicate_succ, walked_cons, if_pos rfl, ih, List.length_dropLast,
        List.dropLast_eq_take, List.take_take]
      congr 1
      omega

/-- Everything on the way of a walk, but for two dots, and everything in front may be left. -/
theorem forall_mem_walked {P : Text → Prop} {start parts : List Text}
    (front : ∀ part ∈ start, P part)
    (passed : ∀ part ∈ parts, part ≠ "..".toList → P part) : ∀ part ∈ walked start parts, P part := by
  induction parts generalizing start with
  | nil =>
      rw [walked_nil]
      exact front
  | cons part parts ih =>
      have later : ∀ other ∈ parts, other ≠ "..".toList → P other :=
        fun other present => passed other (List.mem_cons_of_mem part present)
      rw [walked_cons]
      by_cases up : part = "..".toList
      · rw [if_pos up]
        exact ih (fun other present => front other ((List.dropLast_sublist start).mem present)) later
      · rw [if_neg up]
        refine ih ?_ later
        intro other present
        rcases List.mem_append.mp present with inFront | here
        · exact front other inFront
        · rw [List.mem_singleton.mp here]
          exact passed part List.mem_cons_self up

theorem forall_mem_normalParts {P : Text → Prop} {parts : List Text}
    (passed : ∀ part ∈ parts, part ≠ "..".toList → P part) : ∀ part ∈ normalParts parts, P part := by
  rw [normalParts_eq]
  apply forall_mem_walked _ passed
  intro part present
  cases present

theorem normalParts_of_forward {parts : List Text} (forward : ∀ part ∈ parts, part ≠ "..".toList) :
    normalParts parts = parts := by
  rw [normalParts_eq, walked_forward [] forward, List.nil_append]

theorem normalParts_normalParts (parts : List Text) :
    normalParts (normalParts parts) = normalParts parts :=
  normalParts_of_forward (forall_mem_normalParts fun _ _ differs => differs)

theorem commonLength_le_left (left right : List Text) : commonLength left right ≤ left.length := by
  induction left generalizing right with
  | nil => simp [commonLength]
  | cons first left ih =>
      cases right with
      | nil => simp [commonLength]
      | cons second right =>
          rw [commonLength]
          have later := ih right
          split
          · rw [List.length_cons]
            omega
          · exact Nat.zero_le _

theorem take_commonLength (left right : List Text) :
    left.take (commonLength left right) = right.take (commonLength left right) := by
  induction left generalizing right with
  | nil => simp [commonLength]
  | cons first left ih =>
      cases right with
      | nil => simp [commonLength]
      | cons second right =>
          rw [commonLength]
          split
          · next same => rw [same, List.take_succ_cons, List.take_succ_cons, ih]
          · rfl

theorem commonLength_le_right (left right : List Text) :
    commonLength left right ≤ right.length := by
  have within := commonLength_le_left left right
  have same := congrArg List.length (take_commonLength left right)
  rw [List.length_take, List.length_take] at same
  omega

theorem commonLength_nil (start : List Text) : commonLength start [] = 0 :=
  Nat.le_zero.mp (commonLength_le_right start [])

theorem length_le_commonLength {common left right : List Text} (inLeft : common <+: left)
    (inRight : common <+: right) : common.length ≤ commonLength left right := by
  induction common generalizing left right with
  | nil => exact Nat.zero_le _
  | cons part common ih =>
      obtain ⟨behindLeft, rfl⟩ := inLeft
      obtain ⟨behindRight, rfl⟩ := inRight
      have later := ih (List.prefix_append common behindLeft) (List.prefix_append common behindRight)
      rw [List.cons_append, List.cons_append, commonLength, if_pos rfl, List.length_cons]
      omega

theorem commonLength_concat (start target : List Text) (part : Text) :
    commonLength start (target ++ [part]) = commonLength start target ∨
      commonLength start (target ++ [part]) = target.length + 1 ∧
        commonLength start target = target.length ∧ target.length < start.length := by
  induction target generalizing start with
  | nil =>
      cases start with
      | nil => exact Or.inl rfl
      | cons first start =>
          rw [List.nil_append, commonLength, commonLength_nil, commonLength_nil, List.length_nil]
          by_cases same : first = part
          · rw [if_pos same]
            exact Or.inr ⟨rfl, rfl, Nat.succ_pos _⟩
          · rw [if_neg same]
            exact Or.inl rfl
  | cons head target ih =>
      cases start with
      | nil => exact Or.inl rfl
      | cons first start =>
          rw [List.cons_append, commonLength, commonLength]
          by_cases same : first = head
          · rw [if_pos same, if_pos same, List.length_cons, List.length_cons]
            rcases ih start with unchanged | ⟨more, before, within⟩
            · exact Or.inl (by rw [unchanged])
            · exact Or.inr ⟨by rw [more], by rw [before], by omega⟩
          · rw [if_neg same, if_neg same]
            exact Or.inl rfl

theorem relativeParts_of_forward {start target : List Text}
    (startForward : ∀ part ∈ start, part ≠ "..".toList)
    (targetForward : ∀ part ∈ target, part ≠ "..".toList) :
    relativeParts start target =
      List.replicate (start.length - commonLength start target) "..".toList ++
        target.drop (commonLength start target) := by
  unfold relativeParts
  rw [normalParts_of_forward startForward, normalParts_of_forward targetForward]

theorem relativeParts_shared {start target : List Text}
    (startForward : ∀ part ∈ start, part ≠ "..".toList)
    (targetForward : ∀ part ∈ target, part ≠ "..".toList) :
    ∃ shared later, shared <+: start ∧ target = shared ++ later ∧
      (∀ common, common <+: start → common <+: target → common.length ≤ shared.length) ∧
      relativeParts start target =
        List.replicate (start.length - shared.length) "..".toList ++ later := by
  have within := commonLength_le_left start target
  have length : (start.take (commonLength start target)).length = commonLength start target := by
    rw [List.length_take]
    omega
  refine ⟨start.take (commonLength start target), target.drop (commonLength start target),
    List.take_prefix _ _, ?_, ?_, ?_⟩
  · rw [take_commonLength, List.take_append_drop]
  · intro common inStart inTarget
    rw [length]
    exact length_le_commonLength inStart inTarget
  · rw [relativeParts_of_forward startForward targetForward, length]

theorem relativeParts_normalParts (start target : List Text) :
    relativeParts start (normalParts target) = relativeParts start target := by
  unfold relativeParts
  rw [normalParts_normalParts]

/-- Walking the way to a place leads there. -/
theorem walked_relativeParts {start target : List Text}
    (startForward : ∀ part ∈ start, part ≠ "..".toList)
    (targetForward : ∀ part ∈ target, part ≠ "..".toList) :
    walked start (relativeParts start target) = target := by
  obtain ⟨shared, later, ⟨behind, inStart⟩, inTarget, _, way⟩ :=
    relativeParts_shared startForward targetForward
  have forward : ∀ part ∈ later, part ≠ "..".toList := by
    intro part present
    apply targetForward part
    rw [inTarget]
    exact List.mem_append_right shared present
  have back : start.length - (start.length - shared.length) = shared.length := by
    rw [← inStart, List.length_append]
    omega
  rw [way, walked_append, walked_back, back, walked_forward _ forward, inTarget, ← inStart,
    List.take_left]

theorem relativeParts_eq_nil_iff {start target : List Text}
    (startForward : ∀ part ∈ start, part ≠ "..".toList)
    (targetForward : ∀ part ∈ target, part ≠ "..".toList) :
    relativeParts start target = [] ↔ target = start := by
  constructor
  · intro none
    have leads := walked_relativeParts startForward targetForward
    rw [none, walked_nil] at leads
    exact leads.symm
  · rintro rfl
    obtain ⟨shared, later, inStart, inTarget, longest, way⟩ :=
      relativeParts_shared targetForward targetForward
    have whole := longest target (List.prefix_refl target) (List.prefix_refl target)
    have length := congrArg List.length inTarget
    rw [List.length_append] at length
    have noneBack : target.length - shared.length = 0 := by omega
    have noneLater : later = [] := List.eq_nil_of_length_eq_zero (by omega)
    rw [way, noneBack, noneLater]
    rfl

theorem relativeParts_append {start later : List Text}
    (startForward : ∀ part ∈ start, part ≠ "..".toList)
    (laterForward : ∀ part ∈ later, part ≠ "..".toList) :
    relativeParts start (start ++ later) = later := by
  have forward : ∀ part ∈ start ++ later, part ≠ "..".toList :=
    List.forall_mem_append.mpr ⟨startForward, laterForward⟩
  have within := commonLength_le_left start (start ++ later)
  have whole := length_le_commonLength (List.prefix_refl start) (List.prefix_append start later)
  have common : commonLength start (start ++ later) = start.length := by omega
  rw [relativeParts_of_forward startForward forward, common, Nat.sub_self, List.drop_left,
    List.replicate_zero, List.nil_append]

/-- The way to an entry of a place leads on by it, or back by one step less. -/
theorem relativeParts_concat {start target : List Text} {part : Text}
    (startForward : ∀ part ∈ start, part ≠ "..".toList)
    (targetForward : ∀ part ∈ target, part ≠ "..".toList) (forward : part ≠ "..".toList) :
    relativeParts start (target ++ [part]) = relativeParts start target ++ [part] ∨
      relativeParts start target = "..".toList :: relativeParts start (target ++ [part]) := by
  have entryForward : ∀ other ∈ target ++ [part], other ≠ "..".toList :=
    List.forall_mem_append.mpr ⟨targetForward, List.forall_mem_singleton.mpr forward⟩
  have within := commonLength_le_right start target
  rw [relativeParts_of_forward startForward targetForward,
    relativeParts_of_forward startForward entryForward]
  rcases commonLength_concat start target part with unchanged | ⟨more, before, below⟩
  · left
    rw [unchanged, List.drop_append_of_le_length within, List.append_assoc]
  · right
    have steps : start.length - target.length = (start.length - (target.length + 1)) + 1 := by omega
    have whole : (target ++ [part]).length = target.length + 1 := List.length_append
    rw [more, before, List.drop_length, List.append_nil, List.drop_of_length_le whole.le,
      List.append_nil, steps, List.replicate_succ]

theorem ofText_joined {parts : List Text}
    (plain : ∀ part ∈ parts, isComponent part = true ∧ '/' ∉ part) :
    ofText (Text.joined ['/'] parts) = .relative parts := by
  cases parts with
  | nil => rfl
  | cons part later =>
      have free : ∀ other ∈ part :: later, '/' ∉ other := fun other present => (plain other present).2
      have kept : (part :: later).filter isComponent = part :: later :=
        List.filter_eq_self.mpr fun other present => (plain other present).1
      have noSlash : (Text.joined ['/'] (part :: later)).head? ≠ some '/' := by
        obtain ⟨component, noSlash⟩ := plain part List.mem_cons_self
        cases part with
        | nil => cases component
        | cons c rest =>
            have head : (Text.joined ['/'] ((c :: rest) :: later)).head? = some c := by
              cases later <;> rfl
            rw [head]
            intro same
            exact noSlash (Option.some.inj same ▸ List.mem_cons_self)
      unfold ofText
      rw [Root.ofText_of_head? noSlash, Text.pieces_joined (List.cons_ne_nil part later) free, kept]
      rfl

end ControllerClient.Path
