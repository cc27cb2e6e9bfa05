import ControllerClient.Proofs.Route.Cutting

/-!
Templates written back from their segments. Written one after the other, the segments of a
template are the template again. None of them is an empty literal, and a parameter stands
behind the slash that its mark begins with.
-/

namespace ControllerClient.Route

theorem Cut.IsOf.flatten_parts {cut : Cut} {url : Text} (isOf : cut.IsOf url) :
    cut.parts.flatten = url := by
  induction isOf with
  | last free => exact List.flatten_singleton
  | parameter free named slashed later ih =>
      rw [Cut.parts, List.flatten_cons, List.flatten_cons, ih]
      rfl

namespace Segment

theorem join_flatMap_ofPart (parts : List Text) : join (parts.flatMap ofPart) = parts.flatten := by
  induction parts with
  | nil => rfl
  | cons part parts ih =>
      have both : join (ofPart part ++ parts.flatMap ofPart) =
          join (ofPart part) ++ join (parts.flatMap ofPart) := List.flatMap_append
      rw [List.flatMap_cons, both, join_ofPart, ih, List.flatten_cons]

theorem join_split (url : Text) : join (split url) = url := by
  obtain ⟨cut, isOf⟩ := Cut.exists_isOf url
  rw [Cut.split_eq isOf, join_flatMap_ofPart, isOf.flatten_parts]

theorem ne_nil_of_literal_mem_ofPart {part text : Text} (present : .literal text ∈ ofPart part) :
    text ≠ [] := by
  unfold ofPart at present
  split at present
  · have slash : text = ['/'] := by simpa using present
    rw [slash]
    exact List.cons_ne_nil _ _
  · cases present
  · next _ some_ =>
      have same : text = part := by simpa using present
      rwa [same]

/-- In front of each parameter stands a slash as a literal of its own. -/
def FollowsSlashes (segments : List Segment) : Prop :=
  ∀ before name after, segments = before ++ .parameter name :: after →
    ∃ earlier, before = earlier ++ [.literal ['/']]

theorem followsSlashes_ofPart (part : Text) : FollowsSlashes (ofPart part) := by
  intro before name after same
  unfold ofPart at same
  split at same
  · -- The parameter of a part is the second of its two segments.
    cases before with
    | nil => cases same
    | cons slash before =>
        obtain ⟨rfl, same⟩ := List.cons.inj same
        cases before with
        | nil => exact ⟨[], rfl⟩
        | cons parameter before => simp at same
  · simp at same
  · cases before with
    | nil => cases same
    | cons text before => simp at same

theorem FollowsSlashes.append {segments later : List Segment} (here : FollowsSlashes segments)
    (behind : FollowsSlashes later) : FollowsSlashes (segments ++ later) := by
  intro before name after same
  rcases List.append_eq_append_iff.mp same with ⟨between, rfl, inLater⟩ | ⟨between, inHere, rest⟩
  · obtain ⟨earlier, rfl⟩ := behind between name after inLater
    exact ⟨segments ++ earlier, (List.append_assoc _ _ _).symm⟩
  · cases between with
    | nil =>
        -- A parameter at the very beginning would stand behind nothing.
        obtain ⟨earlier, impossible⟩ := behind [] name after rest.symm
        simp at impossible
    | cons parameter between =>
        obtain ⟨rfl, rfl⟩ := List.cons.inj rest
        exact here before name between inHere

theorem followsSlashes_flatMap_ofPart (parts : List Text) :
    FollowsSlashes (parts.flatMap ofPart) := by
  induction parts with
  | nil =>
      intro before name after same
      simp at same
  | cons part parts ih =>
      rw [List.flatMap_cons]
      exact (followsSlashes_ofPart part).append ih

/--
Splitting loses nothing: the segments of a template, written one after the other, are the
template. No literal among them is empty, and each parameter stands right behind a literal that
is a slash.
-/
theorem split_lossless (url : Text) :
    join (split url) = url ∧ (∀ text, .literal text ∈ split url → text ≠ []) ∧
      ∀ before name after, split url = before ++ .parameter name :: after →
        ∃ earlier, before = earlier ++ [.literal ['/']] := by
  refine ⟨join_split url, fun text present => ?_, followsSlashes_flatMap_ofPart _⟩
  obtain ⟨part, _, inPart⟩ := List.mem_flatMap.mp present
  exact ne_nil_of_literal_mem_ofPart inPart

/-- Marks without a name, one at the end of a literal and one that becomes a parameter. -/
example : split "a:/:/:b/:".toList =
    [.literal "a:/:".toList, .literal ['/'], .parameter ['b'], .literal ['/'], .parameter []] := by
  cbv

end Segment

end ControllerClient.Route
