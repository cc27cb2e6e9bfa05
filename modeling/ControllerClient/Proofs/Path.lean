import ControllerClient.Path
import ControllerClient.Proofs.Text.Pieces

/-!
Paths continued by components, and their texts. Of two paths that go on from the
same path, the texts tell how far they go.
-/

namespace ControllerClient

theorem Root.ofText_of_head? {text : Text} (noSlash : text.head? ≠ some '/') :
    Root.ofText text = here := by
  cases text with
  | nil => rfl
  | cons c rest =>
      have differs : c ≠ '/' := fun same => noSlash (congrArg some same)
      unfold Root.ofText
      split <;> simp_all

def Root.slashes : Root → Nat
  | here => 0
  | top => 1
  | doubleTop => 2

namespace Path

theorem ofText_component {part : Text} (free : '/' ∉ part) (component : isComponent part = true) :
    ofText part = .relative [part] := by
  have noSlash : part.head? ≠ some '/' := fun same => free (List.mem_of_head? same)
  unfold ofText
  rw [Root.ofText_of_head? noSlash, Text.pieces_of_not_mem free, List.filter_cons,
    if_pos component]
  rfl

theorem joinText_component (path : Path) {part : Text} (free : '/' ∉ part)
    (component : isComponent part = true) :
    path.joinText part = { path with parts := path.parts ++ [part] } := by
  unfold joinText
  rw [ofText_component free component]
  rfl

theorem joinText_nil (path : Path) : path.joinText [] = path := by
  change { path with parts := path.parts ++ [] } = path
  rw [List.append_nil]

theorem count_text (root : Root) {parts : List Text} (some_ : parts ≠ []) :
    (Path.text ⟨root, parts⟩).count '/' + 1 =
      (parts.map (List.count '/')).sum + parts.length + root.slashes := by
  obtain ⟨part, later, rfl⟩ := List.exists_cons_of_ne_nil some_
  have joined := @Text.count_joined '/' part later
  cases root with
  | here =>
      change (Text.joined ['/'] (part :: later)).count '/' + 1 = _
      rw [joined, List.length_cons, Root.slashes]
      omega
  | top =>
      change ('/' :: Text.joined ['/'] (part :: later)).count '/' + 1 = _
      rw [List.count_cons_self, joined, List.length_cons, Root.slashes]
      omega
  | doubleTop =>
      change ('/' :: '/' :: Text.joined ['/'] (part :: later)).count '/' + 1 = _
      rw [List.count_cons_self, List.count_cons_self, joined, List.length_cons, Root.slashes]
      omega

theorem sum_count_plain {parts : List Text} (plain : ∀ part ∈ parts, '/' ∉ part) :
    (parts.map (List.count '/')).sum = 0 := by
  induction parts with
  | nil => rfl
  | cons part parts ih =>
      have first := List.count_eq_zero.mpr (plain part List.mem_cons_self)
      have later := ih fun other present => plain other (List.mem_cons_of_mem part present)
      rw [List.map_cons, List.sum_cons, first, later]

theorem length_eq_of_text_eq {root : Root} {front left right : List Text}
    (plainLeft : ∀ part ∈ left, '/' ∉ part) (plainRight : ∀ part ∈ right, '/' ∉ part)
    (someLeft : left ≠ []) (someRight : right ≠ [])
    (same : Path.text ⟨root, front ++ left⟩ = Path.text ⟨root, front ++ right⟩) :
    left.length = right.length := by
  have countLeft := count_text root (List.append_ne_nil_of_right_ne_nil front someLeft)
  have countRight := count_text root (List.append_ne_nil_of_right_ne_nil front someRight)
  rw [List.map_append, List.sum_append, sum_count_plain plainLeft, List.length_append] at countLeft
  rw [List.map_append, List.sum_append, sum_count_plain plainRight, List.length_append,
    ← same] at countRight
  omega

end Path

end ControllerClient
