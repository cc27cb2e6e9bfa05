import ControllerClient.Proofs.Route.Filling

/-!
Templates cut at their parameters. A parameter is `/:` and a name, which goes up to the next
slash, and the texts between parameters hold none; this cuts a template in one way. A template
made of two is cut where each of them is, so that it is filled as they are one after the other.
-/

namespace ControllerClient.Route

/-! ### Parameters in a text -/

def BeginsParameter (text : Text) : Prop := ∃ c, c ≠ '/' ∧ ['/', ':', c] <+: text

/-- Somewhere in a text `/:` is followed by the first character of a name. -/
def HoldsParameter (text : Text) : Prop := ∃ c, c ≠ '/' ∧ ['/', ':', c] <:+: text

/-- Somewhere in a text `/:` has no name behind it. -/
def HoldsBareMark (text : Text) : Prop := ['/', ':'] <:+ text ∨ ['/', ':', '/'] <:+: text

instance (text : Text) : Decidable (HoldsBareMark text) :=
  inferInstanceAs (Decidable (['/', ':'] <:+ text ∨ ['/', ':', '/'] <:+: text))

def IsName (name : Text) : Prop := name ≠ [] ∧ '/' ∉ name

/-- What can stand behind a name: nothing, or a text that begins with a slash. -/
def IsSlashed (text : Text) : Prop := text = [] ∨ ∃ rest, text = '/' :: rest

section Texts

variable {text rest name : Text}

theorem IsSlashed.append (slashed : IsSlashed text) (behind : IsSlashed rest) :
    IsSlashed (text ++ rest) := by
  rcases slashed with rfl | ⟨later, rfl⟩
  · exact behind
  · exact Or.inr ⟨later ++ rest, rfl⟩

theorem IsSlashed.of_append (slashed : IsSlashed (text ++ rest)) : IsSlashed text := by
  cases text with
  | nil => exact Or.inl rfl
  | cons c text =>
      rcases slashed with none | ⟨later, same⟩
      · cases none
      · cases same
        exact Or.inr ⟨text, rfl⟩

theorem holdsParameter_cons (c : Char) (text : Text) :
    HoldsParameter (c :: text) ↔ BeginsParameter (c :: text) ∨ HoldsParameter text := by
  unfold HoldsParameter BeginsParameter
  simp only [List.infix_cons_iff, and_or_left, exists_or]

theorem not_holdsParameter_nil : ¬ HoldsParameter [] := by
  rintro ⟨c, _, inside⟩
  cases List.infix_nil.mp inside

/-- A parameter does not begin in a text and go on behind a slash. -/
theorem BeginsParameter.of_append {c : Char} (slashed : IsSlashed rest)
    (begins : BeginsParameter (c :: text ++ rest)) : BeginsParameter (c :: text) := by
  obtain ⟨d, named, begins⟩ := begins
  refine ⟨d, named, ?_⟩
  simp only [List.cons_append, List.cons_prefix_cons] at begins ⊢
  obtain ⟨first, begins⟩ := begins
  refine ⟨first, ?_⟩
  -- The mark and the name's first character come before the slash that begins the rest.
  rcases slashed with rfl | ⟨later, rfl⟩
  · rwa [List.append_nil] at begins
  · cases text with
    | nil => simp at begins
    | cons e text =>
        cases text with
        | nil => simp [named] at begins
        | cons f text => simpa [List.cons_prefix_cons] using begins

theorem holdsParameter_append (slashed : IsSlashed rest) :
    HoldsParameter (text ++ rest) ↔ HoldsParameter text ∨ HoldsParameter rest := by
  induction text with
  | nil => simp [not_holdsParameter_nil]
  | cons c text ih =>
      have begins : BeginsParameter (c :: (text ++ rest)) ↔ BeginsParameter (c :: text) := by
        constructor
        · exact BeginsParameter.of_append slashed
        · rintro ⟨d, named, begins⟩
          exact ⟨d, named, begins.trans (List.prefix_append (c :: text) rest)⟩
      rw [List.cons_append, holdsParameter_cons, holdsParameter_cons, ih, begins, or_assoc]

theorem not_prefix_append (clear : ¬ ['/', ':'] <+: text)
    (restClear : ¬ ['/', ':'] <+: rest) (slashed : IsSlashed rest) :
    ¬ ['/', ':'] <+: text ++ rest := by
  cases text with
  | nil => exact restClear
  | cons c text =>
      cases text with
      | nil =>
          rcases slashed with rfl | ⟨later, rfl⟩
          · exact clear
          · simp
      | cons d text => simpa [List.cons_prefix_cons] using clear

theorem HoldsBareMark.behind (held : HoldsBareMark rest) (text : Text) :
    HoldsBareMark (text ++ rest) := by
  rcases held with atEnd | inside
  · exact Or.inl (List.suffix_append_of_suffix atEnd)
  · exact Or.inr (List.infix_append_of_infix_right inside)

theorem holdsBareMark_of_begins (free : ¬ HoldsParameter text) (slashed : IsSlashed rest)
    (begins : ['/', ':'] <+: text) : HoldsBareMark (text ++ rest) := by
  obtain ⟨name, rfl⟩ := begins
  cases name with
  | nil =>
      rcases slashed with rfl | ⟨later, rfl⟩
      · exact Or.inl (List.suffix_refl _)
      · exact Or.inr ⟨[], later, rfl⟩
  | cons c name =>
      by_cases named : c = '/'
      · subst named
        exact Or.inr ⟨[], name ++ rest, rfl⟩
      · exact absurd ⟨c, named, [], name, rfl⟩ free

theorem parameter?_of_name (named : IsName name) (slashed : IsSlashed rest) :
    parameter? ('/' :: ':' :: (name ++ rest)) = some (name, rest) := by
  obtain ⟨some_, plain⟩ := named
  have inside : ∀ c ∈ name, (c != '/') = true := by
    intro c present
    exact bne_iff_ne.mpr fun same => plain (same ▸ present)
  have taken : (name ++ rest).takeWhile (· != '/') = name := by
    rw [List.takeWhile_append_of_pos inside]
    rcases slashed with rfl | ⟨later, rfl⟩ <;> simp
  have left : (name ++ rest).dropWhile (· != '/') = rest := by
    rw [List.dropWhile_append_of_pos inside]
    rcases slashed with rfl | ⟨later, rfl⟩ <;> simp
  rw [parameter?, left, taken]
  cases name with
  | nil => exact absurd rfl some_
  | cons c name => rfl

theorem of_parameter?_eq_some (found : parameter? text = some (name, rest)) :
    text = '/' :: ':' :: (name ++ rest) ∧ IsName name ∧ IsSlashed rest := by
  unfold parameter? at found
  split at found
  · next behind =>
      split at found
      · cases found
      · next other some_ =>
          cases found
          refine ⟨?_, ⟨some_, ?_⟩, ?_⟩
          · rw [List.takeWhile_append_dropWhile]
          · intro inside
            exact absurd (List.mem_takeWhile_imp inside) (by decide)
          · cases left : behind.dropWhile (· != '/') with
            | nil => exact Or.inl rfl
            | cons c later =>
                have stops := List.head?_dropWhile_not (· != '/') behind
                rw [left] at stops
                exact Or.inr ⟨later, by simpa using stops⟩
  · cases found

theorem parameter?_eq_none_iff : parameter? text = none ↔ ¬ BeginsParameter text := by
  constructor
  · rintro none ⟨c, named, behind, rfl⟩
    simp [parameter?, named] at none
  · intro plain
    cases found : parameter? text with
    | none => rfl
    | some pair =>
        obtain ⟨name, rest⟩ := pair
        obtain ⟨rfl, ⟨some_, slashless⟩, _⟩ := of_parameter?_eq_some found
        cases name with
        | nil => exact absurd rfl some_
        | cons c name =>
            have named : c ≠ '/' := fun same => slashless (same ▸ List.mem_cons_self)
            exact absurd ⟨c, named, name ++ rest, rfl⟩ plain

end Texts

/-! ### Cuts and their segments -/

/-- A template in pieces: a text, and perhaps the name of a parameter and what comes behind it. -/
inductive Cut where
  | last (text : Text)
  | parameter (text name : Text) (behind : Cut)

namespace Cut

/-- The pieces make up a template, whose parameters are all among them. -/
inductive IsOf : Cut → Text → Prop where
  | last {text : Text} (free : ¬ HoldsParameter text) : IsOf (.last text) text
  | parameter {text name rest : Text} {behind : Cut} (free : ¬ HoldsParameter text)
      (named : IsName name) (slashed : IsSlashed rest) (later : IsOf behind rest) :
      IsOf (.parameter text name behind) (text ++ '/' :: ':' :: (name ++ rest))

def first : Cut → Text
  | last text => text
  | parameter text _ _ => text

def texts : Cut → List Text
  | last text => [text]
  | parameter text _ behind => text :: behind.texts

def names : Cut → List Text
  | last _ => []
  | parameter _ name behind => name :: behind.names

def parts : Cut → List Text
  | last text => [text]
  | parameter text name behind => text :: ('/' :: ':' :: name) :: behind.parts

theorem mem_parts_iff {cut : Cut} {part : Text} :
    part ∈ cut.parts ↔ part ∈ cut.texts ∨ ∃ name ∈ cut.names, part = '/' :: ':' :: name := by
  induction cut with
  | last text => simp [parts, texts, names]
  | parameter text name behind ih =>
      simp only [parts, texts, names, List.mem_cons, ih, exists_eq_or_imp]
      tauto

theorem IsOf.free {cut : Cut} {url : Text} (isOf : cut.IsOf url) :
    ∀ text ∈ cut.texts, ¬ HoldsParameter text := by
  induction isOf with
  | last free => exact List.forall_mem_singleton.mpr free
  | parameter free _ _ _ ih => exact List.forall_mem_cons.mpr ⟨free, ih⟩

theorem IsOf.free_first {cut : Cut} {url : Text} (isOf : cut.IsOf url) :
    ¬ HoldsParameter cut.first := by
  cases isOf with
  | last free => exact free
  | parameter free _ _ _ => exact free

theorem IsOf.named {cut : Cut} {url : Text} (isOf : cut.IsOf url) :
    ∀ name ∈ cut.names, IsName name := by
  induction isOf with
  | last _ => exact fun name present => absurd present List.not_mem_nil
  | parameter _ named _ _ ih => exact List.forall_mem_cons.mpr ⟨named, ih⟩

theorem parts_injective {cut other : Cut} (same : cut.parts = other.parts) : cut = other := by
  induction cut generalizing other with
  | last text =>
      cases other with
      | last => simpa [parts] using same
      | parameter => simp [parts] at same
  | parameter text name behind ih =>
      cases other with
      | last => simp [parts] at same
      | parameter =>
          simp only [parts, List.cons.injEq, true_and] at same
          obtain ⟨rfl, rfl, later⟩ := same
          rw [ih later]

/-- Every template can be cut: at the first parameter, and what is behind it in turn. -/
theorem exists_isOf (url : Text) : ∃ cut : Cut, cut.IsOf url := by
  fun_induction Route.parts [] url with
  | case1 pending url name rest found ih =>
      obtain ⟨rfl, named, slashed⟩ := of_parameter?_eq_some found
      obtain ⟨behind, later⟩ := ih
      exact ⟨_, .parameter not_holdsParameter_nil named slashed later⟩
  | case2 => exact ⟨_, .last not_holdsParameter_nil⟩
  | case3 pending c rest none ih =>
      have plain := parameter?_eq_none_iff.mp none
      obtain ⟨cut, isOf⟩ := ih
      cases isOf with
      | last free =>
          have whole := (holdsParameter_cons c rest).not.mpr (not_or.mpr ⟨plain, free⟩)
          exact ⟨_, .last whole⟩
      | @parameter text name behindName behind free named slashed later =>
          have inFront : ¬ BeginsParameter (c :: text) := by
            rintro ⟨d, nameFirst, begins⟩
            exact plain ⟨d, nameFirst, begins.trans (List.prefix_append (c :: text) _)⟩
          have whole := (holdsParameter_cons c text).not.mpr (not_or.mpr ⟨inFront, free⟩)
          exact ⟨_, .parameter whole named slashed later⟩

theorem parts_of_parameter {url name rest : Text} (found : parameter? url = some (name, rest))
    (pending : Text) :
    Route.parts pending url = pending.reverse :: ('/' :: ':' :: name) :: Route.parts [] rest := by
  rw [Route.parts]
  split
  · next other behind same =>
      rw [found] at same
      cases same
      rfl
  · next none =>
      rw [found] at none
      cases none

theorem parts_cons {c : Char} {url : Text} (none : parameter? (c :: url) = none) (pending : Text) :
    Route.parts pending (c :: url) = Route.parts (c :: pending) url := by
  rw [Route.parts]
  split
  · next found =>
      rw [none] at found
      cases found
  · rfl

theorem parts_append {text rest : Text} (free : ¬ HoldsParameter text) (slashed : IsSlashed rest)
    (pending : Text) :
    Route.parts pending (text ++ rest) = Route.parts (text.reverse ++ pending) rest := by
  induction text generalizing pending with
  | nil => rfl
  | cons c text ih =>
      obtain ⟨plain, free⟩ := not_or.mp ((holdsParameter_cons c text).not.mp free)
      have none : parameter? (c :: (text ++ rest)) = none :=
        parameter?_eq_none_iff.mpr fun begins => plain (begins.of_append slashed)
      rw [List.cons_append, parts_cons none, ih free, List.reverse_cons, List.append_assoc]
      rfl

/-- The parts of a template are the pieces of any cut of it. -/
theorem IsOf.parts_eq {cut : Cut} {url : Text} (isOf : cut.IsOf url) :
    Route.parts [] url = cut.parts := by
  induction isOf with
  | @last text free =>
      have whole := parts_append free (Or.inl rfl) []
      rw [List.append_nil, List.append_nil] at whole
      rw [whole, Route.parts]
      simp [parameter?, parts]
  | @parameter text name rest behind free named slashed later ih =>
      rw [parts_append free (Or.inr ⟨_, rfl⟩), parts_of_parameter (parameter?_of_name named slashed),
        List.append_nil, List.reverse_reverse, ih]
      rfl

theorem IsOf.unique {cut other : Cut} {url : Text} (isOf : cut.IsOf url)
    (otherIsOf : other.IsOf url) : other = cut :=
  parts_injective (otherIsOf.parts_eq.symm.trans isOf.parts_eq)

def plain (text : Text) : List Segment := if text = [] then [] else [.literal text]

def segments : Cut → List Segment
  | last text => plain text
  | parameter text name behind =>
      plain text ++ .literal ['/'] :: .parameter name :: behind.segments

/-- No text of a cut begins as a parameter does. -/
def IsClear (cut : Cut) : Prop := ∀ text ∈ cut.texts, ¬ ['/', ':'] <+: text

theorem split_eq {cut : Cut} {url : Text} (isOf : cut.IsOf url) :
    Segment.split url = cut.parts.flatMap Segment.ofPart := by
  rw [Segment.split, isOf.parts_eq]

theorem ofPart_plain {text : Text} (clear : ¬ ['/', ':'] <+: text) :
    Segment.ofPart text = plain text := by
  unfold Segment.ofPart
  split
  · next name => exact absurd ⟨name, rfl⟩ clear
  · rfl
  · next other some_ => rw [plain, if_neg some_]

theorem split_of_isClear {cut : Cut} {url : Text} (isOf : cut.IsOf url) (clear : cut.IsClear) :
    Segment.split url = cut.segments := by
  rw [split_eq isOf]
  induction isOf with
  | last free =>
      rw [parts, List.flatMap_singleton, ofPart_plain (clear _ List.mem_cons_self)]
      rfl
  | parameter free named slashed later ih =>
      obtain ⟨here, behind⟩ := List.forall_mem_cons.mp clear
      rw [parts, List.flatMap_cons, List.flatMap_cons, ih behind, ofPart_plain here]
      rfl

theorem of_literal_mem_ofPart {part text : Text} (present : .literal text ∈ Segment.ofPart part) :
    text = ['/'] ∨ text = part ∧ ¬ ['/', ':'] <+: part := by
  unfold Segment.ofPart at present
  split at present
  · exact Or.inl (by simpa using present)
  · cases present
  · next other _ =>
      have same : text = part := by simpa using present
      refine Or.inr ⟨same, ?_⟩
      rintro ⟨name, begins⟩
      exact other name begins.symm

theorem parameter_mem_ofPart_iff {part name : Text} :
    .parameter name ∈ Segment.ofPart part ↔ part = '/' :: ':' :: name := by
  unfold Segment.ofPart
  split
  · simp [eq_comm]
  · simp
  · next other _ =>
      constructor
      · intro present
        cases List.mem_singleton.mp present
      · exact fun same => absurd same (other name)

theorem not_holdsParameter_of_mem {url text : Text}
    (present : .literal text ∈ Segment.split url) : ¬ HoldsParameter text := by
  obtain ⟨cut, isOf⟩ := exists_isOf url
  rw [split_eq isOf] at present
  obtain ⟨part, inParts, present⟩ := List.mem_flatMap.mp present
  rcases of_literal_mem_ofPart present with rfl | ⟨rfl, clear⟩
  · rintro ⟨c, _, inside⟩
    have long : 3 ≤ 1 := inside.length_le
    omega
  · rcases mem_parts_iff.mp inParts with inTexts | ⟨name, _, rfl⟩
    · exact isOf.free text inTexts
    · exact absurd ⟨name, rfl⟩ clear

/-- The parameters have the names of the cut exactly when no text of it begins as they do. -/
theorem forall_isName_iff {cut : Cut} {url : Text} (isOf : cut.IsOf url) :
    (∀ name, .parameter name ∈ Segment.split url → IsName name) ↔ cut.IsClear := by
  have parameters (name : Text) : .parameter name ∈ Segment.split url ↔
      '/' :: ':' :: name ∈ cut.parts := by
    rw [split_eq isOf, List.mem_flatMap]
    constructor
    · rintro ⟨part, inParts, present⟩
      rwa [parameter_mem_ofPart_iff.mp present] at inParts
    · exact fun inParts => ⟨_, inParts, parameter_mem_ofPart_iff.mpr rfl⟩
  constructor
  · rintro named text inTexts ⟨name, rfl⟩
    obtain ⟨some_, plain⟩ := named name ((parameters name).mpr (mem_parts_iff.mpr (Or.inl inTexts)))
    obtain ⟨c, rest, rfl⟩ := List.exists_cons_of_ne_nil some_
    have slashless : c ≠ '/' := fun same => plain (same ▸ List.mem_cons_self)
    exact isOf.free _ inTexts ⟨c, slashless, [], rest, rfl⟩
  · intro clear name present
    rcases mem_parts_iff.mp ((parameters name).mp present) with inTexts | ⟨other, inNames, same⟩
    · exact absurd ⟨name, rfl⟩ (clear _ inTexts)
    · cases same
      exact isOf.named name inNames

end Cut

/--
A template is cut in one way into parameters, whose names are not empty and hold no slash, and
the texts between them. A literal holds no parameter. The parameters of the split template have
such names exactly when no text of the cut begins with `/:`, and then they are the parameters of
the cut, behind a slash each, and the texts are the literals.
-/
theorem split_cut (url : Text) :
    ∃ cut : Cut, cut.IsOf url ∧ (∀ other : Cut, other.IsOf url → other = cut) ∧
      (∀ text, .literal text ∈ Segment.split url → ¬ HoldsParameter text) ∧
      ((∀ name, .parameter name ∈ Segment.split url → name ≠ [] ∧ '/' ∉ name) ↔
        ∀ text ∈ cut.texts, ¬ ['/', ':'] <+: text) ∧
      ((∀ text ∈ cut.texts, ¬ ['/', ':'] <+: text) → Segment.split url = cut.segments) := by
  obtain ⟨cut, isOf⟩ := Cut.exists_isOf url
  exact ⟨cut, isOf, fun _ => isOf.unique, fun _ => Cut.not_holdsParameter_of_mem,
    Cut.forall_isName_iff isOf, Cut.split_of_isClear isOf⟩

/-- A text behind a parameter that begins with `/:` becomes a parameter without a proper name. -/
example : Segment.split "/:a/:/b".toList =
    [.literal ['/'], .parameter ['a'], .literal ['/'], .parameter ['/', 'b']] := by cbv

/-! ### Templates made of two -/

namespace Cut

theorem IsOf.isClear {cut : Cut} {url : Text} (isOf : cut.IsOf url) (clear : ¬ HoldsBareMark url) :
    cut.IsClear := by
  induction isOf with
  | last free =>
      refine List.forall_mem_singleton.mpr fun begins => clear ?_
      have held := holdsBareMark_of_begins free (Or.inl rfl) begins
      rwa [List.append_nil] at held
  | @parameter text name rest behind free named slashed later ih =>
      refine List.forall_mem_cons.mpr ⟨fun begins => clear ?_, ih fun held => clear ?_⟩
      · exact holdsBareMark_of_begins free (Or.inr ⟨_, rfl⟩) begins
      · have whole := held.behind (text ++ '/' :: ':' :: name)
        rwa [List.append_assoc] at whole

def append : Cut → Cut → Cut
  | last text, last other => .last (text ++ other)
  | last text, parameter other name behind => .parameter (text ++ other) name behind
  | parameter text name behind, other => .parameter text name (behind.append other)

section Append

variable {cut other : Cut} {url path : Text}

theorem IsOf.isSlashed_first (isOf : cut.IsOf url) (slashed : IsSlashed url) :
    IsSlashed cut.first := by
  cases isOf with
  | last _ => exact slashed
  | parameter _ _ _ _ => exact slashed.of_append

theorem IsOf.append (isOf : cut.IsOf url) (otherIsOf : other.IsOf path)
    (slashed : IsSlashed path) : (cut.append other).IsOf (url ++ path) := by
  induction isOf with
  | last free =>
      have joined := (holdsParameter_append (otherIsOf.isSlashed_first slashed)).not.mpr
        (not_or.mpr ⟨free, otherIsOf.free_first⟩)
      cases otherIsOf with
      | last _ => exact .last joined
      | parameter _ named slashedBehind later =>
          rw [← List.append_assoc]
          exact .parameter joined named slashedBehind later
  | parameter free named slashedBehind later ih =>
      rw [List.append_assoc, List.cons_append, List.cons_append, List.append_assoc]
      exact .parameter free named (slashedBehind.append slashed) ih

theorem IsClear.append (clear : cut.IsClear) (otherClear : other.IsClear)
    (slashed : IsSlashed other.first) : (cut.append other).IsClear := by
  induction cut with
  | last text =>
      have here := clear text List.mem_cons_self
      cases other with
      | last own =>
          have behind := otherClear own List.mem_cons_self
          exact List.forall_mem_singleton.mpr (not_prefix_append here behind slashed)
      | parameter own name later =>
          obtain ⟨behind, rest⟩ := List.forall_mem_cons.mp otherClear
          exact List.forall_mem_cons.mpr ⟨not_prefix_append here behind slashed, rest⟩
  | parameter text name behind ih =>
      obtain ⟨here, rest⟩ := List.forall_mem_cons.mp clear
      exact List.forall_mem_cons.mpr ⟨here, ih rest⟩

end Append

theorem fill_plain (text : Text) (later : List Segment) (data : Entries) :
    fill (plain text ++ later) data =
      (fill later data).map fun (url, rest) => (text ++ url, rest) := by
  unfold plain
  split
  · next none =>
      rw [none]
      exact (id_map (fill later data)).symm
  · exact fill_cons_of_use rfl later

theorem fill_plain_append (text own : Text) (later : List Segment) (data : Entries) :
    fill (plain (text ++ own) ++ later) data = fill (plain text ++ (plain own ++ later)) data := by
  rw [fill_plain, fill_plain, fill_plain]
  cases fill later data with
  | error failure => rfl
  | ok filled => simp [Except.map]

theorem fill_segments_append (cut other : Cut) (data : Entries) :
    fill (cut.append other).segments data = fill (cut.segments ++ other.segments) data := by
  induction cut generalizing data with
  | last text =>
      cases other with
      | last own =>
          have joined := fill_plain_append text own [] data
          rwa [List.append_nil, List.append_nil] at joined
      | parameter own name behind => exact fill_plain_append text own _ data
  | parameter text name behind ih =>
      simp only [append, segments, List.append_assoc, fill_plain, List.cons_append, fill, ih]

end Cut

/--
A template that is made of two is filled as the first and then, with what that leaves of the
data, the second, if the second begins with a slash or is empty and every `/:` in them has a name
behind it.
-/
theorem fill_split_append {url path : Text} (slashed : IsSlashed path)
    (clear : ¬ HoldsBareMark url) (pathClear : ¬ HoldsBareMark path) (data : Entries) :
    fill (Segment.split (url ++ path)) data =
      (do
        let (front, rest) ← fill (Segment.split url) data
        let (behind, rest) ← fill (Segment.split path) rest
        .ok (front ++ behind, rest)) := by
  obtain ⟨cut, isOf⟩ := Cut.exists_isOf url
  obtain ⟨other, otherIsOf⟩ := Cut.exists_isOf path
  have cutClear := isOf.isClear clear
  have otherClear := otherIsOf.isClear pathClear
  have whole := isOf.append otherIsOf slashed
  have wholeClear := cutClear.append otherClear (otherIsOf.isSlashed_first slashed)
  rw [Cut.split_of_isClear whole wholeClear, Cut.split_of_isClear isOf cutClear,
    Cut.split_of_isClear otherIsOf otherClear, Cut.fill_segments_append, fill_append]

/--
The first ends with a parameter, which the second has again and finds used up; what is null is
left empty.
-/
theorem fill_split_append_shared :
    IsSlashed "/x/:a/:b".toList ∧ ¬ HoldsBareMark "/u:/:a".toList ∧
      ¬ HoldsBareMark "/x/:a/:b".toList ∧
      fill (Segment.split ("/u:/:a".toList ++ "/x/:a/:b".toList))
          [(.str ['c'], .bool true), (.str ['b'], .null), (.str ['a'], .str ['1'])] =
        .ok ("/u:/1/x//".toList, [(.str ['c'], .bool true)]) := by
  have slashed : IsSlashed "/x/:a/:b".toList := Or.inr ⟨_, rfl⟩
  have clear : ¬ HoldsBareMark "/u:/:a".toList := by decide +kernel
  have pathClear : ¬ HoldsBareMark "/x/:a/:b".toList := by decide +kernel
  have first : Segment.split "/u:/:a".toList =
      [.literal "/u:".toList, .literal ['/'], .parameter ['a']] := by cbv
  have second : Segment.split "/x/:a/:b".toList =
      [.literal "/x".toList, .literal ['/'], .parameter ['a'], .literal ['/'],
        .parameter ['b']] := by cbv
  refine ⟨slashed, clear, pathClear, ?_⟩
  rw [fill_split_append slashed clear pathClear, first, second]
  rfl

end ControllerClient.Route
