import ControllerClient.Proofs.Value.Fields
import ControllerClient.Route.Template

/-!
What filling a template does with the fields of the data: each parameter takes the
field of its name once, and the fields that no parameter names are left over in their
order. What a field puts into the path is not looked at again.
-/

namespace ControllerClient.Route

open Entries

/--
What a segment behind others becomes: a literal stays, and a parameter becomes the text of its
field, unless a parameter before it has taken that field.
-/
def Segment.filled (fields : Table Value) (before : List Segment) : Segment → Text
  | literal text => text
  | parameter name => if parameter name ∈ before then [] else filling (fields.lookup name)

def path (segments : List Segment) (fields : Table Value) : Text :=
  (segments.mapIdx fun n segment => segment.filled fields (segments.take n)).flatten

/-- The fields that no parameter names, in their order. -/
def leftOver (segments : List Segment) (fields : Table Value) : Table Value :=
  fields.filter fun field => .parameter field.1 ∉ segments

theorem nodup_leftOver (segments : List Segment) {fields : Table Value}
    (distinct : (fields.map (·.1)).Nodup) : ((leftOver segments fields).map (·.1)).Nodup :=
  distinct.sublist (List.filter_sublist.map _)

theorem mem_of_mem_leftOver {segments : List Segment} {fields : Table Value} {field : Text × Value}
    (present : field ∈ leftOver segments fields) : field ∈ fields :=
  (List.mem_filter.mp present).1

theorem forall_mem_leftOver {segments : List Segment} {fields : Table Value}
    {holds : Text × Value → Prop} (each : ∀ field ∈ fields, holds field) :
    ∀ field ∈ leftOver segments fields, holds field :=
  fun field present => each field (mem_of_mem_leftOver present)

theorem lookup_leftOver (segments : List Segment) (fields : Table Value) (name : Text) :
    (leftOver segments fields).lookup name =
      if .parameter name ∈ segments then none else fields.lookup name := by
  have kept := Table.lookup_filter (fun name => decide (.parameter name ∉ segments)) fields name
  by_cases taken : Segment.parameter name ∈ segments
  · simpa [leftOver, taken] using kept
  · simpa [leftOver, taken] using kept

theorem leftOver_literal (before : List Segment) (text : Text) (fields : Table Value) :
    leftOver (before ++ [.literal text]) fields = leftOver before fields := by
  simp [leftOver]

theorem leftOver_parameter (before : List Segment) (name : Text) (fields : Table Value) :
    leftOver (before ++ [.parameter name]) fields =
      (leftOver before fields).filter (·.1 ≠ name) := by
  unfold leftOver
  rw [List.filter_filter]
  apply List.filter_congr
  intro field _
  simp [and_comm]

/-- Filling goes on with what the segments before have left. -/
theorem fill_append (segments later : List Segment) (data : Entries) :
    fill (segments ++ later) data = (do
      let (url, rest) ← fill segments data
      let (behind, rest) ← fill later rest
      .ok (url ++ behind, rest)) := by
  induction segments generalizing data with
  | nil =>
      change fill later data = (fill later data).bind _
      cases fill later data <;> rfl
  | cons segment segments ih =>
      rw [List.cons_append, fill, fill, bind_assoc]
      cases segment.use data with
      | error failure => rfl
      | ok used =>
          change (fill (segments ++ later) used.2).bind _ =
            ((fill segments used.2).bind _).bind _
          rw [ih]
          cases fill segments used.2 with
          | error failure => rfl
          | ok filled =>
              change ((fill later filled.2).bind _).bind _ = (fill later filled.2).bind _
              cases fill later filled.2 with
              | error failure => rfl
              | ok behind => simp [Except.bind]

theorem fill_cons_of_use {segment : Segment} {data rest : Entries} {text : Text}
    (used : segment.use data = .ok (text, rest)) (later : List Segment) :
    fill (segment :: later) data = (fill later rest).map fun (url, rest) => (text ++ url, rest) := by
  rw [fill, used]
  change (fill later rest).bind _ = _
  cases fill later rest <;> rfl

section Fields

variable {fields : Table Value} (distinct : (fields.map (·.1)).Nodup)

include distinct

theorem use_parameter (before : List Segment) (name : Text) :
    (Segment.parameter name).use (ofFields (leftOver before fields)) =
      (((leftOver before fields).lookup name).getD .null).limited
        (Segment.filled fields before (.parameter name),
          ofFields (leftOver (before ++ [.parameter name]) fields)) := by
  have becomes : filling ((leftOver before fields).lookup name) =
      Segment.filled fields before (.parameter name) := by
    rw [lookup_leftOver]
    by_cases taken : Segment.parameter name ∈ before
    · simp [Segment.filled, taken, filling]
    · simp [Segment.filled, taken]
  rw [leftOver_parameter, ← erase_ofFields (nodup_leftOver before distinct), ← becomes,
    ← field?_ofFields]
  rfl

theorem use_behind (before : List Segment) (segment : Segment) :
    segment.use (ofFields (leftOver before fields)) =
        .ok (segment.filled fields before, ofFields (leftOver (before ++ [segment]) fields)) ∨
      segment.use (ofFields (leftOver before fields)) = .error (.shape (.digitLimit none)) ∧
        ∃ field ∈ fields, .parameter field.1 = segment ∧ field.2.isShowable = false := by
  cases segment with
  | literal text => exact Or.inl (by rw [leftOver_literal]; rfl)
  | parameter name =>
      rw [use_parameter distinct]
      cases found : (leftOver before fields).lookup name with
      | none => exact Or.inl rfl
      | some value =>
          cases showable : value.isShowable with
          | true => exact Or.inl (Value.limited_of_isShowable showable _)
          | false =>
              have left := (Table.lookup_eq_some_iff_mem (nodup_leftOver before distinct)).mp found
              exact Or.inr ⟨Value.limited_of_long showable _, _, mem_of_mem_leftOver left, rfl,
                showable⟩

theorem fill_behind (before later : List Segment)
    (short : ∀ field ∈ fields, .parameter field.1 ∈ later → field.2.isShowable = true) :
    fill later (ofFields (leftOver before fields)) =
      .ok ((later.mapIdx fun n segment => segment.filled fields (before ++ later.take n)).flatten,
        ofFields (leftOver (before ++ later) fields)) := by
  induction later generalizing before with
  | nil => simp [fill]
  | cons segment later ih =>
      have rest := ih (before ++ [segment]) fun field present inside =>
        short field present (List.mem_cons_of_mem segment inside)
      simp only [List.append_assoc, List.singleton_append] at rest
      rcases use_behind distinct before segment with used | ⟨_, field, present, same, long⟩
      · rw [fill_cons_of_use used, rest]
        simp [Except.map]
      · rw [short field present (same ▸ List.mem_cons_self)] at long
        cases long

/-- Filling a template with fields gives their path and the fields that are left over. -/
theorem fill_ofFields (segments : List Segment)
    (short : ∀ field ∈ fields, .parameter field.1 ∈ segments → field.2.isShowable = true) :
    fill segments (ofFields fields) =
      .ok (path segments fields, ofFields (leftOver segments fields)) := by
  have whole := fill_behind distinct [] segments short
  have all : leftOver [] fields = fields := by simp [leftOver]
  rwa [all] at whole

theorem fill_behind_of_long {before later : List Segment} {field : Text × Value}
    (present : field ∈ fields) (long : field.2.isShowable = false)
    (untaken : .parameter field.1 ∉ before) (named : .parameter field.1 ∈ later) :
    fill later (ofFields (leftOver before fields)) = .error (.shape (.digitLimit none)) := by
  induction later generalizing before with
  | nil => cases named
  | cons segment later ih =>
      by_cases here : segment = .parameter field.1
      · have found : (leftOver before fields).lookup field.1 = some field.2 := by
          rw [lookup_leftOver, if_neg untaken]
          exact (Table.lookup_eq_some_iff_mem distinct).mpr present
        rw [fill, here, use_parameter distinct, found, Option.getD_some,
          Value.limited_of_long long]
        rfl
      · have behind := (List.mem_cons.mp named).resolve_left (Ne.symm here)
        rcases use_behind distinct before segment with used | ⟨fails, _⟩
        · have free : .parameter field.1 ∉ before ++ [segment] := by
            simpa [untaken] using Ne.symm here
          rw [fill_cons_of_use used, ih free behind]
          rfl
        · rw [fill, fails]
          rfl

/-- A field that cannot be written keeps a template from being filled or is left over. -/
theorem fill_of_long (segments : List Segment)
    (long : ∃ field ∈ fields, field.2.isShowable = false) :
    fill segments (ofFields fields) = .error (.shape (.digitLimit none)) ∨
      fill segments (ofFields fields) =
          .ok (path segments fields, ofFields (leftOver segments fields)) ∧
        ∃ field ∈ leftOver segments fields, field.2.isShowable = false := by
  by_cases named : ∃ field ∈ fields, field.2.isShowable = false ∧ .parameter field.1 ∈ segments
  · obtain ⟨field, present, longer, inside⟩ := named
    have all : leftOver [] fields = fields := by simp [leftOver]
    have fails := fill_behind_of_long distinct present longer List.not_mem_nil inside
    rw [all] at fails
    exact Or.inl fails
  · have short : ∀ field ∈ fields, .parameter field.1 ∈ segments → field.2.isShowable = true := by
      intro field present inside
      by_contra longer
      exact named ⟨field, present, Bool.eq_false_iff.mpr longer, inside⟩
    obtain ⟨field, present, longer⟩ := long
    have untaken : .parameter field.1 ∉ segments := fun inside =>
      named ⟨field, present, longer, inside⟩
    have left : field ∈ leftOver segments fields :=
      List.mem_filter.mpr ⟨present, decide_eq_true untaken⟩
    exact Or.inr ⟨fill_ofFields distinct segments short, field, left, longer⟩

end Fields

end ControllerClient.Route
