import ControllerClient.Proofs.Table
import ControllerClient.Value.Written

/-!
Dictionaries whose keys are texts: what is found under a key, and what stays when
a key is taken out. Also the values that such dictionaries, lists, numbers, texts
and truth values make up.
-/

namespace ControllerClient

theorem Value.sameKey_str_iff {key : Value} {text : Text} :
    key.sameKey (.str text) = true ↔ key = .str text := by
  cases key with
  | str other => simp [Value.sameKey]
  | _ => simp [Value.sameKey]

theorem Value.str_sameKey_iff {key : Value} {text : Text} :
    (Value.str text).sameKey key = true ↔ key = .str text := by
  cases key with
  | str other =>
      rw [Value.sameKey, beq_iff_eq, Value.str.injEq]
      exact eq_comm
  | _ => simp [Value.sameKey]

namespace Entries

theorem field?_insert (entries : Entries) (key value : Value) (name : Text) :
    (entries.insert key value).field? name =
      if key.sameKey (.str name) then some value else entries.field? name := by
  induction entries with
  | nil => by_cases same : key.sameKey (.str name) = true <;> simp [insert, field?, get?, same]
  | cons entry entries ih =>
      unfold field? get? at ih ⊢
      rw [insert]
      by_cases here : entry.1.sameKey key = true
      · rw [if_pos here, List.find?_cons, List.find?_cons]
        by_cases same : key.sameKey (.str name) = true
        · rw [Value.sameKey_str_iff.mp same] at here ⊢
          simp [here, Value.sameKey]
        · have differs : entry.1.sameKey (.str name) = false := by
            rw [Bool.eq_false_iff]
            intro equal
            rw [Value.sameKey_str_iff.mp equal, Value.str_sameKey_iff] at here
            exact same (Value.sameKey_str_iff.mpr here)
          simp [differs, same]
      · rw [if_neg here, List.find?_cons, List.find?_cons]
        by_cases first : entry.1.sameKey (.str name) = true
        · have other : ¬ key.sameKey (.str name) = true := by
            intro same
            rw [Value.sameKey_str_iff.mp same] at here
            exact here first
          simp [first, other]
        · simpa [first] using ih

theorem field?_foldl_insert {name : Text} {value : Value} {pairs : List (Value × Value)}
    (same : ∀ other, (.str name, other) ∈ pairs → other = value) {entries : Entries}
    (some_ : entries.field? name = some value ∨ (.str name, value) ∈ pairs) :
    (pairs.foldl (fun entries pair => entries.insert pair.1 pair.2) entries).field? name =
      some value := by
  induction pairs generalizing entries with
  | nil => simpa using some_
  | cons pair pairs ih =>
      rw [List.foldl_cons]
      apply ih fun other present => same other (List.mem_cons_of_mem pair present)
      rw [field?_insert]
      by_cases here : pair.1.sameKey (.str name) = true
      · have holds : pair.2 = value :=
          same pair.2 (Value.sameKey_str_iff.mp here ▸ List.mem_cons_self)
        exact Or.inl (by rw [if_pos here, holds])
      · rcases some_ with before | present
        · exact Or.inl (by rw [if_neg here, before])
        · rcases List.mem_cons.mp present with rfl | later
          · exact absurd (Value.sameKey_str_iff.mpr rfl) here
          · exact Or.inr later

/-- The entries of a dictionary whose keys are texts. -/
def ofFields (fields : Table Value) : Entries := fields.map fun field => (.str field.1, field.2)

@[simp] theorem ofFields_nil : ofFields [] = [] := rfl

@[simp] theorem ofFields_cons (field : Text × Value) (fields : Table Value) :
    ofFields (field :: fields) = (.str field.1, field.2) :: ofFields fields := rfl

theorem field?_ofFields (fields : Table Value) (name : Text) :
    (ofFields fields).field? name = fields.lookup name := by
  induction fields with
  | nil => rfl
  | cons field fields ih =>
      unfold field? get? at ih ⊢
      rw [ofFields_cons, List.find?_cons, List.lookup_cons]
      by_cases same : field.1 = name
      · simp [Value.sameKey, same]
      · have differs : name ≠ field.1 := fun equal => same equal.symm
        simp [Value.sameKey, beq_false_of_ne same, beq_false_of_ne differs, ih]

theorem erase_ofFields {fields : Table Value} (distinct : (fields.map (·.1)).Nodup) (name : Text) :
    (ofFields fields).erase (.str name) = ofFields (fields.filter (·.1 ≠ name)) := by
  induction fields with
  | nil => rfl
  | cons field fields ih =>
      obtain ⟨new, distinct⟩ := List.nodup_cons.mp distinct
      by_cases same : field.1 = name
      · have others : fields.filter (·.1 ≠ name) = fields := by
          rw [List.filter_eq_self]
          intro other present
          have differs : other.1 ≠ name := fun equal =>
            new (List.mem_map.mpr ⟨other, present, equal.trans same.symm⟩)
          exact decide_eq_true differs
        rw [List.filter_cons_of_neg (by simpa using same), others, ofFields_cons, erase,
          if_pos (Value.sameKey_str_iff.mpr (congrArg Value.str same))]
      · have differs : ¬ (Value.str field.1).sameKey (.str name) = true := by
          rw [Value.sameKey_str_iff, Value.str.injEq]
          exact same
        rw [List.filter_cons_of_pos (by simpa using same), ofFields_cons, ofFields_cons, erase,
          if_neg differs, ih distinct]

end Entries

/-- Nothing, truth values, whole numbers and texts. -/
inductive Value.IsSimple : Value → Prop where
  | null : IsSimple .null
  | bool (b : Bool) : IsSimple (.bool b)
  | int (n : Int) : IsSimple (.int n)
  | text (t : Text) : IsSimple (.str t)

/-- What lists and dictionaries with texts as keys make of simple values. -/
inductive Value.IsPlain : Value → Prop where
  | simple {value : Value} (simple : value.IsSimple) : IsPlain value
  | list {items : List Value} (each : ∀ item ∈ items, item.IsPlain) : IsPlain (.list items)
  | dict {fields : Table Value} (each : ∀ field ∈ fields, field.2.IsPlain) :
      IsPlain (.dict (Entries.ofFields fields))

theorem Value.isShowable_list {items : List Value} :
    (Value.list items).isShowable = true ↔ ∀ item ∈ items, item.isShowable = true := by
  change areShowable items = true ↔ _
  induction items with
  | nil => simp [areShowable]
  | cons item items ih => rw [areShowable, Bool.and_eq_true, ih, List.forall_mem_cons]

theorem Value.isShowable_fields {fields : Table Value} :
    (Value.dict (Entries.ofFields fields)).isShowable = true ↔
      ∀ field ∈ fields, field.2.isShowable = true := by
  change areShowableEntries (Entries.ofFields fields) = true ↔ _
  induction fields with
  | nil => simp [areShowableEntries]
  | cons field fields ih =>
      rw [Entries.ofFields_cons, areShowableEntries, Bool.and_eq_true, Bool.and_eq_true, ih,
        List.forall_mem_cons]
      simp [Value.isShowable]

end ControllerClient
