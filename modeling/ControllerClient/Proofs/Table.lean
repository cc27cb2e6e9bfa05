import Mathlib
import ControllerClient.Table

/-!
Tables after an insertion: what is found under which name, and which names
there are.
-/

namespace ControllerClient.Table

variable {α : Type}

/-- An insertion changes what is found under one name only. -/
theorem lookup_insert (table : Table α) (name other : Text) (meaning : α) :
    (table.insert name meaning).lookup other =
      if other = name then some meaning else table.lookup other := by
  induction table with
  | nil =>
      rw [insert, List.lookup_cons]
      by_cases same : other = name
      · rw [if_pos same, beq_iff_eq.mpr same]
      · rw [if_neg same, beq_false_of_ne same]
  | cons entry table ih =>
      rw [insert]
      by_cases here : entry.1 = name
      · rw [if_pos here, List.lookup_cons, List.lookup_cons, here]
        by_cases same : other = name
        · rw [if_pos same, beq_iff_eq.mpr same]
        · rw [if_neg same, beq_false_of_ne same]
      · rw [if_neg here, List.lookup_cons, List.lookup_cons, ih]
        by_cases first : other = entry.1
        · have differ : ¬ other = name := fun same => here (first.symm.trans same)
          simp only [beq_iff_eq.mpr first, if_neg differ]
        · rw [beq_false_of_ne first]

theorem lookup_insert_self (table : Table α) (name : Text) (meaning : α) :
    (table.insert name meaning).lookup name = some meaning := by
  rw [lookup_insert, if_pos rfl]

theorem lookup_insert_of_ne (table : Table α) {name other : Text} (meaning : α)
    (differ : other ≠ name) : (table.insert name meaning).lookup other = table.lookup other := by
  rw [lookup_insert, if_neg differ]

theorem lookup_eq_some_iff_mem {table : Table α} (distinct : (table.map (·.1)).Nodup) {name : Text}
    {meaning : α} : table.lookup name = some meaning ↔ (name, meaning) ∈ table := by
  induction table with
  | nil => simp
  | cons entry table ih =>
      obtain ⟨new, distinct⟩ := List.nodup_cons.mp distinct
      rw [List.lookup_cons, List.mem_cons]
      by_cases same : name = entry.1
      · subst same
        have absent : (entry.1, meaning) ∉ table := fun present =>
          new (List.mem_map.mpr ⟨_, present, rfl⟩)
        simp [absent, Prod.ext_iff, eq_comm]
      · simp [beq_false_of_ne same, ih distinct, Prod.ext_iff, same]

theorem lookup_filter (kept : Text → Bool) (table : Table α) (name : Text) :
    (table.filter fun entry => kept entry.1).lookup name =
      if kept name then table.lookup name else none := by
  induction table with
  | nil => simp
  | cons entry table ih =>
      obtain ⟨key, meaning⟩ := entry
      by_cases same : name = key
      · subst same
        by_cases stays : kept name = true
        · simp [stays]
        · simp [stays, ih]
      · by_cases stays : kept key = true
        · simp [List.lookup_cons, stays, beq_false_of_ne same, ih]
        · simp [List.lookup_cons, stays, beq_false_of_ne same, ih]

theorem mem_insert {table : Table α} {name : Text} {meaning : α} {entry : Text × α}
    (present : entry ∈ table.insert name meaning) : entry = (name, meaning) ∨ entry ∈ table := by
  induction table with
  | nil => exact Or.inl (List.mem_singleton.mp present)
  | cons first table ih =>
      rw [insert] at present
      split at present
      · rcases List.mem_cons.mp present with rfl | later
        · exact Or.inl rfl
        · exact Or.inr (List.mem_cons_of_mem first later)
      · rcases List.mem_cons.mp present with rfl | later
        · exact Or.inr List.mem_cons_self
        · rcases ih later with new | old
          · exact Or.inl new
          · exact Or.inr (List.mem_cons_of_mem first old)

theorem names_insert (table : Table α) (name : Text) (meaning : α) :
    (table.insert name meaning).map (·.1) =
      if name ∈ table.map (·.1) then table.map (·.1) else table.map (·.1) ++ [name] := by
  induction table with
  | nil => rfl
  | cons first table ih =>
      rw [insert]
      by_cases here : first.1 = name
      · have known : name ∈ (first :: table).map (·.1) := by
          rw [List.map_cons, here]
          exact List.mem_cons_self
        rw [if_pos here, if_pos known, List.map_cons, List.map_cons, here]
      · rw [if_neg here, List.map_cons, List.map_cons, ih]
        by_cases later : name ∈ table.map (·.1)
        · rw [if_pos later, if_pos (List.mem_cons_of_mem first.1 later)]
        · have new : ¬ name ∈ first.1 :: table.map (·.1) := by
            intro known
            rcases List.mem_cons.mp known with same | known
            · exact here same.symm
            · exact later known
          rw [if_neg later, if_neg new, List.cons_append]

theorem nodup_insert {table : Table α} (distinct : (table.map (·.1)).Nodup) (name : Text)
    (meaning : α) : ((table.insert name meaning).map (·.1)).Nodup := by
  rw [names_insert]
  split
  · exact distinct
  · next new =>
      refine List.nodup_append.mpr ⟨distinct, List.pairwise_singleton _ name, ?_⟩
      intro known present other last
      rw [List.mem_singleton.mp last]
      rintro rfl
      exact new present

theorem nodup_foldl_insert (entries : List (Text × α)) {table : Table α}
    (distinct : (table.map (·.1)).Nodup) :
    ((entries.foldl (fun table entry => table.insert entry.1 entry.2) table).map (·.1)).Nodup := by
  induction entries generalizing table with
  | nil => exact distinct
  | cons entry entries ih => exact ih (nodup_insert distinct entry.1 entry.2)

theorem nodup_ofList (entries : List (Text × α)) : ((ofList entries).map (·.1)).Nodup :=
  nodup_foldl_insert entries List.nodup_nil

theorem mem_foldl_insert {entries : List (Text × α)} {table : Table α} {entry : Text × α}
    (present : entry ∈ entries.foldl (fun table entry => table.insert entry.1 entry.2) table) :
    entry ∈ entries ∨ entry ∈ table := by
  induction entries generalizing table with
  | nil => exact Or.inr present
  | cons first entries ih =>
      rcases ih present with later | inserted
      · exact Or.inl (List.mem_cons_of_mem first later)
      · rcases mem_insert inserted with same | old
        · rw [same]
          exact Or.inl List.mem_cons_self
        · exact Or.inr old

theorem mem_of_mem_ofList {entries : List (Text × α)} {entry : Text × α}
    (present : entry ∈ ofList entries) : entry ∈ entries := by
  rcases mem_foldl_insert present with inEntries | inEmpty
  · exact inEntries
  · cases inEmpty

theorem lookup_foldl_insert_of_ne {entries : List (Text × α)} {name : Text}
    (others : ∀ entry ∈ entries, entry.1 ≠ name) (table : Table α) :
    (entries.foldl (fun table entry => table.insert entry.1 entry.2) table).lookup name =
      table.lookup name := by
  induction entries generalizing table with
  | nil => rfl
  | cons entry entries ih =>
      obtain ⟨differs, later⟩ := List.forall_mem_cons.mp others
      rw [List.foldl_cons, ih later, lookup_insert_of_ne table entry.2 differs.symm]

theorem lookup_ofList_append (before : List (Text × α)) {name : Text} {meaning : α}
    {after : List (Text × α)} (last : ∀ entry ∈ after, entry.1 ≠ name) :
    (ofList (before ++ (name, meaning) :: after)).lookup name = some meaning := by
  unfold ofList
  rw [List.foldl_append, List.foldl_cons, lookup_foldl_insert_of_ne last, lookup_insert_self]

end ControllerClient.Table
