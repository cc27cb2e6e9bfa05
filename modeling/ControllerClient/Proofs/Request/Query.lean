import ControllerClient.Proofs.Request

/-!
What an address says about the call behind it. Cut at its separators, the address of a
request without body gives back the path and the fields that are left over, wherever
these do not hold the separators themselves.
-/

namespace ControllerClient

namespace Text

variable {separator : Char}

def cutFirst? (separator : Char) : Text → Option (Text × Text)
  | [] => none
  | c :: rest =>
    if c = separator then some ([], rest)
    else (cutFirst? separator rest).map fun (before, behind) => (c :: before, behind)

theorem cutFirst?_append {before : Text} (free : separator ∉ before) (behind : Text) :
    cutFirst? separator (before ++ separator :: behind) = some (before, behind) := by
  induction before with
  | nil =>
      rw [List.nil_append, cutFirst?, if_pos rfl]
  | cons c before ih =>
      have differs : ¬ c = separator := fun same => free (same ▸ List.mem_cons_self)
      have later := ih fun inside => free (List.mem_cons_of_mem c inside)
      rw [List.cons_append, cutFirst?, if_neg differs, later]
      rfl

theorem cutFirst?_of_not_mem {text : Text} (free : separator ∉ text) :
    cutFirst? separator text = none := by
  induction text with
  | nil => rfl
  | cons c rest ih =>
      have differs : ¬ c = separator := fun same => free (same ▸ List.mem_cons_self)
      have later := ih fun inside => free (List.mem_cons_of_mem c inside)
      rw [cutFirst?, if_neg differs, later]
      rfl

end Text

namespace Request

open Entries (ofFields)
open Route (Segment path leftOver)

/-- The path of an address, and the keys and texts of its query. -/
def readAddress (url : Text) : Option (Text × Table Text) :=
  match Text.cutFirst? '?' url with
  | none => some (url, [])
  | some (before, query) =>
    ((Text.pieces '&' query).mapM (Text.cutFirst? '=')).map fun fields => (before, fields)

def textsOf (fields : Table Value) : Table Text :=
  fields.map fun field => (field.1, Route.textOf field.2)

/-- Fields whose keys and texts do not hold what a query is cut at. -/
def IsLegible (fields : Table Value) : Prop :=
  ∀ field ∈ fields, '=' ∉ field.1 ∧ '&' ∉ field.1 ∧ '&' ∉ Route.textOf field.2

section Queries

variable {fields : Table Value}

theorem mapM_cutFirst? (legible : IsLegible fields) :
    (fields.map fun field => field.1 ++ '=' :: Route.textOf field.2).mapM (Text.cutFirst? '=') =
      some (textsOf fields) := by
  induction fields with
  | nil => rfl
  | cons field fields ih =>
      obtain ⟨first, later⟩ := List.forall_mem_cons.mp legible
      rw [List.map_cons, List.mapM_cons, Text.cutFirst?_append first.1, ih later]
      rfl

theorem pieces_queryOf (legible : IsLegible fields) (some_ : fields ≠ []) :
    Text.pieces '&' (queryOf fields) =
      fields.map fun field => field.1 ++ '=' :: Route.textOf field.2 := by
  apply Text.pieces_joined (mt List.map_eq_nil_iff.mp some_)
  intro item present
  obtain ⟨field, inside, rfl⟩ := List.mem_map.mp present
  obtain ⟨_, inKey, inText⟩ := legible field inside
  have between : '&' ≠ '=' := by decide
  simp [inKey, inText, between]

/-- A query behind a path is read as the path and the fields. -/
theorem readAddress_query {before : Text} (free : '?' ∉ before) (legible : IsLegible fields) :
    readAddress (if fields = [] then before else before ++ '?' :: queryOf fields) =
      some (before, textsOf fields) := by
  by_cases none : fields = []
  · rw [if_pos none, none, readAddress, Text.cutFirst?_of_not_mem free]
    rfl
  · rw [if_neg none, readAddress, Text.cutFirst?_append free]
    dsimp only
    rw [pieces_queryOf legible none, mapM_cutFirst? legible]
    rfl

end Queries

/--
A call without body whose address can be cut: the path does not hold what a query begins with,
and the fields that are left over do not hold what it is cut at.
-/
structure IsLegibleCall (segments : List Segment) (method : Text) (fields : Table Value) :
    Prop where
  distinct : (fields.map (·.1)).Nodup
  bodiless : Text.upper method = "GET".toList ∨ Text.upper method = "HEAD".toList
  path : '?' ∉ path segments fields
  fields : IsLegible (leftOver segments fields)

namespace IsLegibleCall

variable {segments : List Segment} {method : Text} {fields : Table Value}
  (legible : IsLegibleCall segments method fields)

include legible

theorem mem_withoutBody : Text.upper method ∈ withoutBody := by
  simpa [withoutBody] using legible.bodiless

theorem url_eq {request : Request}
    (built : build segments (.str method) (.dict (ofFields fields)) = .ok request) :
    request.url = if leftOver segments fields = [] then Route.path segments fields
      else Route.path segments fields ++ '?' :: queryOf (leftOver segments fields) := by
  have short := (exists_build_query_iff legible.distinct legible.mem_withoutBody).mp ⟨_, built⟩
  rw [build_query legible.distinct short legible.mem_withoutBody] at built
  cases built
  rfl

theorem readAddress_url {request : Request}
    (built : build segments (.str method) (.dict (ofFields fields)) = .ok request) :
    readAddress request.url =
      some (Route.path segments fields, textsOf (leftOver segments fields)) := by
  rw [legible.url_eq built]
  exact readAddress_query legible.path legible.fields

end IsLegibleCall

/--
A call without body has an address exactly if its numbers are not too long to be written. This
address is cut back into the path and the texts of the fields that are left over, in the order of
the data, keys and texts that are empty included; it has a question mark exactly if any are left
over. So calls with different texts left over never have the same address.
-/
theorem readAddress_build {segments : List Segment} {method : Text} {fields : Table Value}
    (legible : IsLegibleCall segments method fields) :
    ((∃ request, build segments (.str method) (.dict (ofFields fields)) = .ok request) ↔
        ∀ field ∈ fields, field.2.isShowable = true) ∧
      ∀ request, build segments (.str method) (.dict (ofFields fields)) = .ok request →
        readAddress request.url =
            some (path segments fields, textsOf (leftOver segments fields)) ∧
          ('?' ∈ request.url ↔ leftOver segments fields ≠ []) ∧
          ∀ others otherMethod otherFields, IsLegibleCall others otherMethod otherFields →
            textsOf (leftOver others otherFields) ≠ textsOf (leftOver segments fields) →
              ∀ other, build others (.str otherMethod) (.dict (ofFields otherFields)) = .ok other →
                other.url ≠ request.url := by
  refine ⟨exists_build_query_iff legible.distinct legible.mem_withoutBody, ?_⟩
  intro request built
  have reads := legible.readAddress_url built
  refine ⟨reads, ?_, ?_⟩
  · rw [legible.url_eq built]
    by_cases none : leftOver segments fields = []
    · rw [if_pos none]
      exact iff_of_false legible.path (not_not_intro none)
    · rw [if_neg none]
      exact iff_of_true (List.mem_append_right _ List.mem_cons_self) none
  · intro others otherMethod otherFields otherLegible differ other otherBuilt same
    have otherReads := otherLegible.readAddress_url otherBuilt
    rw [same, reads] at otherReads
    exact differ (congrArg Prod.snd (Option.some.inj otherReads)).symm

/-- An empty key with an empty text, and separators where they are harmless. -/
theorem readAddress_build_empty :
    ∃ request, build [.literal "/a".toList, .parameter "id".toList] (.str "Head".toList)
        (.dict (ofFields [([], .str []), ("id".toList, .str "/1".toList),
          ("q?".toList, .str "x=y?".toList), ("r".toList, .null)])) = .ok request ∧
      readAddress request.url = some ("/a/1".toList,
        [([], []), ("q?".toList, "x=y?".toList), ("r".toList, "null".toList)]) := by
  have legible : IsLegibleCall [.literal "/a".toList, .parameter "id".toList] "Head".toList
      [([], .str []), ("id".toList, .str "/1".toList), ("q?".toList, .str "x=y?".toList),
        ("r".toList, .null)] := by
    have left : leftOver [.literal "/a".toList, .parameter "id".toList]
        [([], .str []), ("id".toList, .str "/1".toList), ("q?".toList, .str "x=y?".toList),
          ("r".toList, .null)] =
        [([], .str []), ("q?".toList, .str "x=y?".toList), ("r".toList, .null)] := by
      cbv
    refine ⟨by decide, by decide, by decide, ?_⟩
    rw [left]
    unfold IsLegible
    simp only [List.forall_mem_cons]
    exact ⟨by decide, by decide, by decide, List.forall_mem_nil _⟩
  obtain ⟨writable, reads⟩ := readAddress_build legible
  obtain ⟨request, built⟩ := writable.mpr (by decide)
  exact ⟨request, built, (reads request built).1⟩

end Request

end ControllerClient
