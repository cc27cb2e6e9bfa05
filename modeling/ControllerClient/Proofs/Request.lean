import ControllerClient.Proofs.Json.Reading
import ControllerClient.Proofs.Route.Filling
import ControllerClient.Request

/-!
The request of one call sends each field of its data once: in the path, if a
parameter has its name, and otherwise in the query or in the body.
-/

namespace ControllerClient.Request

open Entries (ofFields ofFields_cons)
open Route (Segment path leftOver)

def queryOf (fields : Table Value) : Text :=
  Text.joined ['&'] (fields.map fun field => field.1 ++ '=' :: Route.textOf field.2)

theorem queryItem_field {field : Text × Value} (short : field.2.isShowable = true) :
    queryItem (.str field.1, field.2) = .ok (field.1 ++ '=' :: Route.textOf field.2) := by
  have key : (Value.str field.1).isShowable = true := rfl
  rw [queryItem, Value.limited_of_isShowable key, Value.limited_of_isShowable short]
  rfl

theorem query_ofFields {fields : Table Value}
    (short : ∀ field ∈ fields, field.2.isShowable = true) :
    query (ofFields fields) = .ok (queryOf fields) := by
  have items : (ofFields fields).mapM queryItem =
      .ok (fields.map fun field => field.1 ++ '=' :: Route.textOf field.2) := by
    induction fields with
    | nil => rfl
    | cons field fields ih =>
        obtain ⟨first, later⟩ := List.forall_mem_cons.mp short
        rw [ofFields_cons, List.mapM_cons, queryItem_field first, ih later]
        rfl
  rw [query, items]
  rfl

theorem query_of_long {fields : Table Value} (long : ∃ field ∈ fields, field.2.isShowable = false) :
    query (ofFields fields) = .error (.shape (.digitLimit none)) := by
  have items : (ofFields fields).mapM queryItem = .error (.shape (.digitLimit none)) := by
    induction fields with
    | nil =>
        obtain ⟨_, present, _⟩ := long
        cases present
    | cons field fields ih =>
        rw [ofFields_cons, List.mapM_cons]
        cases here : field.2.isShowable with
        | false =>
            rw [queryItem, Value.limited_of_long here]
            rfl
        | true =>
            obtain ⟨other, present, longer⟩ := long
            rcases List.mem_cons.mp present with rfl | behind
            · rw [here] at longer
              cases longer
            · rw [queryItem_field here, ih ⟨other, behind, longer⟩]
              rfl
  rw [query, items]
  rfl

theorem queryOf_eq_nil_iff {fields : Table Value} : queryOf fields = [] ↔ fields = [] := by
  cases fields with
  | nil => exact ⟨fun _ => rfl, fun _ => rfl⟩
  | cons field fields =>
      obtain ⟨more, same⟩ := Text.exists_joined_cons ['&']
        (field.1 ++ '=' :: Route.textOf field.2)
        (fields.map fun field => field.1 ++ '=' :: Route.textOf field.2)
      unfold queryOf
      rw [List.map_cons, same]
      simp

theorem queries_str (method : Text) :
    queries (.str method) = .ok (decide (Text.upper method ∈ withoutBody)) := by
  simp [queries]

/-- With its template filled, a request has what is left over in its query or in its body. -/
theorem build_of_fill {segments : List Segment} {entries rest : Entries} {url : Text}
    (filled : Route.fill segments entries = .ok (url, rest)) (method : Text) :
    build segments (.str method) (.dict entries) =
      if Text.upper method ∈ withoutBody then
        (query rest).map fun query => ⟨if query.isEmpty then url else url ++ '?' :: query, .null⟩
      else (Json.write (.dict rest)).map fun text => ⟨url, .str text⟩ := by
  by_cases bodiless : Text.upper method ∈ withoutBody
  · rw [if_pos bodiless]
    cases made : query rest <;>
      simp [build, filled, queries_str, bodiless, made, bind, Except.bind, Except.map]
  · rw [if_neg bodiless]
    cases made : Json.write (.dict rest) <;>
      simp [build, filled, queries_str, bodiless, made, bind, Except.bind, Except.map]

section Fields

variable {segments : List Segment} {method : Text} {fields : Table Value}
  (distinct : (fields.map (·.1)).Nodup)

include distinct

theorem build_query (short : ∀ field ∈ fields, field.2.isShowable = true)
    (bodiless : Text.upper method ∈ withoutBody) :
    build segments (.str method) (.dict (ofFields fields)) =
      .ok ⟨if leftOver segments fields = [] then path segments fields
        else path segments fields ++ '?' :: queryOf (leftOver segments fields), .null⟩ := by
  have empty : (queryOf (leftOver segments fields)).isEmpty =
      decide (leftOver segments fields = []) := by
    rw [Bool.eq_iff_iff, decide_eq_true_iff, List.isEmpty_iff]
    exact queryOf_eq_nil_iff
  have filled := Route.fill_ofFields distinct segments fun field present _ => short field present
  rw [build_of_fill filled, if_pos bodiless, query_ofFields (Route.forall_mem_leftOver short)]
  simp [Except.map, empty]

theorem build_body (short : ∀ field ∈ fields, field.2.isShowable = true)
    (bodied : Text.upper method ∉ withoutBody)
    {text : Text} (written : Json.write (.dict (ofFields (leftOver segments fields))) = .ok text) :
    build segments (.str method) (.dict (ofFields fields)) =
      .ok ⟨path segments fields, .str text⟩ := by
  have filled := Route.fill_ofFields distinct segments fun field present _ => short field present
  rw [build_of_fill filled, if_neg bodied, written]
  rfl

/-- Plain data whose numbers are not too long make up a request with every method. -/
theorem exists_build (segments : List Segment) (method : Text)
    (plain : ∀ field ∈ fields, field.2.IsPlain)
    (short : ∀ field ∈ fields, field.2.isShowable = true) :
    ∃ request, build segments (.str method) (.dict (ofFields fields)) = .ok request := by
  by_cases bodiless : Text.upper method ∈ withoutBody
  · exact ⟨_, build_query distinct short bodiless⟩
  · obtain ⟨text, written⟩ := Json.exists_write (.dict (Route.forall_mem_leftOver plain))
      (Value.isShowable_fields.mpr (Route.forall_mem_leftOver short))
    exact ⟨_, build_body distinct short bodiless written⟩

theorem build_query_of_long (bodiless : Text.upper method ∈ withoutBody)
    (long : ∃ field ∈ fields, field.2.isShowable = false) :
    build segments (.str method) (.dict (ofFields fields)) =
      .error (.shape (.digitLimit none)) := by
  rcases Route.fill_of_long distinct segments long with fails | ⟨filled, left⟩
  · rw [build, fails]
    rfl
  · rw [build_of_fill filled, if_pos bodiless, query_of_long left]
    rfl

theorem exists_build_query_iff (bodiless : Text.upper method ∈ withoutBody) :
    (∃ request, build segments (.str method) (.dict (ofFields fields)) = .ok request) ↔
      ∀ field ∈ fields, field.2.isShowable = true := by
  constructor
  · rintro ⟨request, built⟩ field present
    by_contra longer
    rw [build_query_of_long distinct bodiless ⟨field, present, Bool.eq_false_iff.mpr longer⟩]
      at built
    cases built
  · exact fun short => ⟨_, build_query distinct short bodiless⟩

/-- A number that is too long keeps simple data from making up a request. -/
theorem build_of_long (segments : List Segment) (method : Text)
    (simple : ∀ field ∈ fields, field.2.IsSimple)
    (long : ∃ field ∈ fields, field.2.isShowable = false) :
    build segments (.str method) (.dict (ofFields fields)) =
      .error (.shape (.digitLimit none)) := by
  by_cases bodiless : Text.upper method ∈ withoutBody
  · exact build_query_of_long distinct bodiless long
  · rcases Route.fill_of_long distinct segments long with fails | ⟨filled, left⟩
    · rw [build, fails]
      rfl
    · rw [build_of_fill filled, if_neg bodiless,
        Json.write_dict_of_long (Route.forall_mem_leftOver simple) left]
      rfl

end Fields

/--
A request of a method without body has the fields that are left over in its query; that of any
other method has them in its body, whose characters are printed ones of ASCII with no blank
outside of the strings, and which is read as just these fields again as far as the reader's limits
go. What the fields of the parameters become is all that is put into the path. The private
characters `10F000` to `10F7FF` stand for halves of surrogate pairs, so that no text holds one of
them as itself.
-/
theorem build_leftOver (segments : List Segment) (method : Text) {fields : Table Value}
    (distinct : (fields.map (·.1)).Nodup) (plain : ∀ field ∈ fields, field.2.IsPlain)
    (short : ∀ field ∈ fields, field.2.isShowable = true) :
    ∃ request, build segments (.str method) (.dict (ofFields fields)) = .ok request ∧
      (Text.upper method = "GET".toList ∨ Text.upper method = "HEAD".toList →
        request.body = .null ∧
          request.url = if leftOver segments fields = [] then path segments fields
            else path segments fields ++ '?' :: queryOf (leftOver segments fields)) ∧
      (¬ (Text.upper method = "GET".toList ∨ Text.upper method = "HEAD".toList) →
        request.url = path segments fields ∧
          ∃ text, request.body = .str text ∧
            (∀ c ∈ text, Json.IsPrinted c) ∧
            (∀ c ∈ Json.outside false text, Json.isBlank c = false) ∧
            (Json.IsReadable Json.depthLimit (.dict (ofFields (leftOver segments fields))) →
              Json.read text = .ok (.dict (ofFields (leftOver segments fields))))) := by
  have methods : Text.upper method ∈ withoutBody ↔
      Text.upper method = "GET".toList ∨ Text.upper method = "HEAD".toList := by
    simp [withoutBody]
  rw [← methods]
  by_cases bodiless : Text.upper method ∈ withoutBody
  · exact ⟨_, build_query distinct short bodiless, fun _ => ⟨rfl, rfl⟩,
      fun bodied => absurd bodiless bodied⟩
  · have rest : (Value.dict (ofFields (leftOver segments fields))).IsPlain :=
      .dict (Route.forall_mem_leftOver plain)
    obtain ⟨text, written⟩ := Json.exists_write rest
      (Value.isShowable_fields.mpr (Route.forall_mem_leftOver short))
    have compact := Json.isCompact_write rest written
    refine ⟨_, build_body distinct short bodiless written, fun queried => absurd queried bodiless, ?_⟩
    intro _
    exact ⟨rfl, text, rfl, compact.printed, compact.isBlank_outside, fun readable =>
      Json.read_write readable written⟩

/-- A parameter that comes twice, one without a field, and a letter beyond ASCII in the body. -/
theorem build_leftOver_repeated :
    ∃ request text,
      build [.literal "/users/".toList, .parameter "id".toList, .literal "/".toList,
          .parameter "id".toList, .parameter "part".toList] (.str "post".toList)
        (.dict (ofFields [("name".toList, .str "é".toList), ("id".toList, .bool true),
          ("tags".toList, .list [.null, .int 7])])) = .ok request ∧
      request.url = "/users/true/".toList ∧ request.body = .str text ∧
      Json.read text = .ok (.dict (ofFields [("name".toList, .str "é".toList),
        ("tags".toList, .list [.null, .int 7])])) := by
  have plain : ∀ field ∈ [("name".toList, Value.str "é".toList), ("id".toList, .bool true),
      ("tags".toList, .list [.null, .int 7])], field.2.IsPlain := by
    have tags : ∀ tag ∈ [Value.null, .int 7], tag.IsPlain := by
      simpa using And.intro (Value.IsPlain.simple .null) (.simple (.int 7))
    simpa using And.intro (Value.IsPlain.simple (.text _)) ⟨.simple (.bool true), .list tags⟩
  have few : Text.HasFewDigits 7 := Text.hasFewDigits_of_natAbs_le (by decide)
  have short : ∀ field ∈ [("name".toList, Value.str "é".toList), ("id".toList, .bool true),
      ("tags".toList, .list [.null, .int 7])], field.2.isShowable = true := by
    simp [Value.isShowable, Value.areShowable, few]
  have readable : Json.IsReadable (978 + 1 + 1) (.dict (ofFields [("name".toList, .str "é".toList),
      ("tags".toList, .list [.null, .int 7])])) := by
    have tags : ∀ tag ∈ [Value.null, .int 7], Json.IsReadable 978 tag := by
      simpa using And.intro Json.IsReadable.null (Json.IsReadable.int few)
    apply Json.IsReadable.dict (by decide)
    · have whole : Json.IsWhole "name".toList ∧ Json.IsWhole "tags".toList := by decide
      simpa using whole
    · have accented : Json.IsWhole "é".toList :=
        Json.isWhole_of_forall (by simp [Text.isSurrogate, Text.firstStandIn])
      simpa using And.intro (Json.IsReadable.text accented) (Json.IsReadable.list tags)
  obtain ⟨request, built, -, bodied⟩ := build_leftOver
    [.literal "/users/".toList, .parameter "id".toList, .literal "/".toList,
      .parameter "id".toList, .parameter "part".toList] "post".toList (by decide) plain short
  obtain ⟨url, text, body, -, -, back⟩ := bodied (by decide)
  exact ⟨request, text, built, url.trans (by decide), body, back readable⟩

end ControllerClient.Request
