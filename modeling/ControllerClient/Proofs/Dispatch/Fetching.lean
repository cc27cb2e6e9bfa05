import ControllerClient.Proofs.Dispatch.Protocol
import ControllerClient.Proofs.Failure
import ControllerClient.Proofs.Request

/-!
Which calls come to a fetch. An endpoint with a plain template never refuses its
path by itself: such a failure is one that a function of the caller raised. A call
with simple data and without options fetches once, under hooks that let it.
-/

namespace ControllerClient

open Entries (ofFields)

/-! ### Failures that are no refusal of a path -/

/-- A result that does not refuse the path of an endpoint. -/
def AcceptsRoute {α : Type} (result : Except Failure α) : Prop :=
  ∀ url, result ≠ .error (.unsupportedRoute url)

namespace AcceptsRoute

variable {α β : Type}

theorem ok (value : α) : AcceptsRoute (.ok value) := Avoids.ok value

theorem bind {result : Except Failure α} {next : α → Except Failure β}
    (first : AcceptsRoute result) (later : ∀ value, AcceptsRoute (next value)) :
    AcceptsRoute (result >>= next) :=
  Avoids.bind first later

theorem map {result : Except Failure α} (accepts : AcceptsRoute result) (f : α → β) :
    AcceptsRoute (result.map f) :=
  Avoids.map accepts f

theorem error {failure : Failure} (accepts : AcceptsRoute (.error failure : Except Failure α)) :
    AcceptsRoute (.error failure : Except Failure β) :=
  Avoids.error accepts

theorem limited (value : Value) (made : α) : AcceptsRoute (value.limited made) := by
  intro url
  unfold Value.limited
  split <;> simp

end AcceptsRoute

/-! ### Data that make up a request -/

theorem Json.acceptsRoute_key (key : Value) : AcceptsRoute (Json.key key) := by
  cases key with
  | int n => exact .limited _ _
  | _ =>
      intro url
      simp [Json.key]

/-- A text that is not written for a value is missing for one of its parts. -/
theorem Json.acceptsRoute_write (value : Value) : AcceptsRoute (Json.write value) := by
  induction value using Json.write.induct
    (motive_2 := fun entries => AcceptsRoute (Json.writeEntries entries))
    (motive_3 := fun items => AcceptsRoute (Json.writeItems items)) with
  | case1 | case2 | case4 | case5 =>
      rw [Json.write]
      exact .ok _
  | case3 n =>
      rw [Json.write]
      exact .limited _ _
  | case6 items ih | case7 items ih =>
      rw [Json.write]
      exact ih.map _
  | case8 entries ih =>
      rw [Json.write]
      exact ih.map _
  | case9 other =>
      intro url
      cases other <;> simp [Json.write] at *
  | case10 =>
      rw [Json.writeItems]
      exact .ok []
  | case11 item items failure fails accepts =>
      rw [fails] at accepts
      rw [Json.writeItems, fails]
      exact accepts.error
  | case12 item items text written _ later =>
      rw [Json.writeItems, written]
      exact later.map _
  | case13 =>
      rw [Json.writeEntries]
      exact .ok []
  | case14 name value entries failure fails =>
      have accepts := Json.acceptsRoute_key name
      rw [fails] at accepts
      rw [Json.writeEntries, fails]
      exact accepts.error
  | case15 name value entries failure fails named accepts =>
      rw [fails] at accepts
      cases keyed : Json.key name with
      | error other => exact absurd keyed (named other)
      | ok text =>
          rw [Json.writeEntries, keyed, fails]
          exact accepts.error
  | case16 name value entries keyText text written keyed _ later =>
      rw [Json.writeEntries, keyed, written]
      exact later.map _

/-! ### Options that make up a request -/

theorem Options.acceptsRoute_method (options : Entries) :
    AcceptsRoute (Options.method options) := by
  intro url
  unfold Options.method
  split <;> simp

theorem Options.acceptsRoute_entryOf (position : Nat) (item : Value) :
    AcceptsRoute (Options.entryOf position item) := by
  intro url
  unfold Options.entryOf
  split
  · simp
  · split <;> simp
  · simp

theorem Options.acceptsRoute_entriesFrom (position : Nat) (items : List Value) :
    AcceptsRoute (Options.entriesFrom position items) := by
  induction items generalizing position with
  | nil => exact .ok []
  | cons item items ih =>
      apply (Options.acceptsRoute_entryOf position item).bind
      intro entry
      apply (ih (position + 1)).bind
      intro entries
      exact .ok _

theorem Options.acceptsRoute_ofValue (value : Value) : AcceptsRoute (Options.ofValue value) := by
  unfold Options.ofValue
  split
  · unfold Options.dictionaryOf
    split
    · exact .ok _
    · split
      · intro url
        simp
      · apply (Options.acceptsRoute_entriesFrom 0 _).bind
        intro entries
        exact .ok _
  · exact .ok []

theorem Route.acceptsRoute_fill (segments : List Route.Segment) (data : Entries) :
    AcceptsRoute (Route.fill segments data) := by
  induction segments generalizing data with
  | nil => exact .ok _
  | cons segment later ih =>
      have used : AcceptsRoute (segment.use data) := by
        cases segment with
        | literal text => exact .ok _
        | parameter name => exact .limited _ _
      exact used.bind fun _ => (ih _).bind fun _ => .ok _

theorem Request.acceptsRoute_query (entries : Entries) : AcceptsRoute (Request.query entries) := by
  have items : AcceptsRoute (entries.mapM Request.queryItem) := by
    induction entries with
    | nil => exact .ok []
    | cons entry entries ih =>
        have item : AcceptsRoute (Request.queryItem entry) :=
          (AcceptsRoute.limited _ _).bind fun _ => (AcceptsRoute.limited _ _).bind fun _ => .ok _
        rw [List.mapM_cons]
        exact item.bind fun _ => ih.bind fun _ => .ok _
  exact items.bind fun _ => .ok _

theorem Request.acceptsRoute_build (segments : List Route.Segment) (method data : Value) :
    AcceptsRoute (Request.build segments method data) := by
  have written (url : Text) (value : Value) :
      AcceptsRoute (do .ok ⟨url, .str (← Json.write value)⟩ : Except Failure Request) :=
    (Json.acceptsRoute_write value).bind fun _ => .ok _
  unfold Request.build
  split
  · apply (Route.acceptsRoute_fill segments _).bind
    intro filled
    apply AcceptsRoute.bind
    · intro url
      cases method <;> simp [Request.queries]
    · intro queried
      split
      · exact (Request.acceptsRoute_query _).bind fun _ => .ok _
      · exact written _ _
  · exact (Route.acceptsRoute_fill segments []).bind fun _ => written _ _
  · exact (Route.acceptsRoute_fill segments []).bind fun _ => written _ _
  · exact (Route.acceptsRoute_fill segments []).bind fun _ => .ok _

namespace BoundEndpoint

theorem acceptsRoute_requestOf {endpoint : BoundEndpoint} (plain : endpoint.isWildcard = false)
    (data options : Value) : AcceptsRoute (endpoint.requestOf data options) := by
  unfold requestOf
  rw [plain, if_neg Bool.false_ne_true]
  apply (Options.acceptsRoute_ofValue options).bind
  intro given
  apply (Options.acceptsRoute_method _).bind
  intro method
  apply (Request.acceptsRoute_build _ method data).bind
  intro request
  exact .ok _

/-- A function of the caller raises the failure that refuses the path of an endpoint. -/
def RaisedByCaller (hooks : Hooks) (fetch : Fetch) (url : Text) : Prop :=
  (∃ options, hooks.runBeforeRequest options = .error (.unsupportedRoute url)) ∨
    (∃ address sent, (fetch address sent).result = .error (.unsupportedRoute url)) ∨
      ∃ answer, hooks.runResponded answer = .error (.unsupportedRoute url)

variable {endpoint : BoundEndpoint} {hooks : Hooks} {fetch : Fetch} {data options : Value}

theorem Exchanged.raisedByCaller (plain : endpoint.isWildcard = false) {seen : List Event}
    {url : Text} (exchanged : Exchanged endpoint hooks fetch data options seen
      (.error (.unsupportedRoute url))) :
    RaisedByCaller hooks fetch url := by
  generalize same : (.error (.unsupportedRoute url) : Except Failure Value) = outcome at exchanged
  cases exchanged with
  | unbuilt fails =>
      cases same
      exact absurd fails (acceptsRoute_requestOf plain data options url)
  | refused built fails =>
      cases same
      exact Or.inl ⟨_, fails⟩
  | methodless built passed fails =>
      cases same
      exact absurd fails (Options.acceptsRoute_method _ url)
  | unanswered built passed kept fails =>
      cases same
      exact Or.inr (Or.inl ⟨_, _, fails⟩)
  | answered => exact Or.inr (Or.inr ⟨_, same.symm⟩)

theorem errorCaptured_notMem_exchange (failure : Failure) :
    .errorCaptured failure ∉ (endpoint.exchange hooks fetch data options).events := by
  intro present
  have stage : .errorCaptured ∈ stagesOf (endpoint.exchange hooks fetch data options).events :=
    List.mem_filterMap.mpr ⟨_, present, rfl⟩
  have early := (exchanged_exchange endpoint hooks fetch data options).stages.subset stage
  exact absurd early (by decide)

theorem raisedByCaller_of_errorCaptured (plain : endpoint.isWildcard = false) {url : Text}
    (captured : .errorCaptured (.unsupportedRoute url) ∈
      (endpoint.call hooks fetch data options).events) : RaisedByCaller hooks fetch url := by
  have exchanged := exchanged_exchange endpoint hooks fetch data options
  have early : .errorCaptured (.unsupportedRoute url) ∉
      (endpoint.exchange hooks fetch data options).events :=
    errorCaptured_notMem_exchange _
  rw [call_eq] at captured
  split at captured
  · exact absurd captured early
  · next failure fails =>
      split at captured
      · rcases List.mem_append.mp captured with before | last
        · exact absurd before early
        · cases List.mem_singleton.mp last
          rw [fails] at exchanged
          exact exchanged.raisedByCaller plain
      · exact absurd captured early

theorem call_wildcard (wildcard : endpoint.isWildcard = true) :
    endpoint.call hooks fetch data options =
      ⟨[.errorCaptured (.unsupportedRoute endpoint.url)],
        hooks.runErrorCaptured (.unsupportedRoute endpoint.url)⟩ := by
  rw [call_eq, exchange_unbuilt (requestOf_wildcard endpoint wildcard data options)]
  rfl

/-! ### Fetches -/

def fetched? : Event → Option (Text × Entries)
  | .fetch url options => some (url, options)
  | _ => none

def fetchesOf (events : List Event) : List (Text × Entries) := events.filterMap fetched?

theorem fetchesOf_sent (sent : List Sent) : fetchesOf (sent.map .sent) = [] := by
  unfold fetchesOf
  rw [List.filterMap_map, List.filterMap_eq_nil_iff]
  intro request _
  rfl

theorem fetchesOf_call :
    fetchesOf (endpoint.call hooks fetch data options).events =
      fetchesOf (endpoint.exchange hooks fetch data options).events := by
  rw [call_eq]
  split
  · rfl
  · split
    · unfold fetchesOf
      rw [List.filterMap_append]
      exact List.append_nil _
    · rfl

theorem fetchesOf_exchange {copied changed : Entries} {request : Request} {method : Value}
    (built : endpoint.requestOf data options = .ok (copied, request))
    (passed : hooks.runBeforeRequest copied = .ok changed)
    (kept : Options.method changed = .ok method) :
    fetchesOf (endpoint.exchange hooks fetch data options).events =
      [(request.url, Options.withBody changed request.body)] := by
  cases answers : (fetch request.url (Options.withBody changed request.body)).result with
  | error failure =>
      rw [(Exchanged.unanswered built passed kept answers).exchange_eq]
      exact congrArg ((request.url, _) :: ·) (fetchesOf_sent _)
  | ok answer =>
      rw [(Exchanged.answered built passed kept answers).exchange_eq]
      have behind (sent : List Sent) :
          fetchesOf (sent.map .sent ++ [.responded answer]) = [] := by
        unfold fetchesOf
        rw [List.filterMap_append]
        exact List.append_eq_nil_iff.mpr ⟨fetchesOf_sent sent, rfl⟩
      exact congrArg ((request.url, _) :: ·) (behind _)

end BoundEndpoint

/-! ### The method of a call -/

namespace Options

def methodInForce (given : Entries) (verb : Value) : Value :=
  match given.field? methodName with
  | some method => if method.isTruthy then method else verb
  | none => verb

theorem ofValue_dict (given : Entries) : ofValue (.dict given) = .ok given := by
  cases given with
  | nil => rfl
  | cons entry given => rfl

theorem method_withMethod (given : Entries) (verb : Value) :
    method (withMethod given verb) = .ok (methodInForce given verb) := by
  have set : (given.setField methodName verb).field? methodName = some verb := by
    rw [Entries.setField, Entries.field?_insert, if_pos (Value.sameKey_str_iff.mpr rfl)]
  unfold withMethod methodInForce method
  cases own : given.field? methodName with
  | none => simp [Value.isTruthy, set]
  | some value =>
      by_cases counts : value.isTruthy = true
      · simp [counts, own]
      · simp [counts, set]

end Options

namespace BoundEndpoint

variable {endpoint : BoundEndpoint} {options : Value} {given : Entries}

theorem requestOf_eq (plain : endpoint.isWildcard = false)
    (entries : Options.ofValue options = .ok given) (data : Value) :
    endpoint.requestOf data options =
      (Request.build endpoint.segments (Options.methodInForce given endpoint.verb) data).map
        fun request => (Options.withMethod given endpoint.verb, request) := by
  unfold requestOf
  rw [plain, if_neg Bool.false_ne_true, entries]
  change (Options.method (Options.withMethod given endpoint.verb)).bind _ = _
  rw [Options.method_withMethod]
  change (Request.build endpoint.segments _ data).bind _ = _
  cases Request.build endpoint.segments _ data <;> rfl

theorem requestOf_null {verb : Text} (verbal : endpoint.verb = .str verb)
    (plain : endpoint.isWildcard = false) (data : Value) :
    endpoint.requestOf data .null =
      (Request.build endpoint.segments (.str verb) data).map fun request =>
        ([(.str Options.methodName, .str verb)], request) := by
  have entries : Options.ofValue .null = .ok [] := rfl
  rw [requestOf_eq plain entries, verbal]
  rfl

end BoundEndpoint

/-- The method of a request is the one that the hook leaves in its options. -/
theorem Options.method_withBody {options : Entries} {method verb : Value}
    (kept : Options.method options = .ok method)
    (left : ∀ value, (.str methodName, value) ∈ options → value = verb) (body : Value) :
    Options.method (Options.withBody options body) = .ok verb := by
  have found : options.field? methodName = some method := by
    unfold Options.method at kept
    split at kept
    · next other same =>
        cases kept
        exact same
    · cases kept
  have present : (.str methodName, verb) ∈ options := by
    unfold Entries.field? Entries.get? at found
    obtain ⟨⟨key, value⟩, here, rfl⟩ := Option.map_eq_some_iff.mp found
    have inside := List.mem_of_find?_eq_some here
    have same : key.sameKey (.str methodName) = true := by simpa using List.find?_some here
    cases Value.sameKey_str_iff.mp same
    exact left value inside ▸ inside
  have sent : (Options.withBody options body).field? methodName = some verb := by
    apply Entries.field?_foldl_insert
    · intro other inside
      rcases List.mem_cons.mp inside with same | later
      · cases same
      · exact left other later
    · exact Or.inr (List.mem_cons_of_mem _ present)
  unfold Options.method
  rw [sent]

namespace BoundEndpoint

section Data

variable {endpoint : BoundEndpoint} {verb : Text} (verbal : endpoint.verb = .str verb)
  (plain : endpoint.isWildcard = false) {fields : Table Value}
  (distinct : (fields.map (·.1)).Nodup)

include verbal plain distinct

/-- A call with plain data and without options fetches once, if the first hook lets it. -/
theorem fetchesOf_call_null (values : ∀ field ∈ fields, field.2.IsPlain)
    (short : ∀ field ∈ fields, field.2.isShowable = true) {hooks : Hooks} {changed : Entries}
    {method : Value}
    (passed : hooks.runBeforeRequest [(.str Options.methodName, .str verb)] = .ok changed)
    (kept : Options.method changed = .ok method) (fetch : Fetch) :
    ∃ request, Request.build endpoint.segments (.str verb) (.dict (ofFields fields)) = .ok request ∧
      fetchesOf (endpoint.call hooks fetch (.dict (ofFields fields)) .null).events =
        [(request.url, Options.withBody changed request.body)] := by
  obtain ⟨request, builds⟩ := Request.exists_build distinct endpoint.segments verb values short
  have built := requestOf_null verbal plain (.dict (ofFields fields))
  rw [builds] at built
  exact ⟨request, builds, fetchesOf_call.trans (fetchesOf_exchange built passed kept)⟩

/-- A call with simple data of which a number is too long ends before the first hook. -/
theorem call_null_of_long (values : ∀ field ∈ fields, field.2.IsSimple)
    (long : ∃ field ∈ fields, field.2.isShowable = false) (hooks : Hooks) (fetch : Fetch) :
    endpoint.call hooks fetch (.dict (ofFields fields)) .null =
      ⟨[.errorCaptured (.shape (.digitLimit none))],
        hooks.runErrorCaptured (.shape (.digitLimit none))⟩ := by
  have fails := Request.build_of_long distinct endpoint.segments verb values long
  have unbuilt : endpoint.requestOf (.dict (ofFields fields)) .null =
      .error (.shape (.digitLimit none)) := by
    rw [requestOf_null verbal plain, fails]
    rfl
  rw [call_eq, exchange_unbuilt unbuilt]
  rfl

end Data

end BoundEndpoint

end ControllerClient
