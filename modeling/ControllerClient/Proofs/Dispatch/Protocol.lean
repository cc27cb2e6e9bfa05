import ControllerClient.Dispatch.BoundEndpoint

/-!
The protocol of one call. A call goes through its stages in order up to the first
failure, and a failure is handed to the hook for failures once, unless the call
was cancelled. What that hook makes of the failure is what the call comes to.
-/

namespace ControllerClient

inductive Stage where
  | beforeRequest
  | fetch
  | responded
  | errorCaptured
deriving DecidableEq, Repr

def Event.stage? : Event → Option Stage
  | .beforeRequest _ => some .beforeRequest
  | .fetch _ _ => some .fetch
  | .responded _ => some .responded
  | .errorCaptured _ => some .errorCaptured
  | .sent _ => none

def stagesOf (events : List Event) : List Stage := events.filterMap Event.stage?

theorem stagesOf_append (events later : List Event) :
    stagesOf (events ++ later) = stagesOf events ++ stagesOf later :=
  List.filterMap_append

theorem stagesOf_sent (sent : List Sent) : stagesOf (sent.map .sent) = [] := by
  unfold stagesOf
  rw [List.filterMap_map, List.filterMap_eq_nil_iff]
  intro request _
  rfl

namespace BoundEndpoint

variable {endpoint : BoundEndpoint} {hooks : Hooks} {fetch : Fetch} {data options : Value}

/--
What is seen of a call up to its result or its first failure, by the step at which it ends:
nothing before the request is built, and no stage behind one that failed.
-/
inductive Exchanged (endpoint : BoundEndpoint) (hooks : Hooks) (fetch : Fetch)
    (data options : Value) : List Event → Except Failure Value → Prop where
  /-- The path is no plain template, or options or data make up no request. -/
  | unbuilt {failure : Failure} (fails : endpoint.requestOf data options = .error failure) :
      Exchanged endpoint hooks fetch data options [] (.error failure)
  /-- The first hook fails. -/
  | refused {copied : Entries} {request : Request} {failure : Failure}
      (built : endpoint.requestOf data options = .ok (copied, request))
      (fails : hooks.runBeforeRequest copied = .error failure) :
      Exchanged endpoint hooks fetch data options [.beforeRequest copied] (.error failure)
  /-- The first hook takes the method away. -/
  | methodless {copied changed : Entries} {request : Request} {failure : Failure}
      (built : endpoint.requestOf data options = .ok (copied, request))
      (passed : hooks.runBeforeRequest copied = .ok changed)
      (fails : Options.method changed = .error failure) :
      Exchanged endpoint hooks fetch data options [.beforeRequest copied] (.error failure)
  /-- The request is sent and not answered. -/
  | unanswered {copied changed : Entries} {request : Request} {method : Value} {failure : Failure}
      (built : endpoint.requestOf data options = .ok (copied, request))
      (passed : hooks.runBeforeRequest copied = .ok changed)
      (kept : Options.method changed = .ok method)
      (fails : (fetch request.url (Options.withBody changed request.body)).result =
        .error failure) :
      Exchanged endpoint hooks fetch data options
        (.beforeRequest copied ::
          .fetch request.url (Options.withBody changed request.body) ::
          (fetch request.url (Options.withBody changed request.body)).events.map .sent)
        (.error failure)
  /-- The answer is handed to the second hook, which decides. -/
  | answered {copied changed : Entries} {request : Request} {method answer : Value}
      (built : endpoint.requestOf data options = .ok (copied, request))
      (passed : hooks.runBeforeRequest copied = .ok changed)
      (kept : Options.method changed = .ok method)
      (answers : (fetch request.url (Options.withBody changed request.body)).result =
        .ok answer) :
      Exchanged endpoint hooks fetch data options
        (.beforeRequest copied ::
          .fetch request.url (Options.withBody changed request.body) ::
          ((fetch request.url (Options.withBody changed request.body)).events.map .sent ++
            [.responded answer]))
        (hooks.runResponded answer)

section Steps

variable {copied changed sent : Entries} {request : Request} {failure : Failure}

theorem sendable_refused (fails : hooks.runBeforeRequest copied = .error failure) :
    sendable hooks request copied = .error failure := by
  unfold sendable
  rw [fails]
  rfl

theorem sendable_methodless (passed : hooks.runBeforeRequest copied = .ok changed)
    (fails : Options.method changed = .error failure) :
    sendable hooks request copied = .error failure := by
  unfold sendable
  rw [passed]
  change (Options.method changed).bind _ = _
  rw [fails]
  rfl

theorem sendable_kept (passed : hooks.runBeforeRequest copied = .ok changed) {method : Value}
    (kept : Options.method changed = .ok method) :
    sendable hooks request copied = .ok (Options.withBody changed request.body) := by
  unfold sendable
  rw [passed]
  change (Options.method changed).bind _ = _
  rw [kept]
  rfl

theorem exchange_unbuilt (fails : endpoint.requestOf data options = .error failure) :
    endpoint.exchange hooks fetch data options = ⟨[], .error failure⟩ := by
  unfold exchange
  rw [fails]
  rfl

theorem exchange_unsendable (built : endpoint.requestOf data options = .ok (copied, request))
    (fails : sendable hooks request copied = .error failure) :
    endpoint.exchange hooks fetch data options = ⟨[.beforeRequest copied], .error failure⟩ := by
  have rest (next : Entries → Traced Event Value) :
      Traced.followedBy (.ofResult (sendable hooks request copied)) next =
        ⟨[], .error failure⟩ := by
    rw [fails]
    rfl
  unfold exchange
  rw [built]
  change Traced.followedBy (.observed (Event.beforeRequest copied))
    (fun _ => Traced.followedBy (.ofResult (sendable hooks request copied)) _) = _
  rw [rest]
  rfl

def respondTo (hooks : Hooks) (answer : Value) : Traced Event Value :=
  ⟨[.responded answer], hooks.runResponded answer⟩

theorem exchange_sendable (built : endpoint.requestOf data options = .ok (copied, request))
    (passed : sendable hooks request copied = .ok sent) :
    endpoint.exchange hooks fetch data options =
      ⟨.beforeRequest copied :: .fetch request.url sent ::
          (Traced.followedBy (.within .sent (fetch request.url sent)) (respondTo hooks)).events,
        (Traced.followedBy (.within .sent (fetch request.url sent)) (respondTo hooks)).result⟩ := by
  unfold exchange
  rw [built]
  change Traced.followedBy (.observed (Event.beforeRequest copied))
    (fun _ => Traced.followedBy (.ofResult (sendable hooks request copied)) _) = _
  rw [passed]
  rfl

end Steps

/-- An exchange goes as far as its steps succeed. -/
theorem exchanged_exchange (endpoint : BoundEndpoint) (hooks : Hooks) (fetch : Fetch)
    (data options : Value) :
    Exchanged endpoint hooks fetch data options (endpoint.exchange hooks fetch data options).events
      (endpoint.exchange hooks fetch data options).result := by
  -- One case for each step that can fail, in the order in which the steps are taken.
  cases built : endpoint.requestOf data options with
  | error failure =>
      rw [exchange_unbuilt built]
      exact .unbuilt built
  | ok made =>
      obtain ⟨copied, request⟩ := made
      cases passed : hooks.runBeforeRequest copied with
      | error failure =>
          rw [exchange_unsendable built (sendable_refused passed)]
          exact .refused built passed
      | ok changed =>
          cases kept : Options.method changed with
          | error failure =>
              rw [exchange_unsendable built (sendable_methodless passed kept)]
              exact .methodless built passed kept
          | ok method =>
              rw [exchange_sendable built (sendable_kept passed kept)]
              unfold Traced.followedBy
              cases answers : (fetch request.url (Options.withBody changed request.body)).result with
              | error failure =>
                  rw [Traced.within, answers]
                  exact .unanswered built passed kept answers
              | ok answer =>
                  rw [Traced.within, answers]
                  exact .answered built passed kept answers

/-- What is seen up to the first failure, and that failure, are determined. -/
theorem Exchanged.exchange_eq {seen : List Event} {outcome : Except Failure Value}
    (exchanged : Exchanged endpoint hooks fetch data options seen outcome) :
    endpoint.exchange hooks fetch data options = ⟨seen, outcome⟩ := by
  cases exchanged with
  | unbuilt fails => exact exchange_unbuilt fails
  | refused built fails => exact exchange_unsendable built (sendable_refused fails)
  | methodless built passed fails =>
      exact exchange_unsendable built (sendable_methodless passed fails)
  | unanswered built passed kept fails =>
      rw [exchange_sendable built (sendable_kept passed kept)]
      unfold Traced.followedBy
      rw [Traced.within, fails]
  | answered built passed kept answers =>
      rw [exchange_sendable built (sendable_kept passed kept)]
      unfold Traced.followedBy
      rw [Traced.within, answers]
      rfl

/-- Stages come in their order, each at most once. -/
theorem Exchanged.stages {seen : List Event} {outcome : Except Failure Value}
    (exchanged : Exchanged endpoint hooks fetch data options seen outcome) :
    stagesOf seen <+: [.beforeRequest, .fetch, .responded] := by
  cases exchanged with
  | unbuilt => exact List.nil_prefix
  | refused => exact ⟨[.fetch, .responded], rfl⟩
  | methodless => exact ⟨[.fetch, .responded], rfl⟩
  | @unanswered copied changed request method failure built passed kept fails =>
      let sent := (fetch request.url (Options.withBody changed request.body)).events
      change [.beforeRequest, .fetch] ++ stagesOf (sent.map .sent) <+: _
      rw [stagesOf_sent]
      exact ⟨[.responded], rfl⟩
  | @answered copied changed request method answer built passed kept answers =>
      let sent := (fetch request.url (Options.withBody changed request.body)).events
      change [.beforeRequest, .fetch] ++ stagesOf (sent.map .sent ++ [.responded answer]) <+: _
      rw [stagesOf_append, stagesOf_sent]
      exact List.prefix_refl _

theorem requestOf_wildcard (endpoint : BoundEndpoint) (wildcard : endpoint.isWildcard = true)
    (data options : Value) :
    endpoint.requestOf data options = .error (.unsupportedRoute endpoint.url) := by
  unfold requestOf
  rw [if_pos wildcard]

/-- A call is its exchange, and behind a failure what becomes of the failure. -/
theorem call_eq (endpoint : BoundEndpoint) (hooks : Hooks) (fetch : Fetch)
    (data options : Value) :
    endpoint.call hooks fetch data options =
      match (endpoint.exchange hooks fetch data options).result with
      | .ok value => ⟨(endpoint.exchange hooks fetch data options).events, .ok (.value value)⟩
      | .error failure =>
        if failure.isHandled then
          ⟨(endpoint.exchange hooks fetch data options).events ++ [.errorCaptured failure],
            hooks.runErrorCaptured failure⟩
        else ⟨(endpoint.exchange hooks fetch data options).events, .error failure⟩ := by
  unfold call
  generalize endpoint.exchange hooks fetch data options = exchange
  obtain ⟨events, result⟩ := exchange
  cases result with
  | ok value =>
      change (⟨events ++ [], .ok (.value value)⟩ : Traced Event Answer) = _
      rw [List.append_nil]
  | error failure =>
      change (⟨events ++ (captured hooks failure).events, (captured hooks failure).result⟩ :
        Traced Event Answer) = _
      unfold captured
      by_cases handled : failure.isHandled = true
      · simp only [if_pos handled]
        rfl
      · simp only [if_neg handled]
        change (⟨events ++ [], .error failure⟩ : Traced Event Answer) = _
        rw [List.append_nil]

theorem runErrorCaptured_ofCallbacks (beforeRequest : Option (Callback Entries Entries))
    (responded : Option (Callback Value Value)) (errorCaptured : Option (Callback Failure Answer))
    (failure : Failure) :
    (Hooks.ofCallbacks beforeRequest responded errorCaptured).runErrorCaptured failure =
      match errorCaptured with
      | some callback => callback.invoke failure
      | none => .error failure := by
  cases errorCaptured with
  | none => rfl
  | some callback => rfl

/--
The protocol of one call, for any endpoint, functions of the caller, fetch, data and options.
A path that is no plain template fails before anything else, whatever the options say.
Otherwise the stages are seen in order up to the first failure. A failure is handed to the
function for failures once, and what that function gives or raises is the outcome; a
cancellation leaves the call as it is, and without a failure the function is not called.
-/
theorem call_protocol (verb : Value) (prefixUrl path : Text)
    (beforeRequest : Option (Callback Entries Entries)) (responded : Option (Callback Value Value))
    (errorCaptured : Option (Callback Failure Answer)) (fetch : Fetch) (data options : Value) :
    ∃ endpoint : BoundEndpoint,
      ofRow (.str prefixUrl) (.tuple [verb, .str path]) = .ok endpoint ∧
        (verb = .str "PATH_HAS_WILDCARD".toList →
          endpoint.call (.ofCallbacks beforeRequest responded errorCaptured) fetch data options =
            ⟨[.errorCaptured (.unsupportedRoute (prefixUrl ++ path))],
              match errorCaptured with
              | some callback => callback.invoke (.unsupportedRoute (prefixUrl ++ path))
              | none => .error (.unsupportedRoute (prefixUrl ++ path))⟩) ∧
        ∃ (seen : List Event) (outcome : Except Failure Value),
          Exchanged endpoint (.ofCallbacks beforeRequest responded errorCaptured) fetch data options
              seen outcome ∧
            stagesOf seen <+: [.beforeRequest, .fetch, .responded] ∧
            endpoint.call (.ofCallbacks beforeRequest responded errorCaptured) fetch data options =
              match outcome with
              | .ok value => ⟨seen, .ok (.value value)⟩
              | .error failure =>
                if failure.isHandled then
                  ⟨seen ++ [.errorCaptured failure],
                    match errorCaptured with
                    | some callback => callback.invoke failure
                    | none => .error failure⟩
                else ⟨seen, .error failure⟩ := by
  let endpoint : BoundEndpoint := ⟨verb, prefixUrl ++ path⟩
  let hooks : Hooks := .ofCallbacks beforeRequest responded errorCaptured
  have exchanged := exchanged_exchange endpoint hooks fetch data options
  refine ⟨endpoint, rfl, ?_, _, _, exchanged, exchanged.stages, ?_⟩
  · rintro rfl
    have fails := requestOf_wildcard endpoint rfl data options
    rw [call_eq, exchange_unbuilt fails, ← runErrorCaptured_ofCallbacks beforeRequest responded]
    rfl
  · rw [call_eq]
    simp only [runErrorCaptured_ofCallbacks]
    rfl

/-- A first function that one waits for and that takes the method away. -/
example :
    (call ⟨.str "GET".toList, "/a".toList⟩
        (.ofCallbacks (some fun _ => .ok (.awaitable (.ok []))) none
          (some fun failure => .ok (.value (.failure failure))))
        (fun _ _ => pure .null) .null .null).result =
      .ok (.failure (.missingKey (.str "method".toList))) := by
  have template : segments ⟨.str "GET".toList, "/a".toList⟩ = [.literal "/a".toList] := by cbv
  unfold call exchange requestOf
  rw [template]
  rfl

end BoundEndpoint

end ControllerClient
