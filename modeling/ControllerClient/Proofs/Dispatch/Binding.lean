import ControllerClient.Dispatch.Session

/-!
What calls are bound to, over whole sessions. A call uses the last hook of each
kind that was assigned to the set of its table, and what was given to its table
to send requests, or else what was put there last for all. A set is changed by
the steps that concern it only, so that all other assignments, and all calls,
can be left out of a session without changing a later answer.
-/

namespace ControllerClient

/-! ### The last hook of each kind -/

namespace HookChange

def beforeRequest? : HookChange → Option (Option BeforeRequest)
  | .beforeRequest hook => some hook
  | _ => none

def responded? : HookChange → Option (Option Responded)
  | .responded hook => some hook
  | _ => none

def errorCaptured? : HookChange → Option (Option ErrorCaptured)
  | .errorCaptured hook => some hook
  | _ => none

end HookChange

namespace Hooks

def lastOf (changes : List HookChange) : Hooks :=
  { beforeRequest := (changes.filterMap (·.beforeRequest?)).getLast?.join
    responded := (changes.filterMap (·.responded?)).getLast?.join
    errorCaptured := (changes.filterMap (·.errorCaptured?)).getLast?.join }

def changes (hooks : Hooks) : List HookChange :=
  [.beforeRequest hooks.beforeRequest, .responded hooks.responded,
    .errorCaptured hooks.errorCaptured]

theorem lastOf_concat (earlier : List HookChange) (change : HookChange) :
    lastOf (earlier ++ [change]) = (lastOf earlier).assign change := by
  unfold lastOf assign
  cases change with
  | beforeRequest hook =>
      simp [List.filterMap_append, HookChange.beforeRequest?, HookChange.responded?,
        HookChange.errorCaptured?]
  | responded hook =>
      simp [List.filterMap_append, HookChange.beforeRequest?, HookChange.responded?,
        HookChange.errorCaptured?]
  | errorCaptured hook =>
      simp [List.filterMap_append, HookChange.beforeRequest?, HookChange.responded?,
        HookChange.errorCaptured?]

theorem foldl_assign_lastOf (earlier later : List HookChange) :
    later.foldl assign (lastOf earlier) = lastOf (earlier ++ later) := by
  induction later generalizing earlier with
  | nil => simp
  | cons change later ih => rw [List.foldl_cons, ← lastOf_concat, ih, List.append_assoc,
      List.singleton_append]

theorem foldl_assign (changes : List HookChange) : changes.foldl assign {} = lastOf changes :=
  foldl_assign_lastOf [] changes

theorem foldl_changes (hooks before : Hooks) : hooks.changes.foldl assign before = hooks := rfl

end Hooks

namespace Session

/-! ### What steps do -/

def Step.made : Step → Nat
  | .makeHooks _ => 1
  | _ => 0

/--
The changes of the set of hooks with a number, when there are `made` sets before the step.
Making the set sets all its hooks; a set that is not made yet cannot be changed.
-/
def Step.changesOf (number made : Nat) : Step → List HookChange
  | .makeHooks hooks => if number = made then hooks.changes else []
  | .assign other change => if other = number ∧ number < made then [change] else []
  | _ => []

def Step.api? : Step → Option Api
  | .create prefixUrl rows hooks fetch =>
    match BoundEndpoint.ofRows prefixUrl rows with
    | .ok endpoints => some ⟨endpoints, hooks.getD sharedHooks, fetch⟩
    | .error _ => none
  | _ => none

def Step.fetch? : Step → Option (Option Fetch)
  | .replaceFetch fetch => some fetch
  | _ => none

def changesOf (number made : Nat) : List Step → List HookChange
  | [] => []
  | step :: later => step.changesOf number made ++ changesOf number (made + step.made) later

def fetchAfter (steps : List Step) : Option Fetch := (steps.filterMap Step.fetch?).getLast?.join

section Step

variable (network : Fetch) (session : Session)

theorem step_call_eq (number : Nat) (name : Text) (data options : Value) :
    (session.step network (.call number name data options)).1 = session := by
  unfold step
  dsimp only
  split
  · rfl
  · split
    · rfl
    · rfl

theorem step_create_eq (prefixUrl : Value) (rows : Table Value) (hooks : Option Nat)
    (fetch : Option Fetch) :
    (session.step network (.create prefixUrl rows hooks fetch)).1 =
      { session with
        apis := session.apis ++ (Step.create prefixUrl rows hooks fetch).api?.toList } := by
  unfold step Step.api?
  dsimp only
  cases made : BoundEndpoint.ofRows prefixUrl rows with
  | ok endpoints =>
      have creates : session.create prefixUrl rows hooks fetch =
          .ok { session with
            apis := session.apis ++ [⟨endpoints, hooks.getD sharedHooks, fetch⟩] } := by
        unfold create
        rw [made]
        rfl
      rw [creates]
      rfl
  | error failure =>
      have refuses : session.create prefixUrl rows hooks fetch = .error failure := by
        unfold create
        rw [made]
        rfl
      rw [refuses]
      change session = { session with apis := session.apis ++ [] }
      rw [List.append_nil]

theorem length_hooks_step (step : Step) :
    (session.step network step).1.hooks.length = session.hooks.length + step.made := by
  cases step with
  | makeHooks hooks => exact List.length_append
  | assign number change => exact List.length_modify _ _ _
  | replaceFetch fetch => rfl
  | create prefixUrl rows hooks fetch => rw [step_create_eq]; rfl
  | call number name data options => rw [step_call_eq]; rfl

/-- A step changes a set of hooks as its changes say. -/
theorem hooksAt_step (step : Step) (number : Nat) :
    (session.step network step).1.hooksAt number =
      (step.changesOf number session.hooks.length).foldl Hooks.assign
        (session.hooksAt number) := by
  cases step with
  | makeHooks hooks =>
      change (session.hooks ++ [hooks]).getD number {} =
        (if number = session.hooks.length then hooks.changes else []).foldl _
          (session.hooks.getD number {})
      by_cases same : number = session.hooks.length
      · rw [if_pos same, Hooks.foldl_changes, same]
        simp
      · rw [if_neg same, List.foldl_nil, List.getD_eq_getElem?_getD, List.getD_eq_getElem?_getD,
          List.getElem?_append]
        by_cases below : number < session.hooks.length
        · rw [if_pos below]
        · rw [if_neg below, List.getElem?_eq_none (by rw [List.length_singleton]; omega),
            List.getElem?_eq_none (by omega)]
  | assign other change =>
      change (session.hooks.modify other fun hooks => hooks.assign change).getD number {} =
        (if other = number ∧ number < session.hooks.length then [change] else []).foldl _
          (session.hooks.getD number {})
      rw [List.getD_eq_getElem?_getD, List.getD_eq_getElem?_getD, List.getElem?_modify]
      by_cases below : number < session.hooks.length
      · rw [List.getElem?_eq_getElem below]
        by_cases same : other = number
        · simp [same, below]
        · simp [same]
      · rw [List.getElem?_eq_none (by omega), if_neg fun both => below both.2]
        rfl
  | replaceFetch fetch => rfl
  | create prefixUrl rows hooks fetch =>
      rw [step_create_eq]
      rfl
  | call api name data options =>
      rw [step_call_eq]
      rfl

theorem apis_step (step : Step) :
    (session.step network step).1.apis = session.apis ++ step.api?.toList := by
  cases step with
  | makeHooks hooks => exact (List.append_nil _).symm
  | assign number change => exact (List.append_nil _).symm
  | replaceFetch fetch => exact (List.append_nil _).symm
  | create prefixUrl rows hooks fetch => rw [step_create_eq]
  | call number name data options =>
      rw [step_call_eq]
      exact (List.append_nil _).symm

theorem fetch_step (step : Step) :
    (session.step network step).1.fetch = step.fetch?.getD session.fetch := by
  cases step with
  | makeHooks hooks => rfl
  | assign number change => rfl
  | replaceFetch fetch => rfl
  | create prefixUrl rows hooks fetch =>
      rw [step_create_eq]
      rfl
  | call number name data options =>
      rw [step_call_eq]
      rfl

end Step

/-! ### Whole sessions -/

def after (network : Fetch) (session : Session) (steps : List Step) : Session :=
  steps.foldl (fun session step => (session.step network step).1) session

def replyAfter (network : Fetch) (earlier : List Step) (step : Step) : Reply :=
  ((initial.after network earlier).step network step).2

variable (network : Fetch)

theorem getElem?_replies (session : Session) (steps : List Step) (position : Nat) :
    (session.replies network steps)[position]? =
      steps[position]?.map fun step => ((session.after network (steps.take position)).step network step).2 := by
  induction steps generalizing session position with
  | nil => rfl
  | cons first later ih =>
      cases position with
      | zero => rfl
      | succ position => exact ih (session.step network first).1 position

theorem hooksAt_after (session : Session) (steps : List Step) (number : Nat) :
    (session.after network steps).hooksAt number =
      (changesOf number session.hooks.length steps).foldl Hooks.assign
        (session.hooksAt number) := by
  induction steps generalizing session with
  | nil => rfl
  | cons step later ih =>
      change ((session.step network step).1.after network later).hooksAt number = _
      rw [ih, hooksAt_step, length_hooks_step, changesOf, List.foldl_append]

theorem apis_after (session : Session) (steps : List Step) :
    (session.after network steps).apis = session.apis ++ steps.filterMap Step.api? := by
  induction steps generalizing session with
  | nil => exact (List.append_nil _).symm
  | cons step later ih =>
      change ((session.step network step).1.after network later).apis = _
      rw [ih, apis_step, List.append_assoc]
      cases made : step.api? with
      | none => simp [made]
      | some api => simp [made]

theorem fetch_after (session : Session) (steps : List Step) :
    (session.after network steps).fetch = ((steps.filterMap Step.fetch?).getLast?).getD session.fetch := by
  induction steps generalizing session with
  | nil => rfl
  | cons step later ih =>
      change ((session.step network step).1.after network later).fetch = _
      rw [ih, fetch_step]
      cases replaced : step.fetch? with
      | none => simp [replaced]
      | some fetch =>
          rw [List.filterMap_cons_some replaced, List.getLast?_cons, Option.getD_some,
            Option.getD_some]

/-! ### Calls -/

/-- What a call comes to with some hooks, and with what stands in place of the network. -/
def replyWith (network : Fetch) (api : Api) (hooks : Hooks) (fetch : Option Fetch)
    (name : Text) (data options : Value) : Reply :=
  match api.endpoints.lookup name with
  | none => .failed (.missingKey (.str name))
  | some endpoint =>
    let answer := endpoint.call hooks ((api.fetch.orElse fun _ => fetch).getD network)
      data options
    .called answer.events answer.result

/-- A call is bound to what the earlier steps of its session assigned last. -/
theorem replyAfter_call (earlier : List Step) (number : Nat) (name : Text) (data options : Value) :
    replyAfter network earlier (.call number name data options) =
      match (earlier.filterMap Step.api?)[number]? with
      | none => .done
      | some api =>
        replyWith network api (.lastOf (changesOf api.hooks 1 earlier)) (fetchAfter earlier) name data
          options := by
  have apis : (initial.after network earlier).apis = earlier.filterMap Step.api? := apis_after network initial earlier
  have fetch : (initial.after network earlier).fetch = fetchAfter earlier := by
    rw [fetch_after, fetchAfter]
    cases (earlier.filterMap Step.fetch?).getLast? with
    | none => rfl
    | some replaced => rfl
  have fresh (set : Nat) : initial.hooksAt set = {} := by
    cases set with
    | zero => rfl
    | succ set => rfl
  have hooks (set : Nat) :
      (initial.after network earlier).hooksAt set = .lastOf (changesOf set 1 earlier) := by
    rw [hooksAt_after, fresh, Hooks.foldl_assign]
    rfl
  unfold replyAfter step
  dsimp only
  rw [apis]
  cases (earlier.filterMap Step.api?)[number]? with
  | none => rfl
  | some api =>
      unfold replyWith call fetchOf
      dsimp only
      rw [hooks, fetch]
      cases api.endpoints.lookup name with
      | none => rfl
      | some endpoint => rfl

/-! ### Steps that do not matter -/

/-- Whether a step can make a difference to calls that use a set of hooks. -/
def Step.concerns (number : Nat) : Step → Bool
  | .assign other _ => other == number
  | .call .. => false
  | _ => true

theorem changesOf_filter (number made : Nat) (steps : List Step) :
    changesOf number made (steps.filter (Step.concerns number)) = changesOf number made steps := by
  induction steps generalizing made with
  | nil => rfl
  | cons step later ih =>
      rw [List.filter_cons]
      by_cases matters : step.concerns number = true
      · rw [if_pos matters, changesOf, changesOf, ih]
      · -- Only an assignment to another set and a call are left out, and neither makes a set.
        rw [if_neg matters, changesOf, ih]
        cases step with
        | assign other change =>
            have differs : ¬ other = number := fun same => matters (beq_iff_eq.mpr same)
            unfold Step.changesOf Step.made
            dsimp only
            rw [if_neg fun both => differs both.1]
            rfl
        | call api name data options => rfl
        | _ => exact absurd rfl matters

theorem filterMap_filter_concerns {β : Type} {made : Step → Option β} (number : Nat)
    (assigning : ∀ other change, made (.assign other change) = none)
    (calling : ∀ api name data options, made (.call api name data options) = none)
    (steps : List Step) :
    (steps.filter (Step.concerns number)).filterMap made = steps.filterMap made := by
  have idle : (fun step => if Step.concerns number step = true then made step else none) = made := by
    funext step
    cases step with
    | assign other change => rw [assigning, ite_self]
    | call api name data options => rw [calling, ite_self]
    | _ => rfl
  rw [List.filterMap_filter, idle]

theorem replyAfter_call_congr {earlier other : List Step} {number : Nat} {api : Api}
    (made : (earlier.filterMap Step.api?)[number]? = some api)
    (same : earlier.filter (Step.concerns api.hooks) = other.filter (Step.concerns api.hooks))
    (name : Text) (data options : Value) :
    replyAfter network earlier (.call number name data options) =
      replyAfter network other (.call number name data options) := by
  have apis : earlier.filterMap Step.api? = other.filterMap Step.api? := by
    rw [← filterMap_filter_concerns api.hooks (fun _ _ => rfl) (fun _ _ _ _ => rfl) earlier, same,
      filterMap_filter_concerns api.hooks (fun _ _ => rfl) fun _ _ _ _ => rfl]
  have fetches : fetchAfter earlier = fetchAfter other := by
    unfold fetchAfter
    rw [← filterMap_filter_concerns api.hooks (fun _ _ => rfl) (fun _ _ _ _ => rfl) earlier, same,
      filterMap_filter_concerns api.hooks (fun _ _ => rfl) fun _ _ _ _ => rfl]
  have changes : changesOf api.hooks 1 earlier = changesOf api.hooks 1 other := by
    rw [← changesOf_filter api.hooks 1 earlier, same, changesOf_filter]
  rw [replyAfter_call, replyAfter_call, ← apis, made]
  dsimp only
  rw [fetches, changes]

theorem after_call (front back : List Step) (number : Nat) (name : Text) (data options : Value) :
    initial.after network (front ++ .call number name data options :: back) =
      initial.after network (front ++ back) := by
  unfold after
  rw [List.foldl_append, List.foldl_append, List.foldl_cons, step_call_eq]

def Step.assigned? : Step → Option Nat
  | .assign number _ => some number
  | _ => none

section LeftOut

variable {earlier : List Step} {number : Nat} {api : Api}
  (made : (earlier.filterMap Step.api?)[number]? = some api) (name : Text) (data options : Value)

include made

theorem replyAfter_without_shared (explicit : api.hooks ≠ sharedHooks) :
    replyAfter network (earlier.filter fun step => step.assigned? != some sharedHooks)
        (.call number name data options) =
      replyAfter network earlier (.call number name data options) := by
  have same : earlier.filter (Step.concerns api.hooks) =
      (earlier.filter fun step => step.assigned? != some sharedHooks).filter
        (Step.concerns api.hooks) := by
    rw [List.filter_filter]
    apply List.filter_congr
    intro step _
    cases step with
    | assign set change =>
        by_cases own : set = api.hooks
        · have kept : ((Step.assign set change).assigned? != some sharedHooks) = true :=
            bne_iff_ne.mpr fun shared => explicit (own ▸ Option.some.inj shared)
          rw [kept, Bool.and_true]
        · have left : (Step.assign set change).concerns api.hooks = false := beq_false_of_ne own
          rw [left, Bool.false_and]
    | _ => rfl
  exact (replyAfter_call_congr network made same name data options).symm

theorem replyAfter_without_assign {front back : List Step} {set : Nat} {change : HookChange}
    (split : earlier = front ++ .assign set change :: back) (differs : set ≠ api.hooks) :
    replyAfter network (front ++ back) (.call number name data options) =
      replyAfter network earlier (.call number name data options) := by
  have left : ¬ (Step.assign set change).concerns api.hooks = true :=
    fun own => differs (beq_iff_eq.mp own)
  have same : earlier.filter (Step.concerns api.hooks) =
      (front ++ back).filter (Step.concerns api.hooks) := by
    rw [split, List.filter_append, List.filter_append, List.filter_cons, if_neg left]
  exact (replyAfter_call_congr network made same name data options).symm

end LeftOut

/--
The binding of calls, over sessions of any length. A call in a session uses, of each kind, the
last hook that was assigned before it to the set of its table, which is the shared set for a
table made without one, and it sends with what its table was made with, or else with what was
put in place of the network last, whatever the network is. So the assignments to the shared set can all be left out for
tables with other sets, an assignment to one set can be left out for tables with another, tables
with one set see the same hooks, and no call makes a difference to anything later.
-/
theorem replies_bound (network : Fetch) :
    (∀ (steps : List Step) (position number : Nat) (name : Text) (data options : Value),
      steps[position]? = some (.call number name data options) →
        (initial.replies network steps)[position]? =
            some (replyAfter network (steps.take position) (.call number name data options)) ∧
          (initial.replies network steps)[position]? =
            match ((steps.take position).filterMap Step.api?)[number]? with
            | none => some .done
            | some api =>
              some (replyWith network api (.lastOf (changesOf api.hooks 1 (steps.take position)))
                (fetchAfter (steps.take position)) name data options)) ∧
    (∀ (earlier : List Step) (number : Nat) (api : Api) (name : Text) (data options : Value),
      (earlier.filterMap Step.api?)[number]? = some api →
        (api.hooks ≠ sharedHooks →
          replyAfter network (earlier.filter fun step => step.assigned? != some sharedHooks)
              (.call number name data options) =
            replyAfter network earlier (.call number name data options)) ∧
          (∀ front back set change, earlier = front ++ .assign set change :: back →
            set ≠ api.hooks →
              replyAfter network (front ++ back) (.call number name data options) =
                replyAfter network earlier (.call number name data options)) ∧
          ∀ (other : Nat) (otherApi : Api), (earlier.filterMap Step.api?)[other]? = some otherApi →
            otherApi.hooks = api.hooks →
              ∃ hooks : Hooks,
                replyAfter network earlier (.call number name data options) =
                  replyWith network api hooks (fetchAfter earlier) name data options ∧
                ∀ (name : Text) (data options : Value),
                  replyAfter network earlier (.call other name data options) =
                    replyWith network otherApi hooks (fetchAfter earlier) name data options) ∧
    ∀ (front back : List Step) (number : Nat) (name : Text) (data options : Value) (step : Step),
      replyAfter network (front ++ .call number name data options :: back) step =
        replyAfter network (front ++ back) step := by
  refine ⟨?_, ?_, ?_⟩
  · intro steps position number name data options here
    have reply : (initial.replies network steps)[position]? =
        some (replyAfter network (steps.take position) (.call number name data options)) := by
      rw [getElem?_replies, here]
      rfl
    refine ⟨reply, ?_⟩
    rw [reply, replyAfter_call]
    cases ((steps.take position).filterMap Step.api?)[number]? with
    | none => rfl
    | some api => rfl
  · intro earlier number api name data options made
    refine ⟨replyAfter_without_shared network made name data options, ?_, ?_⟩
    · intro front back set change split differs
      exact replyAfter_without_assign network made name data options split differs
    · intro other otherApi otherMade shared
      refine ⟨.lastOf (changesOf api.hooks 1 earlier), ?_, ?_⟩
      · rw [replyAfter_call, made]
      · intro name data options
        rw [replyAfter_call, otherMade, ← shared]
  · intro front back number name data options step
    unfold replyAfter
    rw [after_call]

def reading (text : String) : HookChange := .responded (some fun _ => .ok (.str text.toList))

/-- A table with a set of hooks of its own, and then assignments to it and to the shared set. -/
def boundSteps : List Step :=
  [.makeHooks {},
    .create (.str "/a".toList) [("go".toList, .tuple [.str "GET".toList, .str []])] (some 1)
      (some fun _ _ => pure .null),
    .assign 1 (reading "first"), .assign 0 (reading "shared"), .assign 1 (reading "own")]

def emptyNetwork : Fetch := fun _ _ => pure .null

/-- The hook that was set last after the table was made counts, and the shared one does not. -/
theorem replies_bound_own :
    (∃ events, (initial.replies emptyNetwork (boundSteps ++ [.call 0 "go".toList .null .null]))[5]? =
        some (.called events (.ok (.value (.str "own".toList))))) ∧
      replyAfter emptyNetwork (boundSteps.filter fun step => step.assigned? != some sharedHooks)
          (.call 0 "go".toList .null .null) =
        replyAfter emptyNetwork boundSteps (.call 0 "go".toList .null .null) ∧
      replyAfter emptyNetwork (boundSteps.take 3 ++ boundSteps.drop 4) (.call 0 "go".toList .null .null) =
        replyAfter emptyNetwork boundSteps (.call 0 "go".toList .null .null) := by
  obtain ⟨calls, unconcerned, _⟩ := replies_bound emptyNetwork
  have explicit : (1 : Nat) ≠ sharedHooks := by decide
  obtain ⟨unshared, otherSet, _⟩ := unconcerned boundSteps 0 _ "go".toList .null .null rfl
  refine ⟨?_, unshared explicit, ?_⟩
  · have bound := (calls (boundSteps ++ [Step.call 0 "go".toList .null .null]) 5 0 _ _ _ rfl).2
    have template : Route.Segment.split "/a".toList = [.literal "/a".toList] := by cbv
    have answers : (BoundEndpoint.call ⟨.str "GET".toList, "/a".toList⟩
        (.lastOf (changesOf 1 1 boundSteps)) emptyNetwork .null .null).result =
          .ok (.value (.str "own".toList)) := by
      unfold BoundEndpoint.call BoundEndpoint.exchange BoundEndpoint.requestOf BoundEndpoint.segments
      rw [template]
      rfl
    rw [bound]
    exact ⟨_, congrArg (fun result => some (Reply.called _ result)) answers⟩
  · exact otherSet (boundSteps.take 3) (boundSteps.drop 4) 0 (reading "shared") rfl explicit.symm

end Session

end ControllerClient
