import ControllerClient.Proofs.Dispatch.Fetching

/-!
What a request is sent with. Its address and its body are made of the data and of the method
that is in force before the first hook sees the options. All other options are sent as that hook
leaves them, and a body among them is sent in place of the one that was made.
-/

namespace ControllerClient

namespace Entries

/-- No two entries have the same key. -/
def IsDictionary (entries : Entries) : Prop :=
  entries.Pairwise fun entry later => entry.1.sameKey later.1 = false

def Lacks (entries : Entries) (name : Text) : Prop :=
  ∀ entry ∈ entries, entry.1.sameKey (.str name) = false

instance (entries : Entries) : Decidable entries.IsDictionary :=
  inferInstanceAs (Decidable (entries.Pairwise fun entry later => entry.1.sameKey later.1 = false))

instance (entries : Entries) (name : Text) : Decidable (entries.Lacks name) :=
  inferInstanceAs (Decidable (∀ entry ∈ entries, entry.1.sameKey (.str name) = false))

theorem sameKey_str_comm (key : Value) (name : Text) :
    (Value.str name).sameKey key = key.sameKey (.str name) := by
  rw [Bool.eq_iff_iff, Value.str_sameKey_iff, Value.sameKey_str_iff]

theorem erase_of_lacks {entries : Entries} {name : Text} (lacks : entries.Lacks name) :
    entries.erase (.str name) = entries := by
  induction entries with
  | nil => rfl
  | cons entry entries ih =>
      obtain ⟨here, later⟩ := List.forall_mem_cons.mp lacks
      rw [erase, here, ih later]
      rfl

theorem field?_of_lacks {entries : Entries} {name : Text} (lacks : entries.Lacks name) :
    entries.field? name = none := by
  unfold field? get?
  rw [Option.map_eq_none_iff, List.find?_eq_none]
  intro entry present
  rw [lacks entry present]
  exact Bool.false_ne_true

/--
A field keeps its place before all entries that are inserted behind it, and takes the value of
the entry that has its name.
-/
theorem foldl_insert_behind (name : Text) (value : Value) {entries before : Entries}
    (distinct : (before ++ entries).IsDictionary) (lacks : before.Lacks name) :
    entries.foldl (fun (made : Entries) entry => made.insert entry.1 entry.2)
        ((.str name, value) :: before) =
      (.str name, (entries.field? name).getD value) :: (before ++ entries.erase (.str name)) := by
  induction entries generalizing value before with
  | nil => rw [erase, List.append_nil]; rfl
  | cons entry entries ih =>
      obtain ⟨_, others, apart⟩ := List.pairwise_append.mp distinct
      obtain ⟨new, _⟩ := List.pairwise_cons.mp others
      rw [List.foldl_cons, insert, sameKey_str_comm]
      cases here : entry.1.sameKey (.str name) with
      | true =>
          -- The entry with the name gives its value; no later one has the name.
          have behind : Lacks entries name := by
            intro later present
            have differs := new later present
            rwa [Value.sameKey_str_iff.mp here, sameKey_str_comm] at differs
          have fewer : (before ++ entries).IsDictionary :=
            distinct.sublist (List.Sublist.append_left (List.sublist_cons_self entry entries) before)
          have found : Entries.field? (entry :: entries) name = some entry.2 := by
            simp [field?, get?, here]
          rw [if_pos rfl, ih entry.2 fewer lacks, field?_of_lacks behind, erase_of_lacks behind,
            found, erase, if_pos here]
          rfl
      | false =>
          have unlike : ∀ other ∈ before, other.1.sameKey entry.1 = false :=
            fun other present => apart other present entry List.mem_cons_self
          have longer : (before ++ [entry]).Lacks name :=
            List.forall_mem_append.mpr ⟨lacks, List.forall_mem_singleton.mpr here⟩
          have found : Entries.field? (entry :: entries) name = Entries.field? entries name := by
            simp [field?, get?, here]
          have rest : (before ++ [entry] ++ entries).IsDictionary := by
            rwa [List.append_assoc]
          rw [if_neg Bool.false_ne_true, insert_new _ unlike, ih value rest longer, found, erase,
            here, List.append_assoc]
          rfl

theorem ofPairs_field (name : Text) (value : Value) {entries : Entries}
    (distinct : entries.IsDictionary) :
    ofPairs ((.str name, value) :: entries) =
      (.str name, (entries.field? name).getD value) :: entries.erase (.str name) := by
  have lacks : Entries.Lacks [] name := fun entry present => absurd present List.not_mem_nil
  exact foldl_insert_behind name value distinct lacks

end Entries

namespace BoundEndpoint

/--
A call whose data make up a request, and whose first hook leaves a method among the options,
fetches once. The address and the body are those of the request made with the method in force
before that hook, and the body stands in front of the options as the hook leaves them. If these
have a body of their own, it is sent in place of the one that was made.
-/
theorem fetchesOf_call_dict {endpoint : BoundEndpoint} (plain : endpoint.isWildcard = false)
    {given : Entries} {data : Value} {request : Request}
    (builds : Request.build endpoint.segments (Options.methodInForce given endpoint.verb) data =
      .ok request)
    {hooks : Hooks} {changed : Entries} {method : Value}
    (passed : hooks.runBeforeRequest (Options.withMethod given endpoint.verb) = .ok changed)
    (kept : Options.method changed = .ok method) (distinct : changed.IsDictionary)
    (fetch : Fetch) :
    ∃ sent, fetchesOf (endpoint.call hooks fetch data (.dict given)).events =
        [(request.url, sent)] ∧
      sent = (.str Options.bodyName, (changed.field? Options.bodyName).getD request.body) ::
        changed.erase (.str Options.bodyName) ∧
      (changed.Lacks Options.bodyName →
        sent = (.str Options.bodyName, request.body) :: changed) := by
  refine ⟨_, ?_, rfl, ?_⟩
  · have built := requestOf_eq plain (Options.ofValue_dict given) data
    rw [builds] at built
    rw [fetchesOf_call, fetchesOf_exchange built passed kept, Options.withBody,
      Entries.ofPairs_field _ _ distinct]
  · intro lacks
    rw [Entries.field?_of_lacks lacks, Entries.erase_of_lacks lacks]
    rfl

def saving : BoundEndpoint := ⟨.str "POST".toList, "/u/:id".toList⟩

def savedUser : Value := .dict [(.str "id".toList, .str "7".toList), (.str "q".toList, .null)]

def savedBody : Value := .str "\x7b\"q\":null\x7d".toList

def timedOptions (method : Text) : Entries :=
  [(.str "method".toList, .str method), (.str "timeout".toList, .bool true)]

def fetchingHooks : Hooks :=
  { beforeRequest := some fun options =>
      .ok (options.setField Options.methodName (.str "GET".toList)) }

/-- What is fetched is the request of the bound method, under the one that the hook leaves. -/
theorem fetchesOf_call_dict_changed :
    Request.build saving.segments (Options.methodInForce (timedOptions []) saving.verb) savedUser =
        .ok ⟨"/u/7".toList, savedBody⟩ ∧
      fetchingHooks.runBeforeRequest (Options.withMethod (timedOptions []) saving.verb) =
        .ok (timedOptions "GET".toList) ∧
      Options.method (timedOptions "GET".toList) = .ok (.str "GET".toList) ∧
      (timedOptions "GET".toList).IsDictionary ∧
      ∀ fetch : Fetch,
        fetchesOf (saving.call fetchingHooks fetch savedUser (.dict (timedOptions []))).events =
          [("/u/7".toList, (.str "body".toList, savedBody) :: timedOptions "GET".toList)] := by
  have template : saving.segments =
      [.literal "/u".toList, .literal ['/'], .parameter "id".toList] := by cbv
  have builds : Request.build saving.segments
      (Options.methodInForce (timedOptions []) saving.verb) savedUser =
        .ok ⟨"/u/7".toList, savedBody⟩ := by
    rw [template]
    rfl
  have passed : fetchingHooks.runBeforeRequest
      (Options.withMethod (timedOptions []) saving.verb) = .ok (timedOptions "GET".toList) := rfl
  have kept : Options.method (timedOptions "GET".toList) = .ok (.str "GET".toList) := rfl
  have distinct : (timedOptions "GET".toList).IsDictionary := by decide
  have lacks : (timedOptions "GET".toList).Lacks Options.bodyName := by decide
  refine ⟨builds, passed, kept, distinct, fun fetch => ?_⟩
  obtain ⟨sent, fetched, -, whole⟩ := fetchesOf_call_dict rfl builds passed kept distinct fetch
  rw [whole lacks] at fetched
  exact fetched

end BoundEndpoint

end ControllerClient
