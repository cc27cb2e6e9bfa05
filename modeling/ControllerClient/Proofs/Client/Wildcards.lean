import ControllerClient.Proofs.Client.Running
import ControllerClient.Proofs.Controller.Routes
import ControllerClient.Proofs.Dispatch.Fetching

/-!
Wildcards from the source text to the call. What the last definition of a method has
as its first decorator of a verb decides whether its endpoint in the client's module
can be called at all, and with which verb and path.
-/

namespace ControllerClient

open Entries (ofFields)

namespace Controller

theorem exists_class_of_ofSource {file source : Text} {controller : Controller}
    (accepted : ofSource file source = .ok controller) :
    ∃ statements found, Source.read source = .ok statements ∧
      findClass? statements = some found ∧
        controller.endpoints = Table.ofList (found.body.filterMap endpoint?) := by
  obtain ⟨statements, reads, described⟩ := exists_statements_of_ofSource accepted
  obtain ⟨found, finds, same⟩ := Option.bind_eq_some_iff.mp described
  cases same
  exact ⟨statements, found, reads, finds, rfl⟩

theorem lookup_ofTexts (wholePrefix : Text) (controller : Controller) (name : Text) :
    (BoundEndpoint.ofTexts wholePrefix controller.texts).lookup name =
      (controller.endpoints.lookup name).map fun route =>
        ⟨.str route.verb, wholePrefix ++ route.path⟩ := by
  unfold BoundEndpoint.ofTexts texts
  rw [List.map_map]
  induction controller.endpoints with
  | nil => rfl
  | cons entry entries ih =>
      rw [List.map_cons, List.lookup_cons, List.lookup_cons, ih]
      by_cases same : name = entry.1
      · simp [same]
      · simp [beq_false_of_ne same]

theorem isWildcard_of_isCallable {route : MethodRoute} (callable : IsCallable route)
    (address : Text) :
    ({ verb := .str route.verb, url := address } : BoundEndpoint).isWildcard = false := by
  have each : ∀ verb ∈ endpointVerbs, decide (verb = wildcardVerb) = false := by decide
  exact each route.verb callable.verb

/--
The client of a source text that describes a controller: each name in its table is that of a
method, whose last definition gives the endpoint of the name its verb and its path.
-/
theorem exists_client_of_ofSource {disk : Disk} {config : Config}
    {file source base routePrefix : Text} {controller : Controller}
    (accepted : ofSource file source = .ok controller)
    (placed : controller.prefixAt disk config file = .ok routePrefix)
    (based : config.base = .str base) :
    ∃ statements found, ∃ code : Text, ∃ module : ClientModule, ∃ endpoints : Table BoundEndpoint,
      Source.read source = .ok statements ∧ findClass? statements = some found ∧
        clientCode disk config file source = .ok code ∧
        ClientModule.ofCode code = .ok module ∧
        module.members.lookup "default".toList = some (.table endpoints) ∧
        ∀ name ∈ controller.endpoints.map (·.1), ∃ decorators,
          IsLastDefinition name decorators found.body ∧
            controller.endpoints.lookup name = some (methodRoute decorators) ∧
            endpoints.lookup name = some ⟨.str (methodRoute decorators).verb,
              base ++ routePrefix ++ (methodRoute decorators).path⟩ := by
  have named := isWellNamed_ofSource accepted
  have built := clientCode_texts accepted placed based
  obtain ⟨module, runs, binds, _⟩ := ClientModule.ofCode_texts (base ++ routePrefix)
    controller.texts (some controller.name) named.isBare_name named.nodup_texts
    named.normalized_texts named.offerName_notMem
  obtain ⟨statements, found, reads, finds, table⟩ := exists_class_of_ofSource accepted
  refine ⟨statements, found, _, module, _, reads, finds, built, runs, binds.table, ?_⟩
  intro name present
  obtain ⟨entry, inTable, rfl⟩ := List.mem_map.mp present
  have ordinary := named.ordinary entry inTable
  rw [table] at present
  obtain ⟨decorators, last, route⟩ := exists_route_of_mem ordinary present
  rw [← table] at route
  refine ⟨decorators, last, route, ?_⟩
  rw [lookup_ofTexts, route]
  rfl

/--
The way of a wildcard through a client, for any source text that describes a controller, in a
place that gives it a prefix, with any text as base. Each name in the table is defined last with
some decorators. If the first of them that asks for a verb has a literal with a wildcard in front,
a call of the endpoint in the module hands the refusal of its path to the hook for failures, and
nothing else is called. Otherwise the name has one of the verbs and a plain path, and a call is not
refused so unless a function of the caller raises that itself. With simple data and without
options it fetches once, at the address that the data make of the template, with what the first
hook leaves of the options, and so with the verb unless the hook changes it; but a whole number of
too many digits among the data is handed as a failure to the hook for failures, and then nothing
else is called either.
-/
theorem call_lastDefinition {disk : Disk} {config : Config} {file source base routePrefix : Text}
    {controller : Controller} (accepted : ofSource file source = .ok controller)
    (placed : controller.prefixAt disk config file = .ok routePrefix)
    (based : config.base = .str base) :
    ∃ statements found, ∃ code : Text, ∃ module : ClientModule, ∃ endpoints : Table BoundEndpoint,
      Source.read source = .ok statements ∧ findClass? statements = some found ∧
        clientCode disk config file source = .ok code ∧
        ClientModule.ofCode code = .ok module ∧
        module.members.lookup "default".toList = some (.table endpoints) ∧
        ∀ name ∈ controller.endpoints.map (·.1), ∃ decorators route endpoint,
          IsLastDefinition name decorators found.body ∧
          controller.endpoints.lookup name = some route ∧
          endpoints.lookup name = some endpoint ∧
          (HasWildcard decorators →
            route = ⟨"PATH_HAS_WILDCARD".toList, []⟩ ∧
              ∀ (hooks : Hooks) (fetch : Fetch) (data options : Value),
                endpoint.call hooks fetch data options =
                  ⟨[.errorCaptured (.unsupportedRoute (base ++ routePrefix))],
                    hooks.runErrorCaptured (.unsupportedRoute (base ++ routePrefix))⟩) ∧
          (¬ HasWildcard decorators →
            IsCallable route ∧
              (∀ (hooks : Hooks) (fetch : Fetch) (data options : Value) (url : Text),
                .errorCaptured (.unsupportedRoute url) ∈
                    (endpoint.call hooks fetch data options).events →
                  BoundEndpoint.RaisedByCaller hooks fetch url) ∧
              ∀ (fields : Table Value) (hooks : Hooks) (fetch : Fetch),
                (fields.map (·.1)).Nodup → (∀ field ∈ fields, field.2.IsSimple) →
                ((∀ field ∈ fields, field.2.isShowable = true) →
                  ∀ (changed : Entries) (method : Value),
                    hooks.runBeforeRequest [(.str "method".toList, .str route.verb)] =
                        .ok changed →
                    Options.method changed = .ok method →
                    ∃ request,
                      Request.build (Route.Segment.split (base ++ routePrefix ++ route.path))
                          (.str route.verb) (.dict (ofFields fields)) = .ok request ∧
                        BoundEndpoint.fetchesOf
                            (endpoint.call hooks fetch (.dict (ofFields fields)) .null).events =
                          [(request.url, Options.withBody changed request.body)] ∧
                        ((∀ value, (.str "method".toList, value) ∈ changed →
                            value = .str route.verb) →
                          Options.method (Options.withBody changed request.body) =
                            .ok (.str route.verb))) ∧
                ((∃ field ∈ fields, field.2.isShowable = false) →
                  endpoint.call hooks fetch (.dict (ofFields fields)) .null =
                    ⟨[.errorCaptured (.shape (.digitLimit none))],
                      hooks.runErrorCaptured (.shape (.digitLimit none))⟩)) := by
  obtain ⟨statements, found, code, module, endpoints, reads, finds, built, runs, table, each⟩ :=
    exists_client_of_ofSource accepted placed based
  refine ⟨statements, found, code, module, endpoints, reads, finds, built, runs, table, ?_⟩
  intro name present
  obtain ⟨decorators, last, route, bound⟩ := each name present
  refine ⟨decorators, _, _, last, route, bound, ?_, ?_⟩
  · intro wildcard
    have marked := methodRoute_of_hasWildcard wildcard
    have refused :
        (⟨.str wildcardVerb, base ++ routePrefix⟩ : BoundEndpoint).isWildcard = true := rfl
    refine ⟨marked, fun hooks fetch data options => ?_⟩
    simp only [marked, List.append_nil]
    exact BoundEndpoint.call_wildcard refused
  · intro plain
    have callable := isCallable_methodRoute plain
    have accepts := isWildcard_of_isCallable callable
      (base ++ routePrefix ++ (methodRoute decorators).path)
    refine ⟨callable, fun hooks fetch data options url => ?_, ?_⟩
    · exact BoundEndpoint.raisedByCaller_of_errorCaptured accepts
    · intro fields hooks fetch distinct simple
      refine ⟨fun short changed method passed kept => ?_, fun long => ?_⟩
      · obtain ⟨request, builds, fetches⟩ := BoundEndpoint.fetchesOf_call_null rfl accepts distinct
          (fun field inside => .simple (simple field inside)) short passed kept fetch
        exact ⟨request, builds, fetches, fun left =>
          Options.method_withBody kept left request.body⟩
      · exact BoundEndpoint.call_null_of_long rfl accepts distinct simple long hooks fetch

/-- A wildcard in one method, and a plain template behind one in another. -/
def wildcardSource : Text :=
  ("@Controller('/x')\nclass A:\n @Get('/files/*')\n def files(self): pass\n" ++
    " @web.put('a/:id')\n @Get('/*')\n def change(self): pass\ndefine_expose(A)\n").toList

def wildcardController : Controller :=
  ⟨"A".toList, .written "/x".toList,
    [("files".toList, ⟨"PATH_HAS_WILDCARD".toList, []⟩),
      ("change".toList, ⟨"PUT".toList, "/a/:id".toList⟩)]⟩

def wildcardConfig : Config :=
  .ofEntries (.absolute []) [(.str "base".toList, .str "/api".toList)]

theorem ofSource_wildcardSource :
    ofSource "a.py".toList wildcardSource = .ok wildcardController := by
  have described : (ofSource "a.py".toList wildcardSource).toOption = some wildcardController := by
    decide +kernel
  cases accepted : ofSource "a.py".toList wildcardSource with
  | error failure =>
      rw [accepted] at described
      cases described
  | ok controller =>
      rw [accepted] at described
      rw [Option.some.inj described]

/-- Only the first decorator of a verb counts: one method is refused, the other one is fetched. -/
theorem call_lastDefinition_first :
    ∃ endpoints : Table BoundEndpoint, ∃ files change : BoundEndpoint,
      endpoints.lookup "files".toList = some files ∧
        endpoints.lookup "change".toList = some change ∧
        (∀ (hooks : Hooks) (fetch : Fetch) (data options : Value),
          files.call hooks fetch data options =
            ⟨[.errorCaptured (.unsupportedRoute "/api/x".toList)],
              hooks.runErrorCaptured (.unsupportedRoute "/api/x".toList)⟩) ∧
        ∀ fetch : Fetch, ∃ request,
          Request.build [.literal "/api/x/a".toList, .literal "/".toList, .parameter "id".toList]
              (.str "PUT".toList) (.dict (ofFields [("id".toList, .int 7)])) = .ok request ∧
            BoundEndpoint.fetchesOf
                (change.call {} fetch (.dict (ofFields [("id".toList, .int 7)])) .null).events =
              [(request.url,
                Options.withBody [(.str "method".toList, .str "PUT".toList)] request.body)] := by
  obtain ⟨_, _, _, _, endpoints, _, _, _, _, _, each⟩ :=
    @call_lastDefinition .empty wildcardConfig _ _ "/api".toList "/x".toList _
      ofSource_wildcardSource rfl rfl
  obtain ⟨_, _, files, _, filesRoute, filesBound, refused, plainFiles⟩ :=
    each "files".toList (by decide)
  obtain ⟨_, _, change, _, changeRoute, changeBound, marked, plainChange⟩ :=
    each "change".toList (by decide)
  cases filesRoute
  cases changeRoute
  refine ⟨endpoints, files, change, filesBound, changeBound, ?_, ?_⟩
  · apply (refused _).2
    by_contra plain
    exact absurd (plainFiles plain).1.verb (by decide)
  · intro fetch
    have plain := mt (fun wildcard => (marked wildcard).1) (by decide)
    have few : Text.HasFewDigits 7 := Text.hasFewDigits_of_natAbs_le (by decide)
    obtain ⟨_, _, calls⟩ := plainChange plain
    obtain ⟨fetches, _⟩ := calls [("id".toList, .int 7)] {} fetch (by decide)
      (by simpa using Value.IsSimple.int 7)
    obtain ⟨request, builds, fetched, _⟩ := fetches (by simpa [Value.isShowable] using few) _ _
      rfl rfl
    have split : Route.Segment.split ("/api".toList ++ "/x".toList ++ "/a/:id".toList) =
        [.literal "/api/x/a".toList, .literal "/".toList, .parameter "id".toList] := by
      cbv
    rw [split] at builds
    exact ⟨request, builds, fetched⟩

/-- A method without a wildcard is not fetched with a number of one digit more than are written. -/
theorem call_change_of_long :
    ∃ statements found, ∃ code : Text, ∃ module : ClientModule, ∃ endpoints : Table BoundEndpoint,
      Source.read wildcardSource = .ok statements ∧ findClass? statements = some found ∧
        clientCode .empty wildcardConfig "a.py".toList wildcardSource = .ok code ∧
        ClientModule.ofCode code = .ok module ∧
        module.members.lookup "default".toList = some (.table endpoints) ∧
        ∃ decorators change,
          IsLastDefinition "change".toList decorators found.body ∧ ¬ HasWildcard decorators ∧
            endpoints.lookup "change".toList = some change ∧
            ∀ fetch : Fetch,
              BoundEndpoint.fetchesOf (change.call {} fetch
                  (.dict (ofFields [("id".toList, .int (10 ^ Text.digitLimit))])) .null).events =
                [] := by
  obtain ⟨statements, found, code, module, endpoints, reads, finds, built, runs, table, each⟩ :=
    @exists_client_of_ofSource .empty wildcardConfig _ _ "/api".toList "/x".toList _
      ofSource_wildcardSource rfl rfl
  obtain ⟨decorators, last, route, bound⟩ := each "change".toList (by decide)
  have put : methodRoute decorators = ⟨"PUT".toList, "/a/:id".toList⟩ :=
    Option.some.inj (route.symm.trans (by decide))
  have plain : ¬ HasWildcard decorators := by
    intro wildcard
    rw [methodRoute_of_hasWildcard wildcard] at put
    exact absurd (congrArg MethodRoute.verb put) (by decide)
  have long : (Value.int (10 ^ Text.digitLimit)).isShowable = false :=
    decide_eq_false Text.not_hasFewDigits_pow
  refine ⟨statements, found, code, module, endpoints, reads, finds, built, runs, table,
    decorators, _, last, plain, bound, fun fetch => ?_⟩
  rw [BoundEndpoint.call_null_of_long rfl (isWildcard_of_isCallable (isCallable_methodRoute plain) _)
    (by decide) (by simpa using Value.IsSimple.int _) ⟨_, List.mem_singleton_self _, long⟩]
  rfl

end Controller

end ControllerClient
