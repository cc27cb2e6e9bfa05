import ControllerClient.Proofs.Client.ReadBack
import ControllerClient.Proofs.Controller.Names
import ControllerClient.Workspace

/-!
The text of a client run as a module. Its table holds the endpoints that the
controller has, its names stand for endpoints of the table, and a call through
the module is the same call as one through a table that is made directly.
-/

namespace ControllerClient

open Source Source.Lexer

namespace BoundEndpoint

/-! ### Endpoints of texts -/

def ofTexts (wholePrefix : Text) (items : List PairEntry) : Table BoundEndpoint :=
  items.map fun item => (item.1, ⟨.str item.2.1, wholePrefix ++ item.2.2⟩)

theorem ofRows_texts (wholePrefix : Text) (items : List PairEntry) :
    ofRows (.str wholePrefix) (Client.textRows items) = .ok (ofTexts wholePrefix items) := by
  induction items with
  | nil => rfl
  | cons item items ih =>
      unfold Client.textRows at ih
      rw [Client.textRows, List.map_cons, ofRows, ih]
      rfl

theorem names_ofTexts (wholePrefix : Text) (items : List PairEntry) :
    (ofTexts wholePrefix items).map (·.1) = items.map (·.1) := by
  rw [ofTexts, List.map_map]
  rfl

theorem exists_lookup_ofTexts (wholePrefix : Text) {items : List PairEntry} {name : Text}
    (present : name ∈ items.map (·.1)) :
    ∃ endpoint, (ofTexts wholePrefix items).lookup name = some endpoint := by
  apply Option.ne_none_iff_exists'.mp
  intro absent
  rw [List.lookup_eq_none_iff] at absent
  rw [← names_ofTexts wholePrefix] at present
  obtain ⟨entry, inTable, same⟩ := List.mem_map.mp present
  have differ := absent entry inTable
  rw [same, bne_self_eq_false] at differ
  cases differ

end BoundEndpoint

namespace ClientModule

open Client

theorem rows?_texts (items : List PairEntry) :
    rows? (items.map fun item => (.str item.1, .tuple [.str item.2.1, .str item.2.2])) =
      some (textRows items) := by
  induction items with
  | nil => rfl
  | cons item items ih =>
      rw [List.map_cons, rows?, ih]
      rfl

theorem makeTable_texts (wholePrefix : Text) (items : List PairEntry)
    (distinct : (items.map (·.1)).Nodup) :
    makeTable (textExpr wholePrefix) (.dict (items.map entryExpr)) =
      .ok (.table (BoundEndpoint.ofTexts wholePrefix items)) := by
  have routePrefix : (textExpr wholePrefix).value? = some (.str wholePrefix) := rfl
  have table := value?_pairs items distinct
  unfold pairsValue at table
  unfold makeTable
  rw [routePrefix, table]
  simp only [rows?_texts, BoundEndpoint.ofRows_texts]
  rfl

/-! ### Names while endpoints are bound -/

/-- The names of a module hold the table, and endpoints of the table under their names. -/
structure Binds (members : Table Member) (endpoints : Table BoundEndpoint) (bound : List Text) :
    Prop where
  table : members.lookup tableName = some (.table endpoints)
  each : ∀ name ∈ bound, ∃ endpoint, endpoints.lookup name = some endpoint ∧
    members.lookup name = some (.endpoint name endpoint)

variable {members : Table Member} {endpoints : Table BoundEndpoint} {bound : List Text}

theorem Binds.insert_other (binds : Binds members endpoints bound) {name : Text}
    (free : tableName ≠ name) (unbound : name ∉ bound) (meaning : Member) :
    Binds (members.insert name meaning) endpoints bound := by
  refine ⟨?_, ?_⟩
  · rw [Table.lookup_insert_of_ne members meaning free]
    exact binds.table
  · intro other present
    obtain ⟨endpoint, found, member⟩ := binds.each other present
    have differ : other ≠ name := fun same => unbound (same ▸ present)
    refine ⟨endpoint, found, ?_⟩
    rw [Table.lookup_insert_of_ne members meaning differ]
    exact member

theorem Binds.insert_endpoint (binds : Binds members endpoints bound) {name : Text}
    (free : tableName ≠ name) {endpoint : BoundEndpoint}
    (found : endpoints.lookup name = some endpoint) :
    Binds (members.insert name (.endpoint name endpoint)) endpoints (name :: bound) := by
  refine ⟨?_, ?_⟩
  · rw [Table.lookup_insert_of_ne members _ free]
    exact binds.table
  · intro other present
    by_cases same : other = name
    · rw [same]
      exact ⟨endpoint, found, Table.lookup_insert_self members name _⟩
    · rcases List.mem_cons.mp present with here | later
      · exact absurd here same
      · obtain ⟨before, inTable, member⟩ := binds.each other later
        refine ⟨before, inTable, ?_⟩
        rw [Table.lookup_insert_of_ne members _ same]
        exact member

theorem runStatement_binding (binds : Binds members endpoints bound) {identifier : Identifier}
    (normal : identifier.name = identifier.spelling) {endpoint : BoundEndpoint}
    (found : endpoints.lookup identifier.spelling = some endpoint) :
    runStatement members (binding identifier).2 =
      .ok (members.insert identifier.spelling (.endpoint identifier.spelling endpoint)) := by
  have value : evaluate members (memberExpr identifier.spelling) =
      .ok (.endpoint identifier.spelling endpoint) := by
    unfold memberExpr textExpr evaluate
    simp only [binds.table, found]
  change (evaluate members (memberExpr identifier.spelling)).bind
    (fun member => .ok (members.insert identifier.name member)) = _
  rw [value, normal]
  rfl

/-- The lines that bind endpoints bind all of them. -/
theorem runStatements_bindings (identifiers : List Identifier)
    (binds : Binds members endpoints bound)
    (normal : ∀ identifier ∈ identifiers, identifier.name = identifier.spelling)
    (free : ∀ identifier ∈ identifiers, tableName ≠ identifier.spelling)
    (found : ∀ identifier ∈ identifiers, ∃ endpoint,
      endpoints.lookup identifier.spelling = some endpoint) (later : List Stmt) :
    ∃ after, runStatements members (identifiers.map (fun identifier => (binding identifier).2) ++
        later) = runStatements after later ∧
      Binds after endpoints ((identifiers.map (·.spelling)).reverse ++ bound) := by
  induction identifiers generalizing members bound with
  | nil => exact ⟨members, rfl, binds⟩
  | cons first identifiers ih =>
      -- The table is looked up by its own name, so `Binds` has to survive the new name: that is
      -- what keeps every later line from reading something else there.
      obtain ⟨endpoint, inTable⟩ := found first List.mem_cons_self
      have step := runStatement_binding binds (normal first List.mem_cons_self) inTable
      have bound := binds.insert_endpoint (free first List.mem_cons_self) inTable
      obtain ⟨after, runs, binds⟩ := ih bound
        (fun other present => normal other (List.mem_cons_of_mem first present))
        (fun other present => free other (List.mem_cons_of_mem first present))
        (fun other present => found other (List.mem_cons_of_mem first present))
      refine ⟨after, ?_, ?_⟩
      · rw [List.map_cons, List.cons_append, runStatements, step]
        exact runs
      · rw [List.map_cons, List.reverse_cons, List.append_assoc]
        exact binds

/-! ### Whole modules -/

section Texts

variable (wholePrefix : Text) (items : List PairEntry) (controller : Option Text)

theorem runStatements_table (distinct : (items.map (·.1)).Nodup) (later : List Stmt) :
    ∃ members, runStatements [] ((ofTexts wholePrefix items controller).docLine.2 ::
        makerImport.2 :: (tableAssignment wholePrefix items).2 :: later) =
          runStatements members later ∧
      Binds members (BoundEndpoint.ofTexts wholePrefix items) [] := by
  let maker : Table Member := [(makerName, .maker)]
  let members := maker.insert tableName (.table (BoundEndpoint.ofTexts wholePrefix items))
  have table : evaluate maker (tableExpr wholePrefix items) =
      .ok (.table (BoundEndpoint.ofTexts wholePrefix items)) :=
    makeTable_texts wholePrefix items distinct
  have assigned : runStatement maker (tableAssignment wholePrefix items).2 = .ok members := by
    change (evaluate maker (tableExpr wholePrefix items)).bind
      (fun member => .ok (maker.insert tableIdentifier.name member)) = _
    rw [table]
    rfl
  refine ⟨members, ?_, ?_, ?_⟩
  · change (runStatement maker (tableAssignment wholePrefix items).2).bind
      (fun members => runStatements members later) = _
    rw [assigned]
    rfl
  · exact Table.lookup_insert_self maker tableName _
  · intro name present
    cases present

theorem runStatements_offer (members : Table Member) (names : List Text) :
    runStatements members [(offer names).2] =
      .ok (members.insert offerName (.value (.list ((tableName :: names).map .str)))) := by
  have value : evaluate members (.list ((tableName :: names).map textExpr)) =
      .ok (.value (.list ((tableName :: names).map .str))) := by
    unfold evaluate
    simp only [value?_texts]
  change ((evaluate members (.list ((tableName :: names).map textExpr))).bind
    (fun member => .ok (members.insert offerIdentifier.name member))).bind Except.ok = _
  rw [value]
  rfl

/--
The text of a client of texts runs, and the module binds the table, every endpoint that can
have a name of its own, and the list of what it offers.
-/
theorem ofCode_texts (bare : ∀ name ∈ controller, IsBare name)
    (distinct : (items.map (·.1)).Nodup)
    (normal : ∀ name ∈ items.map (·.1), Text.normalized name = name)
    (unoffered : offerName ∉ items.map (·.1)) :
    ∃ module : ClientModule,
      ofCode (ofTexts wholePrefix items controller).code = .ok module ∧
        Binds module.members (BoundEndpoint.ofTexts wholePrefix items)
          ((items.map (·.1)).filter isBindable) ∧
        module.members.lookup offerName = some (.value (.list
          ((tableName :: (items.map (·.1)).filter isBindable).map .str))) := by
  let names := (items.map (·.1)).filter isBindable
  have bindable : ∀ name ∈ names, isBindable name = true :=
    fun name present => (List.mem_filter.mp present).2
  have inTable : ∀ identifier ∈ identifiersOf names, identifier.spelling ∈ items.map (·.1) :=
    fun identifier present => (List.mem_filter.mp (spelling_mem_of_mem_identifiersOf present)).1
  have free : ∀ identifier ∈ identifiersOf names, tableName ≠ identifier.spelling := by
    intro identifier present same
    have named := bindable identifier.spelling (spelling_mem_of_mem_identifiersOf present)
    rw [← same] at named
    cases named
  obtain ⟨front, runsFront, table⟩ := runStatements_table wholePrefix items controller distinct
    ((identifiersOf names).map (fun identifier => (binding identifier).2) ++ [(offer names).2])
  obtain ⟨middle, runsMiddle, binds⟩ := runStatements_bindings (identifiersOf names) table
    (fun identifier present => normal identifier.spelling (inTable identifier present)) free
    (fun identifier present => BoundEndpoint.exists_lookup_ofTexts wholePrefix
      (inTable identifier present)) [(offer names).2]
  have whole : runStatements [] ((lines wholePrefix items controller).map (·.2)) =
      .ok (middle.insert offerName (.value (.list ((tableName :: names).map .str)))) := by
    have shape : (lines wholePrefix items controller).map (·.2) =
        (ofTexts wholePrefix items controller).docLine.2 :: makerImport.2 ::
          (tableAssignment wholePrefix items).2 ::
            ((identifiersOf names).map (fun identifier => (binding identifier).2) ++
              [(offer names).2]) := by
      simp only [lines, List.map_append, List.map_cons, List.map_nil, List.map_map]
      rfl
    rw [shape, runsFront, runsMiddle, runStatements_offer]
  have bound : Binds middle (BoundEndpoint.ofTexts wholePrefix items) names := by
    refine ⟨binds.table, fun name present => binds.each name ?_⟩
    rw [map_spelling_identifiersOf bindable, List.append_nil]
    exact List.mem_reverse.mpr present
  have unbound : offerName ∉ names := fun present => unoffered (List.mem_filter.mp present).1
  refine ⟨⟨docOf ((lines wholePrefix items controller).map (·.2)), _⟩, ?_,
    bound.insert_other (by decide) unbound _, Table.lookup_insert_self middle offerName _⟩
  unfold ofCode
  rw [read_code wholePrefix items controller bare]
  change (runStatements [] ((lines wholePrefix items controller).map (·.2))).bind _ = _
  rw [whole]
  rfl

end Texts

end ClientModule

namespace Session

/-- A table that was made directly is called as the endpoints in a module are. -/
theorem create_call {prefixUrl : Value} {rows : Table Value} {endpoints : Table BoundEndpoint}
    (made : BoundEndpoint.ofRows prefixUrl rows = .ok endpoints) (session : Session) :
    ∃ created : Session, session.create prefixUrl rows none none = .ok created ∧
      ∀ (network : Fetch) (workspace : Workspace) (name : Text) (data options : Value),
        workspace.session.apis = created.apis →
          (workspace.session.step network (.call session.apis.length name data options)).2 =
            match endpoints.lookup name with
            | some endpoint =>
              .called (workspace.call network endpoint data options).events
                (workspace.call network endpoint data options).result
            | none => .failed (.missingKey (.str name)) := by
  refine ⟨{ session with apis := session.apis ++ [⟨endpoints, Session.sharedHooks, none⟩] },
    ?_, ?_⟩
  · unfold Session.create
    rw [made]
    rfl
  · intro network workspace name data options same
    have found : workspace.session.apis[session.apis.length]? =
        some ⟨endpoints, Session.sharedHooks, none⟩ := by
      rw [same, List.getElem?_concat_length]
    unfold Session.step
    simp only [found]
    cases endpoints.lookup name with
    | none => rfl
    | some endpoint => rfl

end Session

namespace Controller

open Client

def texts (controller : Controller) : List PairEntry :=
  controller.endpoints.map fun entry => (entry.1, entry.2.verb, entry.2.path)

theorem textRows_texts (controller : Controller) :
    textRows controller.texts = controller.rows := by
  rw [textRows, texts, List.map_map]
  rfl

theorem names_texts (controller : Controller) :
    controller.texts.map (·.1) = controller.endpoints.map (·.1) := by
  rw [texts, List.map_map]
  rfl

theorem IsWellNamed.nodup_texts {controller : Controller} (named : controller.IsWellNamed) :
    (controller.texts.map (·.1)).Nodup := by
  rw [names_texts]
  exact named.distinct

theorem IsWellNamed.normalized_texts {controller : Controller} (named : controller.IsWellNamed) :
    ∀ name ∈ controller.texts.map (·.1), Text.normalized name = name := by
  intro name present
  rw [names_texts] at present
  obtain ⟨entry, inTable, rfl⟩ := List.mem_map.mp present
  obtain ⟨identifier, same⟩ := named.endpointNamed entry inTable
  rw [← same]
  exact identifier.normalized_name

theorem IsWellNamed.offerName_notMem {controller : Controller} (named : controller.IsWellNamed) :
    ClientModule.offerName ∉ controller.texts.map (·.1) := by
  intro present
  rw [names_texts] at present
  obtain ⟨entry, inTable, same⟩ := List.mem_map.mp present
  have ordinary := named.ordinary entry inTable
  rw [same] at ordinary
  cases ordinary

theorem IsWellNamed.isBare_name {controller : Controller} (named : controller.IsWellNamed) :
    ∀ name ∈ some controller.name, IsBare name := by
  rintro name ⟨⟩
  obtain ⟨identifier, same⟩ := named.named
  rw [← same]
  exact identifier.isBare_name

theorem ofRows_texts (wholePrefix : Text) (controller : Controller) :
    BoundEndpoint.ofRows (.str wholePrefix) controller.rows =
      .ok (BoundEndpoint.ofTexts wholePrefix controller.texts) := by
  rw [← textRows_texts]
  exact BoundEndpoint.ofRows_texts _ _

theorem clientCode_texts {disk : Disk} {config : Config} {file source base routePrefix : Text}
    {controller : Controller} (accepted : ofSource file source = .ok controller)
    (placed : controller.prefixAt disk config file = .ok routePrefix)
    (based : config.base = .str base) :
    clientCode disk config file source =
      .ok (ofTexts (base ++ routePrefix) controller.texts (some controller.name)).code := by
  unfold clientCode Controller.client
  rw [accepted]
  change (controller.prefixAt disk config file).bind _ = _
  rw [placed]
  change (Client.build _ controller.rows config.base _).bind _ = _
  rw [← textRows_texts, based, build_texts]
  rfl

/--
A controller survives the trip through the text of its client. For any source text that
describes a controller, in a place that gives it a prefix, and any text as base, the client's
text is made and runs. The module's table holds the endpoints, in their order, that a table
made directly of base, prefix and rows holds, and in every state of hooks and network a call
of a key of the module's table has the events and the result of the same call there. Each
endpoint that can have a name of its own is the module's member of that name, and the module
offers the table and these names.
-/
theorem ofCode_clientCode {disk : Disk} {config : Config} {file source base routePrefix : Text}
    {controller : Controller} (accepted : ofSource file source = .ok controller)
    (placed : controller.prefixAt disk config file = .ok routePrefix)
    (based : config.base = .str base) :
    ∃ code : Text, ∃ module : ClientModule, ∃ endpoints : Table BoundEndpoint,
      clientCode disk config file source = .ok code ∧
        ClientModule.ofCode code = .ok module ∧
        module.members.lookup "default".toList = some (.table endpoints) ∧
        endpoints.map (·.1) = controller.endpoints.map (·.1) ∧
        BoundEndpoint.ofRows (.str (base ++ routePrefix)) controller.rows = .ok endpoints ∧
        (∀ session : Session, ∃ created : Session,
          session.create (.str (base ++ routePrefix)) controller.rows none none = .ok created ∧
            ∀ (network : Fetch) (workspace : Workspace) (name : Text) (data options : Value),
              workspace.session.apis = created.apis →
                (workspace.session.step network (.call session.apis.length name data options)).2 =
                  match endpoints.lookup name with
                  | some endpoint =>
                    .called (workspace.call network endpoint data options).events
                      (workspace.call network endpoint data options).result
                  | none => .failed (.missingKey (.str name))) ∧
        (∀ name ∈ controller.endpoints.map (·.1), isBindable name = true →
          ∃ endpoint, endpoints.lookup name = some endpoint ∧
            module.members.lookup name = some (.endpoint name endpoint)) ∧
        module.members.lookup "__all__".toList = some (.value (.list (.str "default".toList ::
          ((controller.endpoints.map (·.1)).filter isBindable).map .str))) := by
  have named := isWellNamed_ofSource accepted
  have built := clientCode_texts accepted placed based
  have made := ofRows_texts (base ++ routePrefix) controller
  obtain ⟨module, runs, binds, offered⟩ := ClientModule.ofCode_texts (base ++ routePrefix)
    controller.texts (some controller.name) named.isBare_name named.nodup_texts
    named.normalized_texts named.offerName_notMem
  rw [names_texts] at binds offered
  refine ⟨_, module, _, built, runs, binds.table, ?_, made, Session.create_call made, ?_, offered⟩
  · rw [BoundEndpoint.names_ofTexts, names_texts]
  · intro name present bindable
    exact binds.each name (List.mem_filter.mpr ⟨present, bindable⟩)

/-- A controller whose second method is named like the table, and its third like a reserved word. -/
def reservedSource : Text :=
  ("@Controller('/x')\nclass A:\n @Get('/g')\n def go(self): pass\n" ++
    " def default(self): pass\n def ｄｅｆ(self): pass\ndefine_expose(A)\n").toList

/-- Methods that are named like the table or a reserved word are endpoints without names. -/
theorem ofCode_clientCode_reserved :
    ∃ code : Text, ∃ module : ClientModule, ∃ endpoints : Table BoundEndpoint,
      clientCode .empty (.ofEntries (.absolute []) [(.str "base".toList, .str "/api".toList)])
          "a.py".toList reservedSource = .ok code ∧
        ClientModule.ofCode code = .ok module ∧
        module.members.lookup "default".toList = some (.table endpoints) ∧
        endpoints.map (·.1) = ["go".toList, "default".toList, "def".toList] ∧
        module.members.lookup "__all__".toList =
          some (.value (.list [.str "default".toList, .str "go".toList])) := by
  have described : (ofSource "a.py".toList reservedSource).toOption =
      some ⟨"A".toList, .written "/x".toList, [("go".toList, ⟨"GET".toList, "/g".toList⟩),
        ("default".toList, ⟨"GET".toList, []⟩), ("def".toList, ⟨"GET".toList, []⟩)]⟩ := by
    decide +kernel
  cases accepted : ofSource "a.py".toList reservedSource with
  | error failure =>
      rw [accepted] at described
      cases described
  | ok controller =>
      rw [accepted] at described
      cases Option.some.inj described
      obtain ⟨code, module, endpoints, made, runs, table, names, _, _, _, offered⟩ :=
        @ofCode_clientCode .empty (.ofEntries (.absolute []) [(.str "base".toList, .str "/api".toList)])
          "a.py".toList reservedSource "/api".toList "/x".toList _ accepted rfl rfl
      exact ⟨code, module, endpoints, made, runs, table, names, offered⟩

end Controller

end ControllerClient
