import ControllerClient.Proofs.Client.Code

/-!
The text of a client reads back. Whatever texts the prefix and the table consist
of, the statements are those of the module and no others, and their literals
stand for the prefix and the table.
-/

namespace ControllerClient.Client

open Source Source.Lexer

section Texts

variable (wholePrefix : Text) (items : List PairEntry) (controller : Option Text)

theorem scansLines_code (bare : ∀ name ∈ controller, IsBare name) :
    ScansLines (ofTexts wholePrefix items controller).code
      ((lines wholePrefix items controller).flatMap (·.1)) := by
  let client := ofTexts wholePrefix items controller
  have title := scansLines_title client (plain_docText client bare)
  have table := scansLines_table wholePrefix items controller
  have bindable : ∀ name ∈ client.names, isBindable name = true :=
    fun name present => (List.mem_filter.mp present).2
  have bindings : ScansLines (client.names.flatMap bindingLine)
      ((identifiersOf client.names).flatMap fun identifier => (binding identifier).1) := by
    have each := ScansLines.flatMap (identifiersOf client.names) fun identifier present =>
      scansLines_binding (free_of_mem_identifiersOf bindable present)
    rw [← List.flatMap_map, map_spelling_identifiersOf bindable] at each
    exact each
  have front := (title.append (ScansLines.empty.append scansLines_import)).append
    (ScansLines.empty.append table)
  have whole := (front.append (ScansLines.empty.append bindings)).append
    (ScansLines.empty.append (scansLines_offer client))
  have tokens : (lines wholePrefix items controller).flatMap (·.1) =
      client.docLine.1 ++ makerImport.1 ++ (tableAssignment wholePrefix items).1 ++
        ((identifiersOf client.names).flatMap fun identifier => (binding identifier).1) ++
        (offer client.names).1 := by
    simp only [lines, List.flatMap_append, List.flatMap_cons, List.flatMap_nil, List.flatMap_map,
      List.append_assoc, List.append_nil]
    rfl
  rw [tokens]
  exact whole

theorem isReadable_code (bare : ∀ name ∈ controller, IsBare name) :
    ∀ c ∈ (ofTexts wholePrefix items controller).code, IsReadable c := by
  let client := ofTexts wholePrefix items controller
  have title := isReadable_titleLine client bare
  have maker : ∀ c ∈ '\n' :: importLine, IsReadable c :=
    Text.forall_mem_of_all (by decide)
  have lineEnd : ∀ c ∈ ['\n'], IsReadable c :=
    Text.forall_mem_of_all (by decide)
  have table := isReadable_append lineEnd (isReadable_tableLine wholePrefix items controller)
  have bindings : ∀ c ∈ client.names.flatMap bindingLine, IsReadable c := by
    intro c present
    obtain ⟨name, offered, inside⟩ := List.mem_flatMap.mp present
    have bindable := (List.mem_filter.mp offered).2
    unfold isBindable isName at bindable
    rw [Bool.and_eq_true, Bool.and_eq_true] at bindable
    exact isReadable_bindingLine bindable.1.1 c inside
  have offer := isReadable_append lineEnd (isReadable_offerLine client)
  exact isReadable_append (isReadable_append (isReadable_append (isReadable_append title maker)
    table) (isReadable_append lineEnd bindings)) offer

theorem getLast?_code (client : Client) : client.code.getLast? = some '\n' := by
  have offer : '\n' :: client.offerLine =
      '\n' :: ("__all__ = ".toList ++ (Value.list (client.offered.map .str)).shown) ++ ['\n'] := rfl
  unfold code
  rw [offer, ← List.append_assoc]
  exact List.getLast?_concat

theorem length_le_joined (separator : Text) (pieces : List Text)
    (filled : ∀ piece ∈ pieces, piece ≠ []) :
    pieces.length ≤ (Text.joined separator pieces).length := by
  induction pieces with
  | nil => exact Nat.zero_le _
  | cons piece pieces ih =>
      have positive : 0 < piece.length := List.length_pos_iff.mpr (filled piece List.mem_cons_self)
      have later := ih fun other present => filled other (List.mem_cons_of_mem piece present)
      cases pieces with
      | nil => exact positive
      | cons second more =>
          rw [Text.joined_cons_of_ne_nil _ _ (List.cons_ne_nil second more), List.length_append,
            List.length_append]
          rw [List.length_cons]
          omega

theorem length_items_le : items.length ≤ (ofTexts wholePrefix items controller).code.length := by
  have filled : ∀ text ∈ items.map entryText, text ≠ [] := by
    intro text present
    obtain ⟨item, _, rfl⟩ := List.mem_map.mp present
    exact List.cons_ne_nil _ _
  have entries := length_le_joined ", ".toList (items.map entryText) filled
  have shown : (pairsValue items).shown.length =
      (Text.joined ", ".toList (items.map entryText)).length + 2 := by
    rw [shown_pairsValue, List.length_append, List.length_cons]
    rfl
  have table : (pairsValue items).shown.length ≤
      (ofTexts wholePrefix items controller).tableLine.length := by
    unfold tableLine
    rw [tableValue_ofTexts, List.length_append, List.length_append]
    omega
  have code : (ofTexts wholePrefix items controller).tableLine.length ≤
      (ofTexts wholePrefix items controller).code.length := by
    unfold Client.code
    simp only [List.length_append, List.length_cons]
    omega
  rw [List.length_map] at entries
  omega

theorem three_le_length_code (client : Client) : 3 ≤ client.code.length := by
  have long : 3 ≤ importLine.length := by decide
  unfold code
  simp only [List.length_append, List.length_cons]
  omega

theorem length_names_le :
    (ofTexts wholePrefix items controller).names.length ≤
      (ofTexts wholePrefix items controller).code.length := by
  have fewer := List.length_filter_le isBindable (items.map (·.1))
  rw [List.length_map] at fewer
  exact Nat.le_trans fewer (length_items_le wholePrefix items controller)

theorem lines_readLine (bare : ∀ name ∈ controller, IsBare name) :
    ∀ line ∈ lines wholePrefix items controller, ∀ level : BlockLevel,
      level.expressions = Level.ofDepth ((ofTexts wholePrefix items controller).code.length + 1) →
      ReadsLine level line.1 line.2 := by
  have few := length_items_le wholePrefix items controller
  have fewNames := length_names_le wholePrefix items controller
  have plain := plain_docText (ofTexts wholePrefix items controller) bare
  obtain ⟨depth, deep⟩ : ∃ depth, (ofTexts wholePrefix items controller).code.length = depth + 3 :=
    ⟨_, (Nat.sub_add_cancel (three_le_length_code _)).symm⟩
  -- The deepest line, the call with its dictionary of pairs, takes four levels of nesting.
  rw [deep] at few fewNames ⊢
  let inner := Level.ofDepth depth
  have fuel : inner.fuel = depth := Level.fuel_ofDepth depth
  apply forall_mem_lines
  · intro level above
    exact textLine_reads level _ above (Literal.text?_plain fun c inside => (plain c inside).2)
  · intro level above
    have enough : 2 ≤ level.expressions.fuel := by
      rw [above]
      exact Nat.le_add_left 2 (inner.fuel + 2)
    exact importLine_reads level enough packageIdentifier moduleIdentifier originIdentifier
      makerIdentifier
  · intro level above
    exact assignmentLine_reads level _ above tableIdentifier rfl
      (Level.expressionAt_call inner makerIdentifier wholePrefix items (by omega))
  · intro identifier level above
    exact assignmentLine_reads level _ above identifier rfl
      (Level.expressionAt_subscript inner.next.next tableIdentifier identifier.spelling)
  · intro level above
    exact assignmentLine_reads level _ above offerIdentifier rfl
      (Level.expressionAt_texts inner.next.next tableName _ (by
        change _ ≤ inner.fuel + 4
        omega))

theorem lines_nest : ∀ line ∈ lines wholePrefix items controller, Nests 3 0 line.1 0 := by
  have ended (target : Identifier) {tokens : List Token} (value : Expr) (nests : Nests 3 0 tokens 0) :
      Nests 3 0 (assignment target tokens value).1 0 := by
    have newline : Nests 3 0 [.newline] 0 := rfl
    exact Nests.cons rfl (Nests.cons rfl (nests.append newline))
  apply forall_mem_lines
  · rfl
  · rfl
  · exact ended tableIdentifier _ (nests_callTokens makerIdentifier wholePrefix items (by decide))
  · intro identifier
    exact ended identifier _
      (nests_subscriptTokens tableIdentifier identifier.spelling (by decide))
  · exact ended _ _ (nests_textsTokens tableName _ (by decide))

theorem lines_low :
    ∀ line ∈ lines wholePrefix items controller, line.2.height ≤ 5 := by
  apply forall_mem_lines
  · exact Nat.le_add_left 2 3
  · exact Nat.le_add_left 2 3
  · exact height_assigned _ (by decide) (height_call makerName wholePrefix items)
  · intro identifier
    exact Nat.le_add_left 3 2
  · exact Nat.le_trans (height_assigned _ (by decide) (height_texts _)) (Nat.le_add_left 3 2)

/-- The text of a client is read as the statements of its lines. -/
theorem read_code (bare : ∀ name ∈ controller, IsBare name) :
    Source.read (ofTexts wholePrefix items controller).code =
      .ok ((lines wholePrefix items controller).map (·.2)) := by
  have scans := scansLines_code wholePrefix items controller bare
  have readable := isReadable_code wholePrefix items controller bare
  have each := lines_readLine wholePrefix items controller bare
  have low : ∀ line ∈ lines wholePrefix items controller, line.2.height ≤ heightLimit :=
    fun line present => Nat.le_trans (lines_low wholePrefix items controller line present)
      (by decide)
  exact read_lines (lines wholePrefix items controller) scans readable (getLast?_code _) each
    (lines_nest wholePrefix items controller) (by decide) low

end Texts

/--
Generated text decodes to what it was made of. For any texts as base, prefix and table, and
for no controller or an identifier as its name, the text is read as the statements of a
client and as no others, and its literals have the values that went in. No text holds one of the
private characters `10F000` to `10F7FF` as itself: they stand for halves of surrogate pairs.
-/
theorem read_code_build (base routePrefix : Text) (items : List (Text × Text × Text))
    (controller : Option Text) (distinct : (items.map (·.1)).Nodup)
    (named : ∀ name ∈ controller, Text.isIdentifier name = true) :
    ∃ client : Client, ∃ prefixExpr tableExpr offerExpr : Expr, ∃ labels : List (Text × Expr),
      build (.str routePrefix)
          (items.map fun (name, verb, path) => (name, .tuple [.str verb, .str path]))
          (.str base) controller = .ok client ∧
        Source.read client.code = .ok
          ([.expression (.constant (.text ("Client for ".toList ++ client.title ++
                " generated by forget-api. Do not edit.".toList))),
              .importedFrom 0 "forget_api.request".toList
                [⟨"create_apis".toList, some "_create_apis".toList⟩],
              .assigned [.name "default".toList]
                (.call (.name "_create_apis".toList)
                  [.positional prefixExpr, .positional tableExpr])] ++
            (labels.map fun (name, label) =>
              .assigned [.name (Text.normalized name)]
                (.subscript (.name "default".toList) label)) ++
            [.assigned [.name "__all__".toList] offerExpr]) ∧
        labels.map (·.1) = (items.map (·.1)).filter isBindable ∧
        (∀ entry ∈ labels, entry.2.value? = some (.str entry.1)) ∧
        prefixExpr.value? = some (.str (base ++ routePrefix)) ∧
        tableExpr.value? = some (.dict (items.map fun (name, verb, path) =>
          (.str name, .tuple [.str verb, .str path]))) ∧
        offerExpr.value? = some (.list (.str "default".toList ::
          ((items.map (·.1)).filter isBindable).map .str)) := by
  let client := ofTexts (base ++ routePrefix) items controller
  have bare : ∀ name ∈ controller, IsBare name :=
    fun name present => isBare_identifier (named name present)
  have spelled : (identifiersOf client.names).map (·.spelling) = client.names :=
    map_spelling_identifiersOf fun name present => (List.mem_filter.mp present).2
  refine ⟨client, textExpr (base ++ routePrefix), .dict (items.map entryExpr),
    .list ((tableName :: client.names).map textExpr),
    client.names.map fun name => (name, textExpr name), ?_, ?_, ?_, ?_, rfl, ?_, ?_⟩
  · exact build_texts base routePrefix items controller
  · have bindings : (identifiersOf client.names).map (fun identifier => (binding identifier).2) =
        client.names.map fun name =>
          Stmt.assigned [.name (Text.normalized name)] (memberExpr name) := by
      rw [← spelled, List.map_map, spelled]
      rfl
    rw [read_code (base ++ routePrefix) items controller bare]
    simp only [lines, List.map_append, List.map_cons, List.map_nil, List.map_map,
      List.append_assoc]
    exact congrArg (fun middle => Except.ok ([client.docLine.2, makerImport.2,
      (tableAssignment (base ++ routePrefix) items).2] ++
        (middle ++ [(offer client.names).2]))) bindings
  · rw [List.map_map]
    exact List.map_id _
  · intro entry present
    obtain ⟨name, _, rfl⟩ := List.mem_map.mp present
    rfl
  · exact value?_pairs items distinct
  · exact value?_texts (tableName :: client.names)

/-- A client with quotes, a backslash and a line end in its texts: one of its two names is bound. -/
theorem read_code_build_quotes :
    ∃ client : Client, ∃ statements : List Stmt,
      build (.str "/it's".toList)
          [("default".toList, .tuple [.str "GET".toList, .str "\"\\".toList]),
            ("go".toList, .tuple [.str "POST".toList, .str "/go\n".toList])]
          (.str "https://a.b".toList) (some "Things".toList) = .ok client ∧
        Source.read client.code = .ok statements ∧ statements.length = 5 := by
  obtain ⟨client, _, _, _, labels, built, read, bound, _⟩ :=
    read_code_build "https://a.b".toList "/it's".toList
      [("default".toList, "GET".toList, "\"\\".toList),
        ("go".toList, "POST".toList, "/go\n".toList)]
      (some "Things".toList) (by decide) (by decide)
  have count : labels.length = 1 := by
    have same := congrArg List.length bound
    rw [List.length_map] at same
    exact same
  refine ⟨client, _, built, read, ?_⟩
  rw [List.length_append, List.length_append, List.length_map, count]
  rfl

end ControllerClient.Client
