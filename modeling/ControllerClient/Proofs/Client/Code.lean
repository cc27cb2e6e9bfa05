import ControllerClient.Client
import ControllerClient.Proofs.Source.Names
import ControllerClient.Proofs.Source.Statements
import ControllerClient.Proofs.Value.Shown

/-!
The text of a client line by line. Every line is characters that can be read
back, is cut into the tokens that one expects, and these are read as one
statement.
-/

namespace ControllerClient

open Source Source.Lexer

namespace Client

def textRows (items : List PairEntry) : Table Value :=
  items.map fun item => (item.1, .tuple [.str item.2.1, .str item.2.2])

/-- The client of a table of texts under a text as its prefix. -/
def ofTexts (wholePrefix : Text) (items : List PairEntry) (controller : Option Text) : Client :=
  { prefixUrl := .str wholePrefix
    endpoints := items.map fun item => (item.1, ⟨.str item.2.1, .str item.2.2⟩)
    names := (items.map (·.1)).filter isBindable
    controller }

theorem mapM_ofValue_textRows (wholePrefix : Text) (items : List PairEntry)
    (controller : Option Text) :
    (textRows items).mapM (fun (name, row) => do
      .ok (name, ← Endpoint.ofValue row) : Text × Value → Except Failure (Text × Endpoint)) =
        .ok (ofTexts wholePrefix items controller).endpoints := by
  induction items with
  | nil => rfl
  | cons item items ih =>
      rw [textRows, List.map_cons, List.mapM_cons]
      unfold textRows at ih
      rw [ih]
      rfl

theorem build_texts (base routePrefix : Text) (items : List PairEntry)
    (controller : Option Text) :
    build (.str routePrefix) (textRows items) (.str base) controller =
      .ok (ofTexts (base ++ routePrefix) items controller) := by
  have names : (ofTexts (base ++ routePrefix) items controller).endpoints.map (·.1) =
      items.map (·.1) := by
    rw [ofTexts, List.map_map]
    rfl
  unfold build
  rw [mapM_ofValue_textRows (base ++ routePrefix) items controller]
  change Except.ok _ = Except.ok _
  rw [names]
  rfl

theorem tableValue_ofTexts (wholePrefix : Text) (items : List PairEntry)
    (controller : Option Text) :
    (ofTexts wholePrefix items controller).tableValue = pairsValue items := by
  rw [tableValue, ofTexts, List.map_map]
  rfl

def tableIdentifier : Identifier := ⟨tableName, by decide⟩

def packageIdentifier : Identifier := ⟨"forget_api".toList, by decide⟩

def moduleIdentifier : Identifier := ⟨"request".toList, by decide⟩

def originIdentifier : Identifier := ⟨"create_apis".toList, by decide⟩

def makerIdentifier : Identifier := ⟨makerName, by decide⟩

def offerIdentifier : Identifier := ⟨"__all__".toList, by decide⟩

def identifiersOf (names : List Text) : List Identifier :=
  names.filterMap fun name =>
    if isValid : Text.isIdentifier name = true then some ⟨name, isValid⟩ else none

theorem spelling_mem_of_mem_identifiersOf {names : List Text} {identifier : Identifier}
    (present : identifier ∈ identifiersOf names) : identifier.spelling ∈ names := by
  obtain ⟨name, inside, same⟩ := List.mem_filterMap.mp present
  split at same
  · cases same
    exact inside
  · cases same

theorem map_spelling_identifiersOf {names : List Text}
    (bindable : ∀ name ∈ names, isBindable name = true) :
    (identifiersOf names).map (·.spelling) = names := by
  induction names with
  | nil => rfl
  | cons name names ih =>
      have first := bindable name List.mem_cons_self
      unfold isBindable isName at first
      rw [Bool.and_eq_true, Bool.and_eq_true] at first
      have others := ih fun other inside => bindable other (List.mem_cons_of_mem name inside)
      unfold identifiersOf at others ⊢
      rw [List.filterMap_cons, dif_pos first.1.1, List.map_cons, others]

theorem free_of_mem_identifiersOf {names : List Text}
    (bindable : ∀ name ∈ names, isBindable name = true) {identifier : Identifier}
    (present : identifier ∈ identifiersOf names) : isKeyword identifier.spelling = false := by
  have named := bindable identifier.spelling (spelling_mem_of_mem_identifiersOf present)
  unfold isBindable isName at named
  rw [Bool.and_eq_true, Bool.and_eq_true, Bool.not_eq_true'] at named
  exact named.1.2

/-- A line: its tokens and the statement that they make up. -/
abbrev Line := List Token × Stmt

def docText (client : Client) : Text :=
  "Client for ".toList ++ client.title ++ " generated by forget-api. Do not edit.".toList

def docLine (client : Client) : Line :=
  ([.string ⟨LiteralKind.plain, client.docText⟩, .newline],
    .expression (textExpr client.docText))

def assignment (target : Identifier) (tokens : List Token) (value : Expr) : Line :=
  (.name target :: .mark .equals :: (tokens ++ [.newline]), .assigned [.name target.name] value)

def makerImport : Line :=
  ([.keyword .fromWord, .name packageIdentifier, .mark .dot, .name moduleIdentifier,
      .keyword .importWord, .name originIdentifier, .keyword .asWord, .name makerIdentifier,
      .newline],
    .importedFrom 0 "forget_api.request".toList [⟨"create_apis".toList, some makerName⟩])

def tableExpr (wholePrefix : Text) (items : List PairEntry) : Expr :=
  .call (.name makerName) [.positional (textExpr wholePrefix),
    .positional (.dict (items.map entryExpr))]

def memberExpr (name : Text) : Expr := .subscript (.name tableName) (textExpr name)

def tableAssignment (wholePrefix : Text) (items : List PairEntry) : Line :=
  assignment tableIdentifier (callTokens makerIdentifier wholePrefix items)
    (tableExpr wholePrefix items)

def binding (identifier : Identifier) : Line :=
  assignment identifier (subscriptTokens tableIdentifier identifier.spelling)
    (memberExpr identifier.spelling)

def offer (names : List Text) : Line :=
  assignment offerIdentifier (textsTokens tableName names)
    (.list ((tableName :: names).map textExpr))

/-- All lines of a client of texts. -/
def lines (wholePrefix : Text) (items : List PairEntry) (controller : Option Text) : List Line :=
  let client := ofTexts wholePrefix items controller
  [client.docLine, makerImport, tableAssignment wholePrefix items] ++
    ((identifiersOf client.names).map binding ++ [offer client.names])

/-- What holds of each kind of line holds of every line. -/
theorem forall_mem_lines {P : Line → Prop} {wholePrefix : Text} {items : List PairEntry}
    {controller : Option Text} (doc : P (ofTexts wholePrefix items controller).docLine)
    (maker : P makerImport) (table : P (tableAssignment wholePrefix items))
    (each : ∀ identifier, P (binding identifier))
    (last : P (offer (ofTexts wholePrefix items controller).names)) :
    ∀ line ∈ lines wholePrefix items controller, P line := by
  intro line present
  simp only [lines, List.mem_append, List.mem_cons, List.not_mem_nil, or_false, List.mem_map]
    at present
  rcases present with (rfl | rfl | rfl) | ⟨identifier, _, rfl⟩ | rfl
  · exact doc
  · exact maker
  · exact table
  · exact each identifier
  · exact last

theorem scansLines_assignment (target : Identifier) (free : isKeyword target.spelling = false)
    {text : Text} {tokens : List Token} (value : Expr)
    (scans : ∀ rest, Scans [] text tokens [] ('\n' :: rest)) :
    ScansLines (target.spelling ++ " = ".toList ++ text ++ ['\n'])
      (assignment target tokens value).1 := by
  have whole (rest : Text) : Scans [] (target.spelling ++ " = ".toList ++ text)
      (.name target :: .mark .equals :: tokens) [] ('\n' :: rest) := by
    have name := Scans.name target (" = ".toList ++ text ++ '\n' :: rest) [] free
      (endsWord_cons (c := ' ') (by decide) _)
    have blank := Scans.blank [] ("= ".toList ++ (text ++ '\n' :: rest))
    have equals : Scans [] "= ".toList [.mark .equals] [] (text ++ '\n' :: rest) :=
      Scans.equals [] _
    have sign : Scans [] " = ".toList [.mark .equals] [] (text ++ '\n' :: rest) :=
      blank.append equals
    rw [List.append_assoc]
    exact name.append (sign.append (scans rest))
  obtain ⟨word, isValid⟩ := target
  cases word with
  | nil => cases isValid
  | cons c word =>
      have begins := beginsToken_of_beginsWord (isIdentifier_cons isValid).1
      exact @ScansLines.line c (word ++ " = ".toList ++ text) _ begins whole

theorem titleLine_eq (client : Client) :
    client.titleLine = '"' :: ('"' :: '"' :: client.docText ++ ['"', '"', '"']) ++ ['\n'] := by
  unfold titleLine docText
  simp only [List.append_assoc, List.cons_append]
  rfl

theorem scansLines_title (client : Client)
    (plain : ∀ c ∈ client.docText, c ≠ '"' ∧ c ≠ '\\') :
    ScansLines client.titleLine client.docLine.1 := by
  rw [titleLine_eq]
  exact ScansLines.line (by decide) fun rest => Scans.tripled [] client.docText plain ('\n' :: rest)

theorem scansLines_import : ScansLines importLine makerImport.1 := by
  have whole (rest : Text) : Scans []
      "from forget_api.request import create_apis as _create_apis".toList
      [.keyword .fromWord, .name packageIdentifier, .mark .dot, .name moduleIdentifier,
        .keyword .importWord, .name originIdentifier, .keyword .asWord, .name makerIdentifier]
      [] ('\n' :: rest) := by
    have fromWord (later : Text) : Scans [] ("from".toList ++ [' ']) [.keyword .fromWord] []
        later := Scans.spaced (Scans.token (by decide) rfl rfl)
    have package (later : Text) : Scans [] "forget_api".toList [.name packageIdentifier] []
        ('.' :: later) := Scans.token (by decide) rfl rfl
    have dot (later : Text) : Scans [] ".".toList [.mark .dot] [] ('r' :: 'e' :: later) :=
      Scans.token (by decide) rfl rfl
    have module (later : Text) : Scans [] ("request".toList ++ [' ']) [.name moduleIdentifier] []
        later := Scans.spaced (Scans.token (by decide) rfl rfl)
    have importWord (later : Text) : Scans [] ("import".toList ++ [' ']) [.keyword .importWord] []
        later := Scans.spaced (Scans.token (by decide) rfl rfl)
    have origin (later : Text) : Scans [] ("create_apis".toList ++ [' '])
        [.name originIdentifier] [] later := Scans.spaced (Scans.token (by decide) rfl rfl)
    have asWord (later : Text) : Scans [] ("as".toList ++ [' ']) [.keyword .asWord] [] later :=
      Scans.spaced (Scans.token (by decide) rfl rfl)
    have given : Scans [] makerName [.name makerIdentifier] [] ('\n' :: rest) :=
      Scans.token (by decide) rfl rfl
    exact (fromWord _).append ((package _).append ((dot _).append ((module _).append
      ((importWord _).append ((origin _).append ((asWord _).append given))))))
  exact ScansLines.line (by decide) whole

theorem scansLines_table (wholePrefix : Text) (items : List PairEntry)
    (controller : Option Text) :
    ScansLines (ofTexts wholePrefix items controller).tableLine
      (tableAssignment wholePrefix items).1 := by
  have call (rest : Text) : Scans []
      (makerName ++ ('(' :: (Text.quoted wholePrefix ++ (", ".toList ++ (pairsValue items).shown)) ++
        [')'])) (callTokens makerIdentifier wholePrefix items) [] ('\n' :: rest) := by
    have dict := Scans.pairs [.rightParenthesis] items (by decide) (')' :: '\n' :: rest)
    have comma : Scans [.rightParenthesis] ", ".toList [.mark .comma] [.rightParenthesis]
        ((pairsValue items).shown ++ ')' :: '\n' :: rest) := Scans.comma [.rightParenthesis] _
    have ends : EndsQuoted (", ".toList ++ (pairsValue items).shown ++ ')' :: '\n' :: rest) :=
      endsQuoted_cons (c := ',') (by decide) (by decide) _
    have text := Scans.quoted [.rightParenthesis] wholePrefix ends
    have few : ([] : List Mark).length < bracketLimit := by decide
    have arguments := Scans.enclosed '(' ')' .leftParenthesis .rightParenthesis (by decide)
      (by decide) rfl few (text.append (comma.append dict))
    have callee := Scans.name makerIdentifier
      ('(' :: (Text.quoted wholePrefix ++ (", ".toList ++ (pairsValue items).shown)) ++
        [')'] ++ '\n' :: rest) [] (by decide) (endsWord_cons (c := '(') (by decide) _)
    exact callee.append arguments
  have shape : (ofTexts wholePrefix items controller).tableLine =
      tableName ++ " = ".toList ++ (makerName ++ ('(' :: (Text.quoted wholePrefix ++
        (", ".toList ++ (pairsValue items).shown)) ++ [')'])) ++ ['\n'] := by
    unfold tableLine
    rw [tableValue_ofTexts]
    simp only [List.append_assoc, List.cons_append]
    rfl
  rw [shape]
  exact scansLines_assignment tableIdentifier (by decide) _ call

theorem scansLines_binding {identifier : Identifier}
    (free : isKeyword identifier.spelling = false) :
    ScansLines (bindingLine identifier.spelling) (binding identifier).1 := by
  let name := identifier.spelling
  have subscript (rest : Text) : Scans [] (tableName ++ ('[' :: Text.quoted name ++ [']']))
      (subscriptTokens tableIdentifier name) [] ('\n' :: rest) := by
    have key := Scans.quoted [.rightBracket] name
      (endsQuoted_cons (c := ']') (by decide) (by decide) ('\n' :: rest))
    have few : ([] : List Mark).length < bracketLimit := by decide
    have enclosed := Scans.enclosed '[' ']' .leftBracket .rightBracket (by decide) (by decide) rfl
      few key
    have owner := Scans.name tableIdentifier
      ('[' :: Text.quoted name ++ [']'] ++ '\n' :: rest) [] (by decide)
      (endsWord_cons (c := '[') (by decide) _)
    exact owner.append enclosed
  have shape : bindingLine name =
      name ++ " = ".toList ++ (tableName ++ ('[' :: Text.quoted name ++ [']'])) ++ ['\n'] := by
    unfold bindingLine
    simp only [List.append_assoc, List.cons_append]
    rfl
  change ScansLines (bindingLine name) _
  rw [shape]
  exact scansLines_assignment identifier free _ subscript

theorem scansLines_offer (client : Client) :
    ScansLines client.offerLine (offer client.names).1 := by
  have list (rest : Text) : Scans [] (Value.list (client.offered.map .str)).shown
      (textsTokens tableName client.names) [] ('\n' :: rest) :=
    Scans.textList [] tableName client.names (by decide) ('\n' :: rest)
  exact scansLines_assignment offerIdentifier (by decide) _ list

theorem isBare_title (client : Client) (bare : ∀ name ∈ client.controller, IsBare name) :
    IsBare client.title := by
  have general : IsBare "controller".toList := isBare_identifier (by decide)
  unfold title
  split
  · exact general
  · exact general
  · next name _ same => exact bare name same

theorem plain_docText (client : Client) (bare : ∀ name ∈ client.controller, IsBare name) :
    ∀ c ∈ client.docText, c ≠ '"' ∧ c ≠ '\\' := by
  have title := isBare_title client bare
  have around : ∀ c ∈ "Client for ".toList ++ " generated by forget-api. Do not edit.".toList,
      c ≠ '"' ∧ c ≠ '\\' := Text.forall_mem_of_all (by decide)
  rw [List.forall_mem_append] at around
  unfold docText
  rw [List.forall_mem_append, List.forall_mem_append]
  exact ⟨⟨around.1, fun c present => (title c present).2⟩, around.2⟩

theorem isReadable_titleLine (client : Client)
    (bare : ∀ name ∈ client.controller, IsBare name) :
    ∀ c ∈ client.titleLine, IsReadable c := by
  have title : ∀ c ∈ client.title, IsReadable c :=
    fun c present => (isBare_title client bare c present).1
  have front : ∀ c ∈ "\"\"\"Client for ".toList, IsReadable c := Text.forall_mem_of_all (by decide)
  exact isReadable_append (isReadable_append front title) (Text.forall_mem_of_all (by decide))

theorem isReadable_tableLine (wholePrefix : Text) (items : List PairEntry)
    (controller : Option Text) :
    ∀ c ∈ (ofTexts wholePrefix items controller).tableLine, IsReadable c := by
  have opening : ∀ c ∈ tableName ++ " = ".toList ++ makerName ++ ['('], IsReadable c :=
    Text.forall_mem_of_all (by decide)
  have comma : ∀ c ∈ ", ".toList, IsReadable c := Text.forall_mem_of_all (by decide)
  have closing : ∀ c ∈ ")\n".toList, IsReadable c := Text.forall_mem_of_all (by decide)
  have front := isReadable_append opening (isReadable_quoted wholePrefix)
  have back := isReadable_append (isReadable_append front comma) (isReadable_pairs items)
  have whole := isReadable_append back closing
  unfold tableLine
  rw [tableValue_ofTexts]
  simp only [List.append_assoc, List.cons_append, List.nil_append] at whole ⊢
  exact whole

theorem isReadable_bindingLine {name : Text} (identifier : Text.isIdentifier name = true) :
    ∀ c ∈ bindingLine name, IsReadable c := by
  have between : ∀ c ∈ " = ".toList ++ tableName ++ ['['], IsReadable c :=
    Text.forall_mem_of_all (by decide)
  have closing : ∀ c ∈ "]\n".toList, IsReadable c := Text.forall_mem_of_all (by decide)
  have front := isReadable_append (isReadable_identifier identifier) between
  have whole := isReadable_append (isReadable_append front (isReadable_quoted name)) closing
  unfold bindingLine
  simp only [List.append_assoc, List.cons_append, List.nil_append] at whole ⊢
  exact whole

theorem isReadable_offerLine (client : Client) : ∀ c ∈ client.offerLine, IsReadable c := by
  have front : ∀ c ∈ "__all__ = ".toList, IsReadable c := Text.forall_mem_of_all (by decide)
  exact isReadable_append (isReadable_append front (isReadable_textList client.offered))
    (Text.forall_mem_of_all (by decide))

end Client

end ControllerClient
