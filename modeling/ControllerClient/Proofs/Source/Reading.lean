import ControllerClient.Proofs.Source.Lexing
import ControllerClient.Source.Statement

/-!
Readers of expressions on the tokens of literals. An operand that no operator
follows is an expression on every level, and items with commas between them are
read one after the other. So quoted texts, pairs, lists and dictionaries of them
read back.
-/

namespace ControllerClient.Source

open Reader Lexer

/-! ### Where expressions begin and end -/

/-- The tokens behind which no expression goes on. -/
def closers : List Token :=
  [.mark .comma, .mark .colon, .mark .rightParenthesis, .mark .rightBracket, .mark .rightBrace,
    .mark .equals, .newline]

def EndsExpression (tokens : List Token) : Prop := ∃ token ∈ closers, ∃ later, tokens = token :: later

theorem endsExpression_cons (token : Token) (closes : token ∈ closers) (later : List Token) :
    EndsExpression (token :: later) := ⟨token, closes, later, rfl⟩

theorem EndsExpression.elim {tokens : List Token} {motive : List Token → Prop}
    (ends : EndsExpression tokens)
    (each : ∀ token ∈ closers, ∀ later, motive (token :: later)) : motive tokens := by
  obtain ⟨token, closes, later, rfl⟩ := ends
  exact each token closes later

def beginsOperand : Token → Bool
  | .name _ | .string _ => true
  | .mark mark => mark = .leftParenthesis || mark = .leftBracket || mark = .leftBrace
  | _ => false

/-! ### Operands without operators -/

theorem many_eq_nil {α : Type} {item : Reader α} {tokens : List Token} (refused : item tokens = none)
    (fuel : Nat) : many fuel item tokens = some ([], tokens) := by
  cases fuel with
  | zero => rfl
  | succ fuel => simp only [many, refused]

theorem chained_operand {operator? : Token → Option BinaryOperator} {operand : Reader Expr}
    {tokens : List Token} {token : Token} {later : List Token} {e : Expr} (fuel : Nat)
    (read : operand tokens = some (e, token :: later)) (noOperator : operator? token = none) :
    Level.chained fuel operator? operand tokens = some (e, token :: later) := by
  unfold Level.chained
  simp only [read, Option.bind_eq_bind, Option.bind_some]
  cases fuel with
  | zero => rfl
  | succ fuel => simp only [Level.chain, noOperator]

theorem joinedByWord_operand {operand : Reader Expr} {tokens rest : List Token} {e : Expr}
    (fuel : Nat) (keyword : Keyword) (operator : BooleanOperator)
    (read : operand tokens = some (e, rest)) (ends : EndsExpression rest) :
    Level.joinedByWord fuel keyword operator operand tokens = some (e, rest) := by
  have noWord : afterWord keyword operand rest = none := by
    apply ends.elim
    intro token closes later
    simp only [closers, List.mem_cons, List.not_mem_nil, or_false] at closes
    rcases closes with rfl | rfl | rfl | rfl | rfl | rfl | rfl <;> rfl
  unfold Level.joinedByWord
  simp only [read, Option.bind_eq_bind, Option.bind_some, many_eq_nil noWord fuel,
    List.isEmpty_nil, if_true]

theorem comparisonMark_closer {token : Token} (closes : token ∈ closers) (later : List Token) :
    Level.comparisonMark (token :: later) = none := by
  simp only [closers, List.mem_cons, List.not_mem_nil, or_false] at closes
  rcases closes with rfl | rfl | rfl | rfl | rfl | rfl | rfl <;> rfl

theorem compared_closer (operand : Reader Expr) {token : Token} (closes : token ∈ closers)
    (later : List Token) : Level.compared operand (token :: later) = none := by
  simp only [Level.compared, comparisonMark_closer closes later, Option.bind_eq_bind,
    Option.bind_none]

theorem noOperator_closer {token : Token} (closes : token ∈ closers) :
    Level.termMark? token = none ∧ Level.sumMark? token = none ∧ Level.shiftMark? token = none ∧
      Level.andMark? token = none ∧ Level.xorMark? token = none ∧ Level.orMark? token = none := by
  simp only [closers, List.mem_cons, List.not_mem_nil, or_false] at closes
  rcases closes with rfl | rfl | rfl | rfl | rfl | rfl | rfl <;>
    exact ⟨rfl, rfl, rfl, rfl, rfl, rfl⟩

namespace Level

theorem powerAt_primary (inner : Level) {first token : Token} {more later : List Token} {e : Expr}
    (begins : beginsOperand first = true) (closes : token ∈ closers)
    (read : inner.primaryAt (first :: more) = some (e, token :: later)) :
    inner.powerAt (first :: more) = some (e, token :: later) := by
  have awaited : inner.awaitedAt (first :: more) = some (e, token :: later) := by
    rw [awaitedAt]
    · exact read
    · rintro rest ⟨rfl, rfl⟩
      cases begins
  unfold powerAt
  simp only [awaited, Option.bind_eq_bind, Option.bind_some]
  simp only [closers, List.mem_cons, List.not_mem_nil, or_false] at closes
  rcases closes with rfl | rfl | rfl | rfl | rfl | rfl | rfl <;> rfl

theorem factorAt_primary (inner : Level) {first token : Token} {more later : List Token} {e : Expr}
    (begins : beginsOperand first = true) (closes : token ∈ closers)
    (read : inner.primaryAt (first :: more) = some (e, token :: later)) :
    inner.factorAt (first :: more) = some (e, token :: later) := by
  have unsigned : unaryMark? first = none := by
    cases first with
    | mark mark => cases mark <;> first | rfl | cases begins
    | name | string => rfl
    | keyword | number | newline | indent | dedent => cases begins
  unfold factorAt
  simp only [unsigned]
  exact powerAt_primary inner begins closes read

theorem bitwiseOrAt_primary (inner : Level) {first token : Token} {more later : List Token}
    {e : Expr} (begins : beginsOperand first = true) (closes : token ∈ closers)
    (read : inner.primaryAt (first :: more) = some (e, token :: later)) :
    inner.bitwiseOrAt (first :: more) = some (e, token :: later) := by
  obtain ⟨noTerm, noSum, noShift, noAnd, noXor, noOr⟩ := noOperator_closer closes
  have factor := factorAt_primary inner begins closes read
  have term : inner.termAt (first :: more) = some (e, token :: later) :=
    chained_operand (inner.fuel + 1) factor noTerm
  have sum : inner.sumAt (first :: more) = some (e, token :: later) :=
    chained_operand (inner.fuel + 1) term noSum
  have shift : inner.shiftAt (first :: more) = some (e, token :: later) :=
    chained_operand (inner.fuel + 1) sum noShift
  have conjunction : inner.bitwiseAndAt (first :: more) = some (e, token :: later) :=
    chained_operand (inner.fuel + 1) shift noAnd
  have exclusive : inner.bitwiseXorAt (first :: more) = some (e, token :: later) :=
    chained_operand (inner.fuel + 1) conjunction noXor
  exact chained_operand (inner.fuel + 1) exclusive noOr

theorem expressionAt_primary (inner : Level) {first : Token} {more rest : List Token} {e : Expr}
    (begins : beginsOperand first = true) (ends : EndsExpression rest)
    (read : inner.primaryAt (first :: more) = some (e, rest)) :
    inner.expressionAt (first :: more) = some (e, rest) := by
  -- From the operand up, each kind of operator finds that none of its own follows.
  obtain ⟨token, closes, later, rfl⟩ := id ends
  have operand := bitwiseOrAt_primary inner begins closes read
  have comparison : inner.comparisonAt (first :: more) = some (e, token :: later) := by
    unfold comparisonAt
    simp only [operand, Option.bind_eq_bind, Option.bind_some,
      many_eq_nil (compared_closer inner.bitwiseOrAt closes later), List.isEmpty_nil, if_true]
  have inversion : inner.inversionAt (first :: more) = some (e, token :: later) := by
    rw [inversionAt]
    · exact comparison
    · rintro rest ⟨rfl, rfl⟩
      cases begins
  have conjunction : inner.conjunctionAt (first :: more) = some (e, token :: later) :=
    joinedByWord_operand (inner.fuel + 1) .andWord .conjunction inversion ends
  have disjunction : inner.disjunctionAt (first :: more) = some (e, token :: later) :=
    joinedByWord_operand (inner.fuel + 1) .orWord .disjunction conjunction ends
  have noCondition : inner.alternative (token :: later) = none := by
    simp only [closers, List.mem_cons, List.not_mem_nil, or_false] at closes
    rcases closes with rfl | rfl | rfl | rfl | rfl | rfl | rfl <;> rfl
  rw [expressionAt]
  · simp only [disjunction, Option.bind_eq_bind, Option.bind_some, noCondition]
  · rintro rest ⟨rfl, rfl⟩
    cases begins

end Level

/-! ### Items with commas between them -/

def behindCommas (items : List (List Token)) : List Token := items.flatMap (.mark .comma :: ·)

theorem behindCommas_cons (item : List Token) (items : List (List Token)) (rest : List Token) :
    behindCommas (item :: items) ++ rest =
      .mark .comma :: (item ++ (behindCommas items ++ rest)) := by
  simp only [behindCommas, List.flatMap_cons, List.cons_append, List.append_assoc]

/-- What a reader makes of some tokens wherever no expression goes on behind them. -/
def ReadsAs {α : Type} (reader : Reader α) (tokens : List Token) (value : α) : Prop :=
  ∀ rest, EndsExpression rest → reader (tokens ++ rest) = some (value, rest)

theorem mark_eq_none {mark_ : Mark} {token : Token} (differs : token ≠ .mark mark_)
    (later : List Token) : mark mark_ (token :: later) = none := by
  simp only [mark, expect, if_neg differs]

theorem mark_self (mark_ : Mark) (later : List Token) :
    mark mark_ (.mark mark_ :: later) = some ((), later) := by
  simp only [mark, expect, if_true]

theorem endsExpression_behindCommas (items : List (List Token)) {rest : List Token}
    (ends : EndsExpression rest) : EndsExpression (behindCommas items ++ rest) := by
  cases items with
  | nil => exact ends
  | cons item items => exact endsExpression_cons _ (by decide) _

theorem many_behindCommas {α β : Type} {item : Reader α} {tokensOf : β → List Token}
    {valueOf : β → α} (items : List β)
    (each : ∀ b ∈ items, ReadsAs item (tokensOf b) (valueOf b)) {token : Token}
    (closes : token ∈ closers) (noComma : token ≠ .mark .comma) (later : List Token)
    {fuel : Nat} (enough : items.length ≤ fuel) :
    many fuel (afterMark .comma item) (behindCommas (items.map tokensOf) ++ token :: later) =
      some (items.map valueOf, token :: later) := by
  induction items generalizing fuel with
  | nil =>
      have refused : afterMark .comma item (token :: later) = none := by
        simp only [afterMark, mark_eq_none noComma, Option.bind_eq_bind, Option.bind_none]
      exact many_eq_nil refused fuel
  | cons b items ih =>
      cases fuel with
      | zero => cases enough
      | succ fuel =>
          have smaller : items.length ≤ fuel := Nat.le_of_succ_le_succ enough
          have others := ih (fun c present => each c (List.mem_cons_of_mem b present)) smaller
          have first := each b List.mem_cons_self
            (behindCommas (items.map tokensOf) ++ token :: later)
            (endsExpression_behindCommas _ (endsExpression_cons token closes later))
          simp only [behindCommas, List.map_cons, List.flatMap_cons, List.cons_append,
            List.append_assoc] at first others ⊢
          simp only [many, afterMark, mark_self, Option.bind_eq_bind, Option.bind_some, first, others]

theorem separated_items {α β : Type} {item : Reader α} {tokensOf : β → List Token}
    {valueOf : β → α} (first : β) (items : List β)
    (each : ∀ b ∈ first :: items, ReadsAs item (tokensOf b) (valueOf b)) {token : Token}
    (closes : token ∈ closers) (noComma : token ≠ .mark .comma) (later : List Token) {fuel : Nat}
    (enough : items.length ≤ fuel) :
    separated fuel .comma item
        (tokensOf first ++ (behindCommas (items.map tokensOf) ++ token :: later)) =
      some ((first :: items).map valueOf, token :: later) := by
  have head := each first List.mem_cons_self (behindCommas (items.map tokensOf) ++ token :: later)
    (endsExpression_behindCommas _ (endsExpression_cons token closes later))
  have others := many_behindCommas items (fun b present => each b (List.mem_cons_of_mem first present))
    closes noComma later enough
  simp only [separated, head, others, Option.bind_eq_bind, Option.bind_some, List.map_cons]

theorem comma?_eq_false {token : Token} (noComma : token ≠ .mark .comma) (later : List Token) :
    comma? (token :: later) = (false, token :: later) := by
  unfold comma?
  split
  · next same => exact absurd (List.cons.inj same).1 noComma
  · rfl

theorem listed_items {α β : Type} {item : Reader α} {tokensOf : β → List Token}
    {valueOf : β → α} (first : β) (items : List β)
    (each : ∀ b ∈ first :: items, ReadsAs item (tokensOf b) (valueOf b)) {token : Token}
    (closes : token ∈ closers) (noComma : token ≠ .mark .comma) (later : List Token) {fuel : Nat}
    (enough : items.length ≤ fuel) :
    listed fuel item (tokensOf first ++ (behindCommas (items.map tokensOf) ++ token :: later)) =
      some (((first :: items).map valueOf, false), token :: later) := by
  have row := separated_items first items each closes noComma later enough
  simp only [listed, row, Option.bind_eq_bind, Option.bind_some, comma?_eq_false noComma]

/-! ### Texts and atoms -/

def textExpr (text : Text) : Expr := .constant (.text text)

def pairTokens (left right : Text) : List Token :=
  [.mark .leftParenthesis, quotedToken left, .mark .comma, quotedToken right,
    .mark .rightParenthesis]

def pairExpr (left right : Text) : Expr := .tuple [textExpr left, textExpr right]

def textsTokens (first : Text) (items : List Text) : List Token :=
  .mark .leftBracket :: quotedToken first ::
    (behindCommas (items.map fun text => [quotedToken text]) ++ [.mark .rightBracket])

abbrev PairEntry := Text × Text × Text

def entryTokens (item : PairEntry) : List Token :=
  quotedToken item.1 :: .mark .colon :: pairTokens item.2.1 item.2.2

def entryExpr (item : PairEntry) : Option Expr × Expr :=
  (some (textExpr item.1), pairExpr item.2.1 item.2.2)

def dictTokens : List PairEntry → List Token
  | [] => [.mark .leftBrace, .mark .rightBrace]
  | first :: items =>
    .mark .leftBrace ::
      (entryTokens first ++ (behindCommas (items.map entryTokens) ++ [.mark .rightBrace]))

def callTokens (callee : Identifier) (text : Text) (items : List PairEntry) : List Token :=
  .name callee :: .mark .leftParenthesis :: quotedToken text :: .mark .comma ::
    (dictTokens items ++ [.mark .rightParenthesis])

def subscriptTokens (owner : Identifier) (text : Text) : List Token :=
  [.name owner, .mark .leftBracket, quotedToken text, .mark .rightBracket]

namespace Level

theorem trailer_closer (inner : Level) (owner : Expr) {token : Token} (closes : token ∈ closers)
    (later : List Token) : inner.trailer owner (token :: later) = none := by
  simp only [closers, List.mem_cons, List.not_mem_nil, or_false] at closes
  rcases closes with rfl | rfl | rfl | rfl | rfl | rfl | rfl <;> rfl

theorem trailers_closer (inner : Level) (fuel : Nat) (owner : Expr) {rest : List Token}
    (ends : EndsExpression rest) : inner.trailers fuel owner rest = some (owner, rest) := by
  obtain ⟨token, closes, later, rfl⟩ := ends
  cases fuel with
  | zero => rfl
  | succ fuel => simp only [trailers, trailer_closer inner owner closes later]

theorem expressionAt_atom (inner : Level) {first : Token} {more rest : List Token} {e : Expr}
    (begins : beginsOperand first = true) (ends : EndsExpression rest)
    (read : inner.atom (first :: more) = some (e, rest)) :
    inner.expressionAt (first :: more) = some (e, rest) := by
  apply expressionAt_primary inner begins ends
  simp only [primaryAt, read, Option.bind_eq_bind, Option.bind_some,
    trailers_closer inner (inner.fuel + 1) e ends]

theorem expressionAt_trailer (inner : Level) {first : Token} {more between rest : List Token}
    {owner e : Expr} (begins : beginsOperand first = true) (ends : EndsExpression rest)
    (read : inner.atom (first :: more) = some (owner, between))
    (continued : inner.trailer owner between = some (e, rest)) :
    inner.expressionAt (first :: more) = some (e, rest) := by
  apply expressionAt_primary inner begins ends
  simp only [primaryAt, read, Option.bind_eq_bind, Option.bind_some, trailers, continued,
    trailers_closer inner inner.fuel e ends]

theorem expressionAt_name (inner : Level) (identifier : Identifier) :
    ReadsAs inner.expressionAt [.name identifier] (.name identifier.name) := by
  intro rest ends
  exact expressionAt_atom inner rfl ends rfl

theorem stringLiteral_closer {rest : List Token} (ends : EndsExpression rest) :
    stringLiteral rest = none := by
  obtain ⟨token, closes, later, rfl⟩ := ends
  simp only [closers, List.mem_cons, List.not_mem_nil, or_false] at closes
  rcases closes with rfl | rfl | rfl | rfl | rfl | rfl | rfl <;> rfl

theorem expressionAt_string (inner : Level) {body meant : Text}
    (read : Literal.text? false body = some meant) :
    ReadsAs inner.expressionAt [.string ⟨LiteralKind.plain, body⟩] (textExpr meant) := by
  intro rest ends
  apply expressionAt_atom inner rfl ends
  have joined : inner.joinedLiterals [⟨LiteralKind.plain, body⟩] = some (textExpr meant) := by
    have texts : ([⟨LiteralKind.plain, body⟩] : List StringLiteral).mapM
        (fun literal => Literal.text? literal.kind.raw literal.body) = some [meant] := by
      rw [List.mapM_cons, List.mapM_nil]
      change (Literal.text? false body).bind _ = _
      rw [read]
      rfl
    change (([⟨LiteralKind.plain, body⟩] : List StringLiteral).mapM
        (fun literal => Literal.text? literal.kind.raw literal.body)).bind
          (fun texts => some (Expr.constant (.text texts.flatten))) = _
    rw [texts, Option.bind_some, List.flatten_singleton]
    rfl
  change inner.strings (.string ⟨LiteralKind.plain, body⟩ :: rest) = _
  simp only [strings, stringLiteral, Option.bind_eq_bind, Option.bind_some,
    many_eq_nil (stringLiteral_closer ends), joined]

theorem expressionAt_quoted (inner : Level) (text : Text) :
    ReadsAs inner.expressionAt [quotedToken text] (textExpr text) :=
  expressionAt_string inner (Literal.text?_flatMap_escaped (Text.isQuote_quoteFor text) text)

/-! ### Items in brackets -/

theorem namedExpression_reads {level : Level} {first : Token} {more : List Token} {e : Expr}
    (notName : ∀ identifier, first ≠ .name identifier)
    (reads : ReadsAs level.expression (first :: more) e) :
    ReadsAs level.namedExpression (first :: more) e := by
  intro rest ends
  have read := reads rest ends
  obtain ⟨token, closes, later, rfl⟩ := ends
  rw [List.cons_append] at read ⊢
  rw [namedExpression]
  · simp only [read, Option.bind_eq_bind, Option.bind_some]
    simp only [closers, List.mem_cons, List.not_mem_nil, or_false] at closes
    rcases closes with rfl | rfl | rfl | rfl | rfl | rfl | rfl <;> rfl
  · intro identifier behind same
    exact notName identifier (List.cons.inj same).1

theorem starNamedExpression_reads {level : Level} {first : Token} {more : List Token} {e : Expr}
    (notName : ∀ identifier, first ≠ .name identifier) (notStar : first ≠ .mark .star)
    (reads : ReadsAs level.expression (first :: more) e) :
    ReadsAs level.starNamedExpression (first :: more) e := by
  intro rest ends
  rw [List.cons_append, starNamedExpression]
  · exact namedExpression_reads notName reads rest ends
  · intro behind same
    exact notStar (List.cons.inj same).1

theorem starNamedExpression_quoted (inner : Level) (text : Text) :
    ReadsAs inner.next.starNamedExpression [quotedToken text] (textExpr text) := by
  apply starNamedExpression_reads
  · intro identifier same
    cases same
  · intro same
    cases same
  · exact expressionAt_quoted inner text

theorem itemsUntil_quoted (inner : Level) (closing : Mark) (closes : .mark closing ∈ closers)
    (noComma : closing ≠ .comma) (first : Text) (items : List Text)
    (enough : items.length ≤ inner.fuel + 1) (rest : List Token) :
    inner.next.itemsUntil closing (quotedToken first ::
        (behindCommas (items.map fun text => [quotedToken text]) ++ .mark closing :: rest)) =
      some ((first :: items).map textExpr, rest) := by
  have opened : mark closing (quotedToken first ::
      (behindCommas (items.map fun text => [quotedToken text]) ++ .mark closing :: rest)) = none :=
    mark_eq_none (by intro same; cases same) _
  have row := listed_items first items (fun text _ => starNamedExpression_quoted inner text)
    closes (fun same => noComma (Token.mark.inj same)) rest enough
  have fuel : inner.next.fuel = inner.fuel + 1 := rfl
  rw [List.singleton_append] at row
  simp only [itemsUntil, opened, fuel, row, Option.bind_eq_bind, Option.bind_some, mark_self]

theorem bracketFirst_quoted (inner : Level) (text : Text) {rest : List Token}
    (ends : EndsExpression rest) :
    inner.next.starNamedExpression (quotedToken text :: rest) = some (textExpr text, rest) :=
  starNamedExpression_quoted inner text rest ends

theorem expressionAt_pair (inner : Level) (left right : Text) :
    ReadsAs inner.next.expressionAt (pairTokens left right) (pairExpr left right) := by
  intro rest ends
  apply expressionAt_atom inner.next rfl ends
  have second : inner.next.itemsUntil .rightParenthesis
      (quotedToken right :: .mark .rightParenthesis :: rest) = some ([textExpr right], rest) :=
    itemsUntil_quoted inner .rightParenthesis (by decide) (by decide) right [] (Nat.zero_le _) rest
  change inner.next.parenthesised (quotedToken left :: .mark .comma :: quotedToken right ::
    .mark .rightParenthesis :: rest) = _
  rw [parenthesised]
  · rw [bracketFirst_quoted inner left (endsExpression_cons _ (by decide) _)]
    simp only [Option.bind_eq_bind, Option.bind_some, second]
    rfl
  · intro behind same
    cases same
  · intro behind same
    cases same

theorem expressionAt_texts (inner : Level) (first : Text) (items : List Text)
    (enough : items.length ≤ inner.fuel + 2) :
    ReadsAs inner.next.expressionAt (textsTokens first items)
      (.list ((first :: items).map textExpr)) := by
  intro rest ends
  rw [textsTokens, List.cons_append]
  apply expressionAt_atom inner.next rfl ends
  rw [List.cons_append, List.append_assoc, List.singleton_append]
  change inner.next.bracketed (quotedToken first ::
    (behindCommas (items.map fun text => [quotedToken text]) ++ .mark .rightBracket :: rest)) = _
  have head := bracketFirst_quoted inner first (endsExpression_behindCommas
    (items.map fun text => [quotedToken text])
    (endsExpression_cons (.mark .rightBracket) (by decide) rest))
  rw [bracketed]
  · rw [head]
    cases items with
    | nil => rfl
    | cons second items =>
        have others := itemsUntil_quoted inner .rightBracket (by decide) (by decide)
          second items (Nat.le_of_succ_le_succ enough) rest
        simp only [behindCommas, List.map_cons, List.flatMap_cons, List.cons_append,
          List.nil_append] at others ⊢
        simp only [Option.bind_eq_bind, Option.bind_some, others]
  · intro behind same
    cases same

/-! ### Dictionaries of pairs, calls and subscripts -/

theorem beginsClause_ends {rest : List Token} (ends : EndsExpression rest) :
    beginsClause rest = false := by
  obtain ⟨token, closes, later, rfl⟩ := ends
  simp only [closers, List.mem_cons, List.not_mem_nil, or_false] at closes
  rcases closes with rfl | rfl | rfl | rfl | rfl | rfl | rfl <;> rfl

theorem expressionAt_key (inner : Level) (text : Text) {rest : List Token}
    (ends : EndsExpression rest) :
    inner.next.next.expression (quotedToken text :: rest) = some (textExpr text, rest) :=
  expressionAt_quoted inner.next text rest ends

theorem entry_reads (inner : Level) (item : PairEntry) :
    ReadsAs inner.next.next.entry (entryTokens item) (entryExpr item) := by
  intro rest ends
  have value : inner.next.next.expression (pairTokens item.2.1 item.2.2 ++ rest) =
      some (pairExpr item.2.1 item.2.2, rest) := expressionAt_pair inner item.2.1 item.2.2 rest ends
  rw [entryTokens, List.cons_append, List.cons_append, entry]
  · rw [expressionAt_key inner item.1 (endsExpression_cons _ (by decide) _)]
    simp only [Option.bind_eq_bind, Option.bind_some, mark_self, value]
    rfl
  · intro behind same
    cases same

theorem entriesUntil_pairs (inner : Level) (items : List PairEntry)
    (enough : items.length ≤ inner.fuel + 3) (rest : List Token) :
    inner.next.next.entriesUntil
        (behindCommas (items.map entryTokens) ++ .mark .rightBrace :: rest) =
      some (items.map entryExpr, rest) := by
  cases items with
  | nil => rfl
  | cons first items =>
      have fewer : items.length ≤ inner.fuel + 2 := Nat.le_of_succ_le_succ enough
      have closes : .mark .rightBrace ∈ closers := by decide
      have row := listed_items first items (fun item _ => entry_reads inner item) closes
        (by decide) rest fewer
      rw [List.map_cons, behindCommas_cons, entriesUntil]
      · simp only [mark_self, Option.bind_eq_bind, Option.bind_some]
        change (listed (inner.fuel + 2) inner.next.next.entry (entryTokens first ++
          (behindCommas (items.map entryTokens) ++ .mark .rightBrace :: rest))).bind _ = _
        rw [row, Option.bind_some]
        rfl
      · intro behind same
        cases same

theorem expressionAt_pairs (inner : Level) (items : List PairEntry)
    (enough : items.length ≤ inner.fuel + 4) :
    ReadsAs inner.next.next.expressionAt (dictTokens items) (.dict (items.map entryExpr)) := by
  intro rest ends
  cases items with
  | nil => exact expressionAt_atom inner.next.next rfl ends rfl
  | cons first items =>
      have value (behind : List Token) (closed : EndsExpression behind) :
          inner.next.next.expression (pairTokens first.2.1 first.2.2 ++ behind) =
            some (pairExpr first.2.1 first.2.2, behind) :=
        expressionAt_pair inner first.2.1 first.2.2 behind closed
      have others := entriesUntil_pairs inner items (Nat.le_of_succ_le_succ enough) rest
      have closed := endsExpression_behindCommas (items.map entryTokens)
        (endsExpression_cons (.mark .rightBrace) (by decide) rest)
      rw [dictTokens, List.cons_append]
      apply expressionAt_atom inner.next.next rfl ends
      rw [List.append_assoc, List.append_assoc, List.singleton_append]
      change inner.next.next.braced (quotedToken first.1 :: .mark .colon ::
        (pairTokens first.2.1 first.2.2 ++
          (behindCommas (items.map entryTokens) ++ .mark .rightBrace :: rest))) = _
      rw [braced]
      · rw [expressionAt_key inner first.1 (endsExpression_cons _ (by decide) _)]
        simp only [Option.bind_eq_bind, Option.bind_some, value _ closed]
        simp only [dictAfter, beginsClause_ends closed, Bool.false_eq_true, if_false, others,
          Option.bind_eq_bind, Option.bind_some]
        rfl
      · intro behind same
        cases same
      · intro behind same
        cases same
      · intro behind same
        cases same
      · intro identifier behind same
        cases same

theorem dictTokens_eq_cons (items : List PairEntry) :
    ∃ more, dictTokens items = .mark .leftBrace :: more := by
  cases items with
  | nil => exact ⟨_, rfl⟩
  | cons first items => exact ⟨_, rfl⟩

theorem positional_reads (level : Level) {first : Token} {more : List Token} {e : Expr}
    (notName : ∀ identifier, first ≠ .name identifier) (notStar : first ≠ .mark .star)
    (notStars : first ≠ .mark .doubleStar) (reads : ReadsAs level.expression (first :: more) e)
    {token : Token} (closes : token ∈ closers) (noEquals : token ≠ .mark .equals)
    (later : List Token) :
    level.argument .plain (first :: more ++ token :: later) =
      some ((.positional e, .plain), token :: later) := by
  have read := namedExpression_reads notName reads (token :: later) (endsExpression_cons token closes later)
  rw [List.cons_append] at read ⊢
  rw [argument]
  · simp only [if_true, read, Option.bind_eq_bind, Option.bind_some]
    split
    · next same => exact absurd (List.cons.inj same).1 noEquals
    · rfl
  · intro behind same
    exact notStars (List.cons.inj same).1
  · intro behind same
    exact notStar (List.cons.inj same).1
  · intro identifier behind same
    exact notName identifier (List.cons.inj same).1

theorem callArguments_table (inner : Level) (text : Text) (items : List PairEntry)
    (enough : items.length ≤ inner.fuel + 4) (rest : List Token) :
    inner.next.next.next.callArguments (quotedToken text :: .mark .comma ::
        (dictTokens items ++ .mark .rightParenthesis :: rest)) =
      some ([.positional (textExpr text), .positional (.dict (items.map entryExpr))], rest) := by
  let level := inner.next.next.next
  have first : level.argument .plain (quotedToken text :: .mark .comma ::
      (dictTokens items ++ .mark .rightParenthesis :: rest)) =
        some ((.positional (textExpr text), .plain), .mark .comma ::
          (dictTokens items ++ .mark .rightParenthesis :: rest)) :=
    positional_reads level (by intro _ same; cases same) (by intro same; cases same)
      (by intro same; cases same) (expressionAt_quoted inner.next.next text) (by decide)
      (by decide) _
  have second : level.argument .plain (dictTokens items ++ .mark .rightParenthesis :: rest) =
      some ((.positional (.dict (items.map entryExpr)), .plain), .mark .rightParenthesis :: rest) := by
    obtain ⟨more, braced⟩ := dictTokens_eq_cons items
    have reads := expressionAt_pairs inner items enough
    rw [braced] at reads ⊢
    exact positional_reads level (by intro _ same; cases same) (by intro same; cases same)
      (by intro same; cases same) reads (by decide) (by decide) rest
  have later : level.laterArguments level.fuel .plain (.mark .comma ::
      (dictTokens items ++ .mark .rightParenthesis :: rest)) =
        some ([.positional (.dict (items.map entryExpr))], .mark .rightParenthesis :: rest) := by
    change level.laterArguments (inner.fuel + 2 + 1) _ _ = _
    rw [laterArguments]
    simp only [second]
    rfl
  rw [callArguments]
  · rw [first]
    change (level.laterArguments level.fuel .plain (.mark .comma ::
      (dictTokens items ++ .mark .rightParenthesis :: rest))).bind _ = _
    rw [later, Option.bind_some]
    rfl
  · intro behind same
    cases same

theorem expressionAt_call (inner : Level) (callee : Identifier) (text : Text) (items : List PairEntry)
    (enough : items.length ≤ inner.fuel + 4) :
    ReadsAs inner.next.next.next.expressionAt (callTokens callee text items)
      (.call (.name callee.name)
        [.positional (textExpr text), .positional (.dict (items.map entryExpr))]) := by
  intro rest ends
  have arguments := callArguments_table inner text items enough rest
  rw [callTokens, List.cons_append]
  apply expressionAt_trailer inner.next.next.next rfl ends rfl
  simp only [List.cons_append, List.append_assoc, List.nil_append]
  rw [trailer, arguments]
  rfl

theorem index_quoted (inner : Level) (text : Text) (token : Token) (closes : token ∈ closers)
    (noColon : token ≠ .mark .colon) (later : List Token) :
    inner.next.index (quotedToken text :: token :: later) =
      some (textExpr text, token :: later) := by
  have read : inner.next.expression (quotedToken text :: token :: later) =
      some (textExpr text, token :: later) :=
    expressionAt_quoted inner text (token :: later) (endsExpression_cons token closes later)
  rw [index]
  · rw [read]
    simp only [Option.bind_eq_bind, Option.bind_some]
    split
    · next same => exact absurd (List.cons.inj same).1 noColon
    · rfl
  · intro behind same
    cases same
  · intro behind same
    cases same
  · intro identifier behind same
    cases same

theorem expressionAt_subscript (inner : Level) (owner : Identifier) (text : Text) :
    ReadsAs inner.next.expressionAt (subscriptTokens owner text)
      (.subscript (.name owner.name) (textExpr text)) := by
  intro rest ends
  have index := index_quoted inner text (.mark .rightBracket) (by decide) (by decide) rest
  apply expressionAt_trailer inner.next rfl ends rfl
  have subscripts : inner.next.subscripts (quotedToken text :: .mark .rightBracket :: rest) =
      some (textExpr text, rest) := by
    unfold subscripts listed separated
    simp only [index, Option.bind_eq_bind, Option.bind_some]
    rfl
  change inner.next.trailer _ (.mark .leftBracket :: quotedToken text ::
    .mark .rightBracket :: rest) = _
  rw [trailer, subscripts]
  rfl

end Level

end ControllerClient.Source
