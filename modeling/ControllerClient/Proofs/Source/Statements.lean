import ControllerClient.Proofs.Source.Limits

/-!
Readers of statements that take one line each: texts that stand alone, imports
and assignments to a name. Lines are read one after the other, so that a text
reads as the statements of its lines.
-/

namespace ControllerClient.Source

open Reader Lexer BlockLevel

/-- The tokens of a line are read as one statement, whatever the lines behind it are. -/
def ReadsLine (level : BlockLevel) (tokens : List Token) (statement : Stmt) : Prop :=
  ∀ rest, level.statement (tokens ++ rest) = some ([statement], rest)

theorem starExpressions_reads {level : Level} {first : Token} {more : List Token} {e : Expr}
    (begins : beginsOperand first = true) (reads : ReadsAs level.expression (first :: more) e)
    (token : Token) (closes : token ∈ closers) (noComma : token ≠ .mark .comma)
    (later : List Token) :
    level.starExpressions (first :: more ++ token :: later) = some (e, token :: later) := by
  have starred : ReadsAs level.starExpression (first :: more) e := by
    intro rest ends
    rw [List.cons_append, Level.starExpression]
    · exact reads rest ends
    · intro behind same
      rw [(List.cons.inj same).1] at begins
      cases begins
  have row := @listed_items Expr Unit level.starExpression (fun _ => first :: more) (fun _ => e) ()
    [] (fun _ _ => starred) token closes noComma later level.fuel (Nat.zero_le level.fuel)
  unfold Level.starExpressions
  simp only [List.map_nil, behindCommas, List.flatMap_nil, List.nil_append] at row
  change (listed level.fuel level.starExpression (first :: more ++ token :: later)).bind _ = _
  rw [row]
  rfl

theorem assignedValue_reads {level : Level} {first : Token} {more : List Token} {e : Expr}
    (begins : beginsOperand first = true) (reads : ReadsAs level.expression (first :: more) e)
    (token : Token) (closes : token ∈ closers) (noComma : token ≠ .mark .comma)
    (later : List Token) :
    level.assignedValue (first :: more ++ token :: later) = some (e, token :: later) := by
  have read := starExpressions_reads begins reads token closes noComma later
  rw [List.cons_append] at read ⊢
  rw [Level.assignedValue]
  · exact read
  · intro behind same
    rw [(List.cons.inj same).1] at begins
    cases begins

theorem line_simple {e : Level} {tokens later : List Token} {statement : Stmt}
    (read : simpleStatement e tokens = some (statement, .newline :: later)) :
    line e tokens = some ([statement], later) := by
  have alone : many e.fuel (afterMark .semicolon (simpleStatement e)) (.newline :: later) =
      some ([], .newline :: later) := many_eq_nil rfl e.fuel
  unfold line separated
  simp only [read, alone, Option.bind_eq_bind, Option.bind_some]

theorem textLine_reads (level : BlockLevel) (inner : Level) (above : level.expressions = inner.next)
    {body meant : Text} (read : Literal.text? false body = some meant) :
    ReadsLine level [.string ⟨LiteralKind.plain, body⟩, .newline]
      (.expression (textExpr meant)) := by
  intro rest
  have reads : ReadsAs level.expressions.expression [.string ⟨LiteralKind.plain, body⟩]
      (textExpr meant) := by
    rw [above]
    exact Level.expressionAt_string inner read
  have value := starExpressions_reads rfl reads .newline (by decide) (by decide) rest
  have simple : simpleStatement level.expressions
      (.string ⟨LiteralKind.plain, body⟩ :: .newline :: rest) =
        some (.expression (textExpr meant), .newline :: rest) := by
    change (level.expressions.starExpressions
      (.string ⟨LiteralKind.plain, body⟩ :: .newline :: rest)).bind _ = _
    rw [List.singleton_append] at value
    rw [value]
    rfl
  exact line_simple simple

theorem importLine_reads (level : BlockLevel) (enough : 2 ≤ level.expressions.fuel)
    (package module name given : Identifier) :
    ReadsLine level
      [.keyword .fromWord, .name package, .mark .dot, .name module, .keyword .importWord,
        .name name, .keyword .asWord, .name given, .newline]
      (.importedFrom 0 (package.name ++ '.' :: module.name) [⟨name.name, some given.name⟩]) := by
  intro rest
  obtain ⟨fuel, same⟩ : ∃ fuel, level.expressions.fuel = fuel + 2 :=
    ⟨level.expressions.fuel - 2, by omega⟩
  apply line_simple
  change importFrom level.expressions.fuel _ = _
  rw [same]
  rfl

theorem selecting_equals (level : BlockLevel) (inner : Level)
    (above : level.expressions = inner.next) (later : List Token) :
    level.selecting (.mark .equals :: later) = none := by
  unfold selecting subject listed separated
  rw [above]
  rfl

theorem assignmentLine_reads (level : BlockLevel) (inner : Level)
    (above : level.expressions = inner.next) (target : Identifier) {first : Token} {more : List Token}
    {e : Expr} (begins : beginsOperand first = true)
    (reads : ReadsAs inner.expressionAt (first :: more) e) :
    ReadsLine level (.name target :: .mark .equals :: (first :: more ++ [.newline]))
      (.assigned [.name target.name] e) := by
  intro rest
  have readsName : ReadsAs inner.next.expression [.name target] (.name target.name) :=
    Level.expressionAt_name inner target
  have readsValue : ReadsAs inner.next.expression (first :: more) e := reads
  have named := starExpressions_reads rfl readsName (.mark .equals) (by decide) (by decide)
    (first :: more ++ .newline :: rest)
  have value := assignedValue_reads begins readsValue .newline (by decide) (by decide) rest
  have values : assignedValues inner.next (inner.fuel + 1)
      (.mark .equals :: (first :: more ++ .newline :: rest)) = some ([e], .newline :: rest) := by
    rw [assignedValues, value]
    simp only [Option.bind_eq_bind, Option.bind_some]
    cases inner.fuel <;> rfl
  have simple : simpleStatement inner.next
      (.name target :: .mark .equals :: (first :: more ++ .newline :: rest)) =
        some (.assigned [.name target.name] e, .newline :: rest) := by
    change expressionStatement inner.next
      ([.name target] ++ .mark .equals :: (first :: more ++ .newline :: rest)) = _
    unfold expressionStatement
    simp only [named, Option.bind_eq_bind, Option.bind_some]
    change (assignedValues inner.next (inner.fuel + 1)
      (.mark .equals :: (first :: more ++ .newline :: rest))).bind _ = _
    rw [values]
    rfl
  have whole := line_simple simple
  have shape : .name target :: .mark .equals :: (first :: more ++ [.newline]) ++ rest =
      .name target :: .mark .equals :: (first :: more ++ .newline :: rest) := by
    simp only [List.cons_append, List.append_assoc, List.nil_append]
  rw [shape]
  change level.selectionOrLine
    (.name target :: .mark .equals :: (first :: more ++ .newline :: rest)) = _
  unfold selectionOrLine
  simp only [selecting_equals level inner above, above, whole, ite_self]

theorem length_pos_of_readsLine {level : BlockLevel} {tokens : List Token} {statement : Stmt}
    (reads : ReadsLine level tokens statement) : 0 < tokens.length := by
  cases tokens with
  | nil => cases reads []
  | cons token tokens => exact Nat.succ_pos tokens.length

theorem many_lines {level : BlockLevel} (lines : List (List Token × Stmt))
    (each : ∀ line ∈ lines, ReadsLine level line.1 line.2) {fuel : Nat}
    (enough : (lines.flatMap (·.1)).length ≤ fuel) :
    many fuel level.statement (lines.flatMap (·.1)) = some (lines.map fun line => [line.2], []) := by
  induction lines generalizing fuel with
  | nil => exact many_eq_nil rfl fuel
  | cons first lines ih =>
      have reads := each first List.mem_cons_self
      have positive := length_pos_of_readsLine reads
      rw [List.flatMap_cons, List.length_append] at enough
      obtain ⟨fuel, rfl⟩ : ∃ smaller, fuel = smaller + 1 := ⟨fuel - 1, by omega⟩
      have smaller : (lines.flatMap (·.1)).length ≤ fuel := by omega
      have others := ih (fun line present => each line (List.mem_cons_of_mem first present)) smaller
      rw [List.flatMap_cons, many, reads]
      simp only [others, Option.bind_eq_bind, Option.bind_some, List.map_cons]

theorem Level.fuel_ofDepth (depth : Nat) : (Level.ofDepth depth).fuel = depth := by
  induction depth with
  | zero => rfl
  | succ depth ih => rw [Level.ofDepth, Level.next, ih]

theorem fuel_ofDepth (expressions : Level) (patterns : PatternLevel) (depth : Nat) :
    (BlockLevel.ofDepth expressions patterns depth).fuel = depth := by
  induction depth with
  | zero => rfl
  | succ depth ih => rw [BlockLevel.ofDepth, ih]

theorem expressions_ofDepth (expressions : Level) (patterns : PatternLevel) (depth : Nat) :
    (BlockLevel.ofDepth expressions patterns depth).expressions = expressions := by
  cases depth <;> rfl

theorem statements?_lines {length : Nat} (lines : List (List Token × Stmt))
    (each : ∀ line ∈ lines, ∀ level : BlockLevel,
      level.expressions = Level.ofDepth (length + 1) → ReadsLine level line.1 line.2) :
    statements? length (lines.flatMap (·.1)) = some (lines.map (·.2)) := by
  unfold statements?
  have reads : ∀ line ∈ lines, ReadsLine (BlockLevel.ofDepth (Level.ofDepth (length + 1))
      (PatternLevel.ofDepth (Level.ofDepth (length + 1)).strings (length + 1))
      ((lines.flatMap (·.1)).length + 1)) line.1 line.2 :=
    fun line present => each line present _ (expressions_ofDepth _ _ _)
  have read := many_lines lines reads (Nat.le_succ (lines.flatMap (·.1)).length)
  simp only [fuel_ofDepth, read, Option.bind_eq_bind, Option.bind_some, List.isEmpty_nil, if_true]
  rw [← List.flatMap_def]
  exact congrArg some (List.map_eq_flatMap.symm)

theorem utf8_readable {text : Text} (readable : ∀ c ∈ text, IsReadable c) :
    Text.utf8 text = .ok (Utf8.encode text) := by
  have whole : text.dropWhile (fun c => !Text.isSurrogate c) = [] := by
    have every : ∀ c ∈ text, (!Text.isSurrogate c) = true := by
      intro c present
      rw [(readable c present).2.2]
      rfl
    have dropped := @List.dropWhile_append_of_pos _ _ text [] every
    rwa [List.append_nil, List.dropWhile_nil] at dropped
  unfold Text.utf8 Text.encodable
  rw [whole]
  rfl

/-- A text of lines is read as the statements of its lines. -/
theorem read_lines {text : Text} {most : Nat} (lines : List (List Token × Stmt))
    (scans : ScansLines text (lines.flatMap (·.1))) (readable : ∀ c ∈ text, IsReadable c)
    (ended : text.getLast? = some '\n')
    (each : ∀ line ∈ lines, ∀ level : BlockLevel,
      level.expressions = Level.ofDepth (text.length + 1) → ReadsLine level line.1 line.2)
    (nests : ∀ line ∈ lines, Nests most 0 line.1 0)
    (shallow : bracketBound * most + Descent.operandSteps ≤ Descent.limit)
    (low : ∀ line ∈ lines, line.2.height ≤ heightLimit) :
    read text = .ok (lines.map (·.2)) := by
  have noNull : text.contains '\x00' = false := by
    rw [Bool.eq_false_iff]
    intro found
    exact (readable _ (List.contains_iff_mem.mp found)).2.1 rfl
  have tokens := tokens?_of_scansLines scans (fun c present => (readable c present).1) ended
  have steps : ¬ Descent.limit < Descent.stepsOf (lines.flatMap (·.1)) :=
    Nat.not_lt_of_le (Nat.le_trans (Descent.stepsOf_le (Nests.flatMap lines nests)) shallow)
  have height : ¬ heightLimit < statementsHeight (lines.map (·.2)) := by
    apply Nat.not_lt_of_le
    apply statementsHeight_le
    intro statement present
    obtain ⟨line, inside, rfl⟩ := List.mem_map.mp present
    exact low line inside
  have made : ofTokens text.length (lines.flatMap (·.1)) = .ok (lines.map (·.2)) := by
    unfold ofTokens
    rw [if_neg steps, statements?_lines lines each]
    simp only [if_neg height]
  unfold read
  rw [utf8_readable readable, noNull, tokens]
  exact made

end ControllerClient.Source
