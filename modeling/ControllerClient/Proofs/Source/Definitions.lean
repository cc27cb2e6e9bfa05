import ControllerClient.Source.Statement

/-!
Definitions in statements that were read. Functions and classes are defined
under names of identifiers, at every depth of definitions inside definitions.
-/

namespace ControllerClient.Source

open Reader BlockLevel

variable {α β : Type}

def Result (P : α → Prop) (found : Option (α × List Token)) : Prop :=
  ∀ value rest, found = some (value, rest) → P value

/-- Whatever a reader understands has a property. -/
def Gives (reader : Reader α) (P : α → Prop) : Prop := ∀ tokens, Result P (reader tokens)

theorem Result.nothing (P : α → Prop) : Result P none := by
  intro value rest found
  cases found

theorem Result.found {P : α → Prop} {value : α} (holds : P value) (rest : List Token) :
    Result P (some (value, rest)) := by
  intro other behind found
  cases found
  exact holds

theorem Result.bind {P : α → Prop} {Q : β → Prop} {found : Option (β × List Token)}
    (first : Result Q found) {next : β × List Token → Option (α × List Token)}
    (later : ∀ value rest, Q value → Result P (next (value, rest))) :
    Result P (found >>= next) := by
  cases found with
  | none => exact Result.nothing P
  | some pair =>
      obtain ⟨value, rest⟩ := pair
      exact later value rest (first value rest rfl)

theorem Result.after {γ : Type} {P : α → Prop} {found : Option γ}
    {next : γ → Option (α × List Token)} (later : ∀ value, Result P (next value)) :
    Result P (found >>= next) := by
  cases found with
  | none => exact Result.nothing P
  | some value => exact later value

theorem Result.imp {P Q : α → Prop} {found : Option (α × List Token)} (result : Result P found)
    (implies : ∀ value, P value → Q value) : Result Q found :=
  fun value rest same => implies value (result value rest same)

theorem gives_many {reader : Reader α} {P : α → Prop} (gives : Gives reader P) (fuel : Nat) :
    Gives (many fuel reader) fun values => ∀ value ∈ values, P value := by
  have empty : ∀ value ∈ ([] : List α), P value := by
    intro value present
    cases present
  induction fuel with
  | zero =>
      intro tokens
      exact Result.found empty tokens
  | succ fuel ih =>
      intro tokens
      rw [many]
      cases read : reader tokens with
      | none => exact Result.found empty tokens
      | some pair =>
          obtain ⟨value, rest⟩ := pair
          have first := gives tokens value rest read
          refine Result.bind (ih rest) fun values behind each => Result.found ?_ behind
          exact List.forall_mem_cons.mpr ⟨first, each⟩

theorem gives_separated {reader : Reader α} {P : α → Prop} (gives : Gives reader P) (fuel : Nat)
    (separator : Mark) :
    Gives (separated fuel separator reader) fun values => ∀ value ∈ values, P value := by
  have behind : Gives (afterMark separator reader) P :=
    fun tokens => Result.after fun found => gives found.2
  intro tokens
  unfold separated
  refine Result.bind (gives tokens) fun first rest holds => ?_
  refine Result.bind (gives_many behind fuel rest) fun later rest each => ?_
  exact Result.found (List.forall_mem_cons.mpr ⟨holds, each⟩) rest

def Stmt.isDefinition : Stmt → Bool
  | .function .. => true
  | .classDefinition .. => true
  | _ => false

def IsPlain (statement : Stmt) : Prop := statement.isDefinition = false

theorem Result.plain {statement : Stmt} (plain : statement.isDefinition = false)
    (rest : List Token) : Result IsPlain (some (statement, rest)) :=
  @Result.found _ IsPlain statement plain rest

/-- A statement that is a definition has the name of an identifier, and so those in its body. -/
inductive Stmt.IsNamed : Stmt → Prop where
  | function (isAsync : Bool) (identifier : Identifier) (parameters : Parameters)
      (result : Option Expr) {body : List Stmt} (decorators : List Expr)
      (inside : ∀ statement ∈ body, statement.IsNamed) :
      Stmt.IsNamed (.function isAsync identifier.name parameters result body decorators)
  | classDefinition (identifier : Identifier) (arguments : List Argument) {body : List Stmt}
      (decorators : List Expr) (inside : ∀ statement ∈ body, statement.IsNamed) :
      Stmt.IsNamed (.classDefinition identifier.name arguments body decorators)
  | other {statement : Stmt} (plain : statement.isDefinition = false) : Stmt.IsNamed statement

def AllNamed (statements : List Stmt) : Prop := ∀ statement ∈ statements, statement.IsNamed

theorem allNamed_flatten {rows : List (List Stmt)} (each : ∀ row ∈ rows, AllNamed row) :
    AllNamed rows.flatten := by
  intro statement present
  obtain ⟨row, inRows, inRow⟩ := List.mem_flatten.mp present
  exact each row inRows statement inRow

theorem gives_name : Gives name fun text => ∃ identifier : Identifier, identifier.name = text := by
  intro tokens
  unfold name
  split
  · next identifier rest => exact Result.found ⟨identifier, rfl⟩ rest
  · exact Result.nothing _

theorem gives_expressionStatement (e : Level) :
    Gives (expressionStatement e) IsPlain := by
  have assigned : ∀ {values : List Expr} {statement : Stmt},
      assignment? values = some statement → statement.isDefinition = false := by
    intro values statement made
    unfold assignment? at made
    obtain ⟨value, _, made⟩ := Option.bind_eq_some_iff.mp made
    dsimp only at made
    split at made
    · cases made
      rfl
    · cases made
  intro tokens
  unfold expressionStatement
  refine Result.after fun ⟨first, tokens⟩ => ?_
  dsimp only
  split
  · refine Result.after fun ⟨values, rest⟩ => ?_
    intro statement behind found
    obtain ⟨made, assignment, same⟩ := Option.bind_eq_some_iff.mp found
    cases same
    exact assigned assignment
  · split
    · exact Result.after fun ⟨value, rest⟩ => Result.plain rfl rest
    · exact Result.nothing _
  · split
    · exact Result.after fun ⟨note, rest⟩ => Result.after fun ⟨value, rest⟩ => Result.plain rfl rest
    · exact Result.nothing _
  · exact Result.plain rfl tokens

theorem gives_importFrom (fuel : Nat) : Gives (importFrom fuel) IsPlain := by
  intro tokens
  unfold importFrom
  dsimp only
  split
  · exact Result.after fun ⟨_, _⟩ => Result.after fun ⟨_, _⟩ => Result.after fun ⟨_, rest⟩ =>
      Result.plain rfl rest
  · exact Result.after fun ⟨_, _⟩ => Result.after fun ⟨_, _⟩ => Result.after fun ⟨_, rest⟩ =>
      Result.plain rfl rest

theorem gives_raising (e : Level) : Gives (raising e) IsPlain := by
  intro tokens
  unfold raising
  split
  · exact Result.plain rfl tokens
  · dsimp only
    split
    · exact Result.after fun ⟨_, rest⟩ => Result.plain rfl rest
    · exact Result.plain rfl _

theorem gives_asserting (e : Level) : Gives (asserting e) IsPlain := by
  intro tokens
  unfold asserting
  refine Result.after fun ⟨condition, rest⟩ => ?_
  dsimp only
  split
  · exact Result.after fun ⟨_, rest⟩ => Result.plain rfl rest
  · exact Result.plain rfl rest

theorem gives_deleting (e : Level) : Gives (deleting e) IsPlain := by
  intro tokens
  unfold deleting
  refine Result.after fun ⟨⟨targets, _⟩, rest⟩ => ?_
  dsimp only
  split
  · exact Result.plain rfl rest
  · exact Result.nothing _

theorem gives_simpleStatement (e : Level) :
    Gives (simpleStatement e) IsPlain := by
  intro tokens
  unfold simpleStatement
  split
  · exact Result.after fun ⟨value, rest⟩ => Result.plain rfl rest
  · exact Result.after fun ⟨names, rest⟩ => Result.plain rfl rest
  · exact gives_importFrom e.fuel _
  · exact gives_raising e _
  · exact Result.plain rfl _
  · exact gives_deleting e _
  · exact Result.after fun ⟨value, rest⟩ => Result.plain rfl rest
  · exact gives_asserting e _
  · exact Result.plain rfl _
  · exact Result.plain rfl _
  · exact Result.after fun ⟨names, rest⟩ => Result.plain rfl rest
  · exact Result.after fun ⟨names, rest⟩ => Result.plain rfl rest
  · exact gives_expressionStatement e _

theorem gives_line (e : Level) : Gives (line e) AllNamed := by
  intro tokens
  unfold line
  refine Result.bind (gives_separated (gives_simpleStatement e) e.fuel .semicolon tokens) ?_
  intro statements rest plain
  have named : AllNamed statements := fun statement present => .other (plain statement present)
  dsimp only
  split
  · exact Result.found named _
  · exact Result.found named _
  · exact Result.nothing _

theorem gives_choosing (level : BlockLevel) (fuel : Nat) :
    Gives (level.choosing fuel) IsPlain := by
  cases fuel with
  | zero => exact fun _ => Result.nothing _
  | succ fuel =>
      intro tokens
      change Result IsPlain (level.choosingWith (level.choosing fuel) tokens)
      unfold choosingWith
      refine Result.after fun ⟨condition, rest⟩ => Result.after fun ⟨body, rest⟩ => ?_
      dsimp only
      split
      · exact Result.after fun ⟨otherwise, rest⟩ => Result.plain rfl rest
      · exact Result.after fun ⟨otherwise, rest⟩ => Result.plain rfl rest

theorem gives_repeating (level : BlockLevel) :
    Gives level.repeating IsPlain :=
  fun _ => Result.after fun ⟨_, _⟩ => Result.after fun ⟨_, _⟩ => Result.after fun ⟨_, rest⟩ =>
    Result.plain rfl rest

theorem gives_looping (level : BlockLevel) (isAsync : Bool) :
    Gives (level.looping isAsync) IsPlain :=
  fun _ => Result.after fun ⟨_, _⟩ => Result.after fun ⟨_, _⟩ => Result.after fun ⟨_, _⟩ =>
    Result.after fun ⟨_, _⟩ => Result.after fun ⟨_, rest⟩ => Result.plain rfl rest

theorem gives_entering (level : BlockLevel) (isAsync : Bool) :
    Gives (level.entering isAsync) IsPlain :=
  fun _ => Result.after fun ⟨_, _⟩ => Result.after fun ⟨_, rest⟩ => Result.plain rfl rest

theorem gives_attempting (level : BlockLevel) :
    Gives level.attempting IsPlain := by
  intro tokens
  unfold attempting
  refine Result.after fun ⟨body, rest⟩ => ?_
  dsimp only
  split
  · exact Result.after fun ⟨final, rest⟩ => Result.plain rfl rest
  · exact Result.after fun ⟨first, rest⟩ => Result.after fun ⟨later, rest⟩ =>
      Result.after fun ⟨otherwise, rest⟩ => Result.after fun ⟨final, rest⟩ => Result.plain rfl rest

theorem gives_selecting (level : BlockLevel) :
    Gives level.selecting IsPlain :=
  fun _ => Result.after fun ⟨_, _⟩ => Result.after fun ⟨_, _⟩ => Result.after fun ⟨_, _⟩ =>
    Result.after fun ⟨_, _⟩ => Result.after fun ⟨_, _⟩ => Result.after fun ⟨_, _⟩ =>
      Result.after fun ⟨_, rest⟩ => Result.plain rfl rest

theorem gives_single {reader : Reader Stmt} (gives : Gives reader Stmt.IsNamed) :
    Gives (single reader) AllNamed := by
  intro tokens
  unfold single
  refine Result.bind (gives tokens) fun statement rest named => Result.found ?_ rest
  exact List.forall_mem_singleton.mpr named

theorem gives_selectionOrLine (level : BlockLevel) : Gives level.selectionOrLine AllNamed := by
  intro tokens
  unfold selectionOrLine
  split
  · split
    · split
      · next selected rest read =>
          have plain := gives_selecting level _ selected rest read
          exact Result.found (List.forall_mem_singleton.mpr (.other plain)) rest
      · exact gives_line level.expressions _
    · exact gives_line level.expressions _
  · exact Result.nothing _

section Level

variable {level : BlockLevel} (blocks : Gives level.block AllNamed)

include blocks

theorem gives_body : Gives level.body AllNamed :=
  fun _ => Result.after fun ⟨_, rest⟩ => blocks rest

theorem gives_defining (isAsync : Bool) (decorators : List Expr) :
    Gives (level.defining isAsync decorators) Stmt.IsNamed := by
  intro tokens
  unfold defining
  refine Result.bind (gives_name tokens) fun text rest named => ?_
  obtain ⟨identifier, rfl⟩ := named
  refine Result.after fun ⟨_, rest⟩ => Result.after fun ⟨parameters, rest⟩ =>
    Result.after fun ⟨_, rest⟩ => Result.after fun ⟨result, rest⟩ => ?_
  refine Result.bind (gives_body blocks rest) fun body rest inside => ?_
  exact Result.found (.function isAsync identifier parameters result decorators inside) rest

theorem gives_definingClass (decorators : List Expr) :
    Gives (level.definingClass decorators) Stmt.IsNamed := by
  intro tokens
  unfold definingClass
  refine Result.bind (gives_name tokens) fun text rest named => ?_
  obtain ⟨identifier, rfl⟩ := named
  refine Result.after fun ⟨arguments, rest⟩ => ?_
  refine Result.bind (gives_body blocks rest) fun body rest inside => ?_
  exact Result.found (.classDefinition identifier arguments decorators inside) rest

theorem gives_decorated : Gives level.decorated Stmt.IsNamed := by
  intro tokens
  unfold decorated
  refine Result.after fun ⟨decorators, rest⟩ => ?_
  dsimp only
  split
  · exact gives_defining blocks false decorators _
  · exact gives_defining blocks true decorators _
  · exact gives_definingClass blocks decorators _
  · exact Result.nothing _

theorem gives_statement : Gives level.statement AllNamed := by
  have compound {reader : Reader Stmt} (gives : Gives reader IsPlain) :
      Gives (single reader) AllNamed :=
    gives_single fun tokens => (gives tokens).imp fun _ plain => .other plain
  have definition := gives_single (gives_decorated blocks)
  intro tokens
  unfold statement
  split
  · exact compound (gives_choosing level level.fuel) _
  · exact compound (gives_repeating level) _
  · exact compound (gives_looping level false) _
  · exact compound (gives_entering level false) _
  · exact compound (gives_attempting level) _
  · exact compound (gives_looping level true) _
  · exact compound (gives_entering level true) _
  · exact definition _
  · exact definition _
  · exact definition _
  · exact definition _
  · exact gives_selectionOrLine level _

theorem gives_statements : Gives level.statements AllNamed := by
  intro tokens
  unfold statements
  refine Result.bind (gives_statement blocks tokens) fun first rest named => ?_
  refine Result.bind (gives_many (gives_statement blocks) level.fuel rest) fun later rest each => ?_
  refine Result.found ?_ rest
  intro statement present
  rcases List.mem_append.mp present with inFirst | inLater
  · exact named statement inFirst
  · exact allNamed_flatten each statement inLater

end Level

theorem gives_block_ofDepth (expressions : Level) (patterns : PatternLevel) (depth : Nat) :
    Gives (BlockLevel.ofDepth expressions patterns depth).block AllNamed := by
  induction depth with
  | zero => exact fun _ => Result.nothing _
  | succ depth ih =>
      -- The level of the next depth reads its blocks with the level below, which is the one that
      -- the induction speaks of.
      intro tokens
      change Result AllNamed ((BlockLevel.ofDepth expressions patterns depth).blockAt tokens)
      unfold blockAt
      split
      · refine Result.bind (gives_statements ih _) fun statements rest named => ?_
        exact Result.after fun ⟨_, rest⟩ => Result.found named rest
      · exact gives_line _ _

theorem allNamed_of_statements? {length : Nat} {tokens : List Token} {found : List Stmt}
    (made : statements? length tokens = some found) : AllNamed found := by
  unfold statements? at made
  obtain ⟨⟨rows, rest⟩, read, made⟩ := Option.bind_eq_some_iff.mp made
  have each := gives_many (gives_statement (gives_block_ofDepth _ _ _)) _ _ rows rest read
  dsimp only at made
  split at made
  · cases made
    exact allNamed_flatten each
  · cases made

theorem allNamed_of_ofTokens {length : Nat} {tokens : List Token} {statements : List Stmt}
    (reads : ofTokens length tokens = .ok statements) : AllNamed statements := by
  unfold ofTokens at reads
  split at reads
  · cases reads
  · split at reads
    · cases reads
    · next found made =>
        split at reads
        · cases reads
        · cases reads
          exact allNamed_of_statements? made

/-- Every definition in statements that were read has the name of an identifier. -/
theorem allNamed_of_read {text : Text} {statements : List Stmt}
    (reads : read text = .ok statements) : AllNamed statements := by
  unfold read at reads
  cases octets : Text.utf8 text with
  | error failure =>
      rw [octets] at reads
      cases reads
  | ok octets =>
      rw [octets] at reads
      change (if text.contains '\x00' = true then _ else _) = _ at reads
      split at reads
      · cases reads
      · split at reads
        · exact allNamed_of_ofTokens reads
        · cases reads

end ControllerClient.Source
