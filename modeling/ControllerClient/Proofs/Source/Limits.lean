import ControllerClient.Proofs.Source.Reading
import ControllerClient.Source.Statement

/-!
Bounds for what reading costs. While tokens only name, quote and bracket, reading
descends at most thirty steps for each bracket that is open, and the trees of
assigned texts, pairs and dictionaries stay low whatever their lengths.
-/

namespace ControllerClient.Source

open Lexer

/-- How many brackets are open behind a token, if the token costs no steps of its own. -/
def opened? (most open_ : Nat) : Token → Option Nat
  | .name _ | .string _ | .newline => some open_
  | .keyword .fromWord | .keyword .importWord | .keyword .asWord => some open_
  | .mark .comma | .mark .colon | .mark .equals | .mark .dot => some open_
  | .mark .leftParenthesis | .mark .leftBracket | .mark .leftBrace =>
    if open_ < most then some (open_ + 1) else none
  | .mark .rightParenthesis | .mark .rightBracket | .mark .rightBrace => some (open_ - 1)
  | _ => none

/-- From `before` open brackets, tokens lead to `after` and to no more than `most` between. -/
def Nests (most before : Nat) (tokens : List Token) (after : Nat) : Prop :=
  tokens.foldlM (opened? most) before = some after

theorem Nests.nil (most open_ : Nat) : Nests most open_ [] open_ := rfl

theorem Nests.append {most before between after : Nat} {tokens later : List Token}
    (first : Nests most before tokens between) (second : Nests most between later after) :
    Nests most before (tokens ++ later) after := by
  unfold Nests at first second ⊢
  rw [List.foldlM_append, first]
  exact second

theorem Nests.cons {most before between after : Nat} {token : Token} {later : List Token}
    (first : opened? most before token = some between) (second : Nests most between later after) :
    Nests most before (token :: later) after := by
  unfold Nests at second ⊢
  rw [List.foldlM_cons, first]
  exact second

theorem Nests.flatMap {α : Type} {most open_ : Nat} {tokensOf : α → List Token} (items : List α)
    (each : ∀ item ∈ items, Nests most open_ (tokensOf item) open_) :
    Nests most open_ (items.flatMap tokensOf) open_ := by
  induction items with
  | nil => exact Nests.nil most open_
  | cons item items ih =>
      have first := each item List.mem_cons_self
      have later := ih fun other present => each other (List.mem_cons_of_mem item present)
      rw [List.flatMap_cons]
      exact first.append later

theorem Nests.behindCommas {α : Type} {most open_ : Nat} {tokensOf : α → List Token}
    (items : List α) (each : ∀ item ∈ items, Nests most open_ (tokensOf item) open_) :
    Nests most open_ (behindCommas (items.map tokensOf)) open_ := by
  unfold Source.behindCommas
  rw [List.flatMap_map]
  exact Nests.flatMap items fun item present => Nests.cons rfl (each item present)

def bracketBound : Nat := 30

structure Enclosure.IsPlain (e : Enclosure) (bound : Nat) : Prop where
  expression : e.expression = 0
  negations : e.negations = 0
  signs : e.signs = 0
  functions : e.functions = 0
  item : e.item ≤ bound
  later : e.later ≤ bound

theorem Enclosure.isPlain_fresh {first later bound : Nat} (low : first ≤ bound)
    (laterLow : later ≤ bound) : (Enclosure.fresh first later).IsPlain bound :=
  ⟨rfl, rfl, rfl, rfl, low, laterLow⟩

theorem Enclosure.IsPlain.depth_le {e : Enclosure} {bound : Nat} (plain : e.IsPlain bound) :
    e.depth ≤ bound := by
  unfold Enclosure.depth
  rw [plain.expression, plain.negations, plain.signs]
  exact plain.item

theorem Enclosure.IsPlain.next {e : Enclosure} {bound : Nat} (plain : e.IsPlain bound) :
    e.next.IsPlain bound := Enclosure.isPlain_fresh plain.later plain.later

theorem Enclosure.IsPlain.again {e : Enclosure} {bound : Nat} (plain : e.IsPlain bound) :
    e.again.IsPlain bound := ⟨rfl, rfl, rfl, rfl, plain.item, plain.later⟩

def OuterWithin : Nat → List Enclosure → Prop
  | 0, outer => outer = []
  | open_ + 1, outer =>
    ∃ e rest, outer = e :: rest ∧ e.IsPlain (bracketBound * open_) ∧ OuterWithin open_ rest

/-- Reading has come no further down than its open brackets allow. -/
structure Descent.IsWithin (d : Descent) (most open_ : Nat) : Prop where
  few : open_ ≤ most
  inner : d.inner.IsPlain (bracketBound * open_)
  outer : OuterWithin open_ d.outer
  deepest : d.deepest ≤ bracketBound * most + Descent.operandSteps

namespace Descent

variable {d : Descent} {most open_ : Nat}

theorem isWithin_start (most : Nat) : start.IsWithin most 0 :=
  ⟨Nat.zero_le most, Enclosure.isPlain_fresh (Nat.le_refl 0) (Nat.le_refl 0), rfl, Nat.zero_le _⟩

theorem IsWithin.operand (within : d.IsWithin most open_) : d.operand.IsWithin most open_ := by
  refine ⟨within.few, within.inner, within.outer, ?_⟩
  have depth := within.inner.depth_le
  have bound : bracketBound * open_ ≤ bracketBound * most := Nat.mul_le_mul_left _ within.few
  have deepest := within.deepest
  change max d.deepest (d.inner.depth + operandSteps) ≤ _
  omega

theorem IsWithin.before (within : d.IsWithin most open_) {e : Enclosure}
    (plain : e.IsPlain (bracketBound * open_)) : (d.before e).IsWithin most open_ :=
  ⟨within.few, plain, within.outer, within.deepest⟩

theorem bracketSteps_le (afterOperand : Bool) (bracket : Mark) :
    (bracketSteps afterOperand bracket).1 ≤ bracketBound ∧
      (bracketSteps afterOperand bracket).2 ≤ bracketBound := by
  unfold bracketSteps
  split <;> cases afterOperand <;> decide

theorem IsWithin.descend (within : d.IsWithin most open_) (bracket : Mark) (fewer : open_ < most) :
    (d.descend bracket).IsWithin most (open_ + 1) := by
  obtain ⟨first, later⟩ := bracketSteps_le d.afterOperand bracket
  have depth := within.inner.depth_le
  have bound : bracketBound * (open_ + 1) = bracketBound * open_ + bracketBound := Nat.mul_succ _ _
  have firstLow : d.inner.depth + (bracketSteps d.afterOperand bracket).1 ≤
      bracketBound * (open_ + 1) := by omega
  have laterLow : d.inner.depth + (bracketSteps d.afterOperand bracket).2 ≤
      bracketBound * (open_ + 1) := by omega
  exact ⟨fewer, Enclosure.isPlain_fresh firstLow laterLow,
    ⟨d.inner, d.outer, rfl, within.inner, within.outer⟩, within.deepest⟩

theorem IsWithin.ascend (within : d.IsWithin most open_) :
    d.ascend.IsWithin most (open_ - 1) := by
  cases open_ with
  | zero =>
      have outermost : d.outer = [] := within.outer
      unfold Descent.ascend
      rw [outermost]
      exact within
  | succ open_ =>
      obtain ⟨e, rest, shape, plain, others⟩ := within.outer
      unfold Descent.ascend
      rw [shape]
      exact ⟨Nat.le_of_succ_le within.few, plain, others, within.deepest⟩

theorem unlessInParameters_of_isPlain {e : Enclosure} {bound : Nat} (plain : e.IsPlain bound)
    (changed : Enclosure) : e.unlessInParameters changed = changed := by
  rw [Enclosure.unlessInParameters, if_pos plain.functions]

theorem afterColon_of_isPlain {e : Enclosure} {bound : Nat} (plain : e.IsPlain bound) :
    e.afterColon = e.again := by
  rw [Enclosure.afterColon, if_pos plain.functions]

/-- One token leaves reading within its bound. -/
theorem IsWithin.step {after : Nat} {token : Token} (within : d.IsWithin most open_)
    (led : opened? most open_ token = some after) : (d.step token).IsWithin most after := by
  have opening (bracket : Mark)
      (one : (if open_ < most then some (open_ + 1) else none) = some after) :
      (d.descend bracket).IsWithin most after := by
    split at one
    · next fewer =>
        cases one
        exact within.descend bracket fewer
    · cases one
  cases token with
  | name | string =>
      cases led
      exact within.operand
  | newline =>
      cases led
      exact within.before within.inner.next
  | number | indent | dedent => cases led
  | keyword word =>
      cases word with
      | fromWord | importWord | asWord =>
          cases led
          exact within.before within.inner.again
      | _ => cases led
  | mark mark =>
      cases mark with
      | comma =>
          cases led
          change (d.before (d.inner.unlessInParameters d.inner.next)).IsWithin most open_
          rw [unlessInParameters_of_isPlain within.inner]
          exact within.before within.inner.next
      | colon =>
          cases led
          change (d.before d.inner.afterColon).IsWithin most open_
          rw [afterColon_of_isPlain within.inner]
          exact within.before within.inner.again
      | equals =>
          cases led
          change (d.before (d.inner.unlessInParameters d.inner.again)).IsWithin most open_
          rw [unlessInParameters_of_isPlain within.inner]
          exact within.before within.inner.again
      | dot =>
          cases led
          exact within
      | leftParenthesis => exact opening .leftParenthesis led
      | leftBracket => exact opening .leftBracket led
      | leftBrace => exact opening .leftBrace led
      | rightParenthesis | rightBracket | rightBrace =>
          cases led
          exact within.ascend
      | _ => cases led

theorem IsWithin.run {after : Nat} {tokens : List Token} (within : d.IsWithin most open_)
    (nests : Nests most open_ tokens after) : (tokens.foldl Descent.step d).IsWithin most after := by
  induction tokens generalizing d open_ with
  | nil =>
      cases nests
      exact within
  | cons token tokens ih =>
      unfold Nests at nests
      rw [List.foldlM_cons] at nests
      obtain ⟨between, led, others⟩ := Option.bind_eq_some_iff.mp nests
      exact ih (within.step led) others

theorem stepsOf_le {tokens : List Token} {after : Nat} (nests : Nests most 0 tokens after) :
    stepsOf tokens ≤ bracketBound * most + operandSteps :=
  ((isWithin_start most).run nests).deepest

end Descent

section Brackets

variable {most open_ : Nat}

theorem nests_pairTokens (left right : Text) (fewer : open_ < most) :
    Nests most open_ (pairTokens left right) open_ := by
  have opening : opened? most open_ (.mark .leftParenthesis) = some (open_ + 1) := if_pos fewer
  exact Nests.cons opening rfl

theorem nests_textsTokens (first : Text) (items : List Text) (fewer : open_ < most) :
    Nests most open_ (textsTokens first items) open_ := by
  have later : Nests most (open_ + 1) (behindCommas (items.map fun text => [quotedToken text]))
      (open_ + 1) := Nests.behindCommas items fun _ _ => rfl
  have opening : opened? most open_ (.mark .leftBracket) = some (open_ + 1) := if_pos fewer
  have closing : Nests most (open_ + 1) [.mark .rightBracket] open_ := rfl
  exact Nests.cons opening (Nests.cons rfl (later.append closing))

theorem nests_entryTokens (item : PairEntry) (fewer : open_ < most) :
    Nests most open_ (entryTokens item) open_ :=
  Nests.cons rfl (Nests.cons rfl (nests_pairTokens item.2.1 item.2.2 fewer))

theorem nests_dictTokens (items : List PairEntry) (fewer : open_ + 1 < most) :
    Nests most open_ (dictTokens items) open_ := by
  have opening : opened? most open_ (.mark .leftBrace) = some (open_ + 1) :=
    if_pos (Nat.lt_of_succ_lt fewer)
  have closing : Nests most (open_ + 1) [.mark .rightBrace] open_ := rfl
  cases items with
  | nil => exact Nests.cons opening closing
  | cons first items =>
      have later : Nests most (open_ + 1) (behindCommas (items.map entryTokens)) (open_ + 1) :=
        Nests.behindCommas items fun item _ => nests_entryTokens item fewer
      exact Nests.cons opening ((nests_entryTokens first fewer).append (later.append closing))

theorem nests_callTokens (callee : Identifier) (text : Text) (items : List PairEntry)
    (fewer : open_ + 2 < most) : Nests most open_ (callTokens callee text items) open_ := by
  have one : open_ < most := by omega
  have opening : opened? most open_ (.mark .leftParenthesis) = some (open_ + 1) := if_pos one
  have closing : Nests most (open_ + 1) [.mark .rightParenthesis] open_ := rfl
  have dict : Nests most (open_ + 1) (dictTokens items) (open_ + 1) := nests_dictTokens items fewer
  exact Nests.cons rfl (Nests.cons opening (Nests.cons rfl (Nests.cons rfl (dict.append closing))))

theorem nests_subscriptTokens (owner : Identifier) (text : Text) (fewer : open_ < most) :
    Nests most open_ (subscriptTokens owner text) open_ := by
  have opening : opened? most open_ (.mark .leftBracket) = some (open_ + 1) := if_pos fewer
  exact Nests.cons rfl (Nests.cons opening rfl)

end Brackets

theorem greatestHeight_texts (texts : List Text) : greatestHeight (texts.map textExpr) ≤ 1 := by
  induction texts with
  | nil => exact Nat.zero_le 1
  | cons text texts ih => exact Nat.max_le.mpr ⟨Nat.le_refl 1, ih⟩

theorem height_texts (texts : List Text) : (Expr.list (texts.map textExpr)).height ≤ 2 :=
  Nat.succ_le_succ (greatestHeight_texts texts)

theorem entriesHeight_pairs (items : List PairEntry) : entriesHeight (items.map entryExpr) ≤ 2 := by
  induction items with
  | nil => exact Nat.zero_le 2
  | cons item items ih =>
      have key : heightOf? (some (textExpr item.1)) ≤ 2 := Nat.le_succ 1
      exact Nat.max_le.mpr ⟨key, Nat.max_le.mpr ⟨Nat.le_refl 2, ih⟩⟩

theorem height_call (callee : Text) (text : Text) (items : List PairEntry) :
    (Expr.call (.name callee) [.positional (textExpr text),
      .positional (.dict (items.map entryExpr))]).height ≤ 4 := by
  have dict : (Expr.dict (items.map entryExpr)).height ≤ 3 :=
    Nat.succ_le_succ (entriesHeight_pairs items)
  have arguments : argumentsHeight [.positional (textExpr text),
      .positional (.dict (items.map entryExpr))] ≤ 3 := by
    have first : (textExpr text).height ≤ 3 := Nat.le_add_left 1 2
    simp only [argumentsHeight]
    exact Nat.max_le.mpr ⟨first, Nat.max_le.mpr ⟨dict, Nat.zero_le 3⟩⟩
  simp only [Expr.height]
  exact Nat.succ_le_succ (Nat.max_le.mpr ⟨Nat.le_add_left 1 2, arguments⟩)

theorem height_assigned (target : Text) {e : Expr} {bound : Nat} (positive : 1 ≤ bound)
    (low : e.height ≤ bound) : (Stmt.assigned [.name target] e).height ≤ bound + 1 := by
  simp only [Stmt.height, greatestHeight, Expr.height]
  exact Nat.succ_le_succ (Nat.max_le.mpr ⟨positive, low⟩)

theorem statementsHeight_le {statements : List Stmt} {bound : Nat}
    (each : ∀ statement ∈ statements, statement.height ≤ bound) :
    statementsHeight statements ≤ bound := by
  induction statements with
  | nil => exact Nat.zero_le bound
  | cons first statements ih =>
      have later := ih fun statement present => each statement (List.mem_cons_of_mem first present)
      exact Nat.max_le.mpr ⟨each first List.mem_cons_self, later⟩

end ControllerClient.Source
