import ControllerClient.Source.Expression

/-!
Patterns of a selection, read level by level as expressions are. The words
`match`, `case` and `_` are reserved only where a selection needs them.
-/

namespace ControllerClient.Source

open Reader

structure PatternLevel where
  fuel : Nat
  pattern : Reader Pattern
  strings : Reader Expr

namespace PatternLevel

def number : Reader Number
  | .number value :: rest => some (value, rest)
  | _ => none

def isImaginary : Number → Bool
  | .imaginary _ => true
  | _ => false

def signedNumber : Reader Expr
  | .mark .minus :: .number value :: rest =>
    some (.unary .minus (.constant (.number value)), rest)
  | .number value :: rest => some (.constant (.number value), rest)
  | _ => none

/-- A real number with an imaginary one added or taken away. -/
def complexEnd (sign : BinaryOperator) (real : Expr) (isReal : Bool) : Reader Expr :=
  fun tokens => do
  let (value, tokens) ← number tokens
  if isReal && isImaginary value then some (.binary sign real (.constant (.number value)), tokens)
  else none

def beginsWithReal : List Token → Bool
  | .mark .minus :: .number value :: _ | .number value :: _ => !isImaginary value
  | _ => false

def numeral : Reader Expr := fun tokens => do
  let (first, rest) ← signedNumber tokens
  match rest with
  | .mark .plus :: rest => complexEnd .add first (beginsWithReal tokens) rest
  | .mark .minus :: rest => complexEnd .subtract first (beginsWithReal tokens) rest
  | _ => some (first, rest)

def literal (level : PatternLevel) : Reader Expr
  | .keyword .noneWord :: rest => some (.constant .none, rest)
  | .keyword .trueWord :: rest => some (.constant (.bool true), rest)
  | .keyword .falseWord :: rest => some (.constant (.bool false), rest)
  | .string literal :: rest => level.strings (.string literal :: rest)
  | tokens => numeral tokens

def wildcardSpelling : Text := ['_']

def goesOn : List Token → Bool
  | .mark .dot :: _ | .mark .leftParenthesis :: _ | .mark .equals :: _ => true
  | _ => false

def captureTarget : Reader Text
  | .name identifier :: rest =>
    if identifier.spelling = wildcardSpelling || goesOn rest then none
    else some (identifier.name, rest)
  | _ => none

def membersOf (fuel : Nat) (owner : Expr) : Reader Expr := fun tokens =>
  match fuel, tokens with
  | fuel + 1, .mark .dot :: .name member :: rest =>
    membersOf fuel (.member owner member.name) rest
  | _, _ => some (owner, tokens)

def dottedName (level : PatternLevel) : Reader Expr := fun tokens => do
  let (name, tokens) ← name tokens
  membersOf level.fuel (.name name) tokens

def starPattern (level : PatternLevel) : Reader Pattern
  | .mark .star :: tokens =>
    match captureTarget tokens with
    | some (name, tokens) => some (.rest (some name), tokens)
    | none =>
      match tokens with
      | .name identifier :: tokens =>
        if identifier.spelling = wildcardSpelling then some (.rest none, tokens) else none
      | _ => none
  | tokens => level.pattern tokens

def sequenceUntil (level : PatternLevel) (closing : Mark) : Reader (List Pattern × Bool) :=
  fun tokens =>
    match mark closing tokens with
    | some (_, tokens) => some (([], false), tokens)
    | none => do
      let (items, tokens) ← listed level.fuel level.starPattern tokens
      let (_, tokens) ← mark closing tokens
      some (items, tokens)

def isRest : Pattern → Bool
  | .rest _ => true
  | _ => false

def grouped (level : PatternLevel) : Reader Pattern := fun tokens => do
  let ((items, ended), tokens) ← level.sequenceUntil .rightParenthesis tokens
  match items, ended with
  | [item], false => if isRest item then none else some (item, tokens)
  | _, _ => some (.sequence items, tokens)

def mappingRest : Reader Text := afterMark .doubleStar captureTarget

def mappingEntry (level : PatternLevel) : Reader (Expr × Pattern) := fun tokens => do
  let (key, tokens) ← match tokens with
    | .name _ :: _ => do
      let (key, tokens) ← level.dottedName tokens
      match key with
      | .member _ _ => some (key, tokens)
      | _ => none
    | _ => level.literal tokens
  let (_, tokens) ← mark .colon tokens
  let (pattern, tokens) ← level.pattern tokens
  some ((key, pattern), tokens)

def mappingEnd (entries : List (Expr × Pattern)) : Reader Pattern := fun tokens => do
  let (_, tokens) ← mark .rightBrace (comma? tokens).2
  some (.mapping entries none, tokens)

def mappingRestEnd (entries : List (Expr × Pattern)) : Reader Pattern := fun tokens => do
  let (rest, tokens) ← mappingRest tokens
  let (_, tokens) ← mark .rightBrace (comma? tokens).2
  some (.mapping entries (some rest), tokens)

def mapping (level : PatternLevel) : Reader Pattern
  | .mark .rightBrace :: tokens => some (.mapping [] none, tokens)
  | .mark .doubleStar :: tokens => mappingRestEnd [] (.mark .doubleStar :: tokens)
  | tokens => do
    let (entries, tokens) ← separated level.fuel .comma level.mappingEntry tokens
    match tokens with
    | .mark .comma :: .mark .doubleStar :: rest =>
      mappingRestEnd entries (.mark .doubleStar :: rest)
    | _ => mappingEnd entries tokens

def keywordPattern (level : PatternLevel) : Reader (Text × Pattern)
  | .name identifier :: .mark .equals :: rest => do
    let (pattern, rest) ← level.pattern rest
    some ((identifier.name, pattern), rest)
  | _ => none

def instanceEnd (type : Expr) (positional : List Pattern) (keyword : List (Text × Pattern)) :
    Reader Pattern := fun tokens => do
  let (_, tokens) ← mark .rightParenthesis (comma? tokens).2
  some (.instance type positional keyword, tokens)

def keywordEnd (level : PatternLevel) (type : Expr) (positional : List Pattern) :
    Reader Pattern := fun tokens => do
  let (keyword, tokens) ← separated level.fuel .comma level.keywordPattern tokens
  instanceEnd type positional keyword tokens

def instanceOf (level : PatternLevel) (type : Expr) : Reader Pattern
  | .mark .rightParenthesis :: tokens => some (.instance type [] [], tokens)
  | .name identifier :: .mark .equals :: tokens =>
    level.keywordEnd type [] (.name identifier :: .mark .equals :: tokens)
  | tokens => do
    let (positional, tokens) ← separated level.fuel .comma level.pattern tokens
    match afterMark .comma (level.keywordEnd type positional) tokens with
    | some instance_ => some instance_
    | none => instanceEnd type positional [] tokens

def named (level : PatternLevel) : Reader Pattern := fun tokens =>
  match captureTarget tokens with
  | some (name, tokens) => some (.capture name, tokens)
  | none =>
    match tokens with
    | .name identifier :: rest =>
      if identifier.spelling = wildcardSpelling then some (.wildcard, rest)
      else do
        let (value, rest) ← level.dottedName tokens
        match rest with
        | .mark .leftParenthesis :: rest => level.instanceOf value rest
        | _ => if goesOn rest then none else some (.value value, rest)
    | _ => none

def closed (level : PatternLevel) : Reader Pattern
  | .mark .leftParenthesis :: rest => level.grouped rest
  | .mark .leftBracket :: rest => do
    let ((items, _), rest) ← level.sequenceUntil .rightBracket rest
    some (.sequence items, rest)
  | .mark .leftBrace :: rest => level.mapping rest
  | .name identifier :: rest => level.named (.name identifier :: rest)
  | tokens => do
    let (value, rest) ← level.literal tokens
    some (.value value, rest)

def alternatives (level : PatternLevel) : Reader Pattern := fun tokens => do
  let (first, tokens) ← level.closed tokens
  let (later, tokens) ← many level.fuel (afterMark .bar level.closed) tokens
  some (if later.isEmpty then first else .alternatives (first :: later), tokens)

def patternAt (level : PatternLevel) : Reader Pattern := fun tokens => do
  let (pattern, tokens) ← level.alternatives tokens
  match afterWord .asWord captureTarget tokens with
  | some (name, tokens) => some (.aliased pattern name, tokens)
  | none => some (pattern, tokens)

def ofDepth (strings : Reader Expr) : Nat → PatternLevel
  | 0 => ⟨0, fun _ => none, strings⟩
  | depth + 1 =>
    let inner := ofDepth strings depth
    ⟨inner.fuel + 1, inner.patternAt, strings⟩

def ofCase (level : PatternLevel) : Reader Pattern := fun tokens => do
  let ((items, ended), tokens) ← listed level.fuel level.starPattern tokens
  match items, ended with
  | [item], false => if isRest item then none else some (item, tokens)
  | _, _ => some (.sequence items, tokens)

end PatternLevel

end ControllerClient.Source
