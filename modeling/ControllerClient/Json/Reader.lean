import ControllerClient.Failure

/-!
Reading JSON. A reader takes the rest of the text and gives back a value and
what follows it; a fault is a problem together with the rest of the text where
it lies, from which line, column and offset are counted.

Besides standard JSON the three words `NaN`, `Infinity` and `-Infinity` are
numbers. Of equal names in an object the first place and the last value stay.
-/

namespace ControllerClient.Json

/-- A fault at the beginning of a rest of the text. -/
inductive Stop where
  | problem (problem : JsonProblem) (rest : Text)
  | digitLimit (digits : Nat)
  | tooDeep
deriving Repr

abbrev Reading (α : Type) := Except Stop (α × Text)

def isBlank (c : Char) : Bool := c == ' ' || c == '\t' || c == '\n' || c == '\r'

def skipBlanks (text : Text) : Text := text.dropWhile isBlank

def fourDigits? : Text → Option (Nat × Text)
  | a :: b :: c :: d :: rest => do
    let a ← Text.hexValue? a
    let b ← Text.hexValue? b
    let c ← Text.hexValue? c
    let d ← Text.hexValue? d
    some (((a * 16 + b) * 16 + c) * 16 + d, rest)
  | _ => none

def shortEscape? : Char → Option Char
  | '"' => some '"'
  | '\\' => some '\\'
  | '/' => some '/'
  | 'b' => some '\x08'
  | 'f' => some '\x0c'
  | 'n' => some '\n'
  | 'r' => some '\r'
  | 't' => some '\t'
  | _ => none

/-- The second half of a pair: `\uXXXX` with a low surrogate, or a fault if the digits are none. -/
def lowHalf? : Text → Except Stop (Option (Nat × Text))
  | '\\' :: 'u' :: digits =>
    -- With fewer than five characters left the pair is not looked at.
    if (digits.drop 4).isEmpty then .ok none
    else match fourDigits? digits with
      | none => .error (.problem .unicodeEscape ('u' :: digits))
      | some (unit, rest) => .ok (if Text.isLowSurrogate unit then some (unit, rest) else none)
  | _ => .ok none

/--
The characters of a string up to its closing quote; `opening` is the text from its opening
quote on.
-/
def stringBody (opening : Text) : Nat → Text → Reading Text
  | 0, _ => .error (.problem .unterminatedString opening)
  | _, [] => .error (.problem .unterminatedString opening)
  | fuel + 1, c :: rest =>
    let more (c : Char) (rest : Text) : Reading Text :=
      match stringBody opening fuel rest with
      | .error stop => .error stop
      | .ok (text, after) => .ok (c :: text, after)
    if c = '"' then .ok ([], rest)
    else if c = '\\' then
      match rest with
      | [] => .error (.problem .unterminatedString opening)
      | 'u' :: digits =>
        if (digits.drop 4).isEmpty then .error (.problem .unicodeEscape rest)
        else match fourDigits? digits with
          | none => .error (.problem .unicodeEscape rest)
          | some (unit, after) =>
            if Text.isHighSurrogate unit then
              match lowHalf? after with
              | .error stop => .error stop
              | .ok (some (low, after)) =>
                more (Text.ofCode (Text.pairCode unit low)) after
              | .ok none => more (Text.ofCode unit) after
            else more (Text.ofCode unit) after
      | e :: after =>
        match shortEscape? e with
        | some c => more c after
        | none => .error (.problem .escape (c :: rest))
    else if c.toNat < 0x20 then .error (.problem .controlCharacter (c :: rest))
    else more c rest

/-- A string, from its opening quote on; `fuel` is at least the length of the text. -/
def readString (fuel : Nat) (opening : Text) : Reading Text :=
  stringBody opening fuel (opening.drop 1)

def sign : Text → Bool × Text
  | '-' :: rest => (true, rest)
  | text => (false, text)

def wholePart : Text → Text × Text
  | '0' :: rest => (['0'], rest)
  | text => (text.takeWhile Text.isDigit, text.dropWhile Text.isDigit)

def fractionPart : Text → Text × Text
  | '.' :: rest =>
    let digits := rest.takeWhile Text.isDigit
    if digits.isEmpty then ([], '.' :: rest) else (digits, rest.dropWhile Text.isDigit)
  | text => ([], text)

def exponentSign : Text → Bool × Text
  | '-' :: rest => (true, rest)
  | '+' :: rest => (false, rest)
  | text => (false, text)

def exponentPart : Text → Option Int × Text
  | e :: rest =>
    if e = 'e' ∨ e = 'E' then
      let (minus, tail) := exponentSign rest
      let digits := tail.takeWhile Text.isDigit
      if digits.isEmpty then (none, e :: rest)
      else
        let size : Int := Text.digitsValue digits
        (some (if minus then -size else size), tail.dropWhile Text.isDigit)
    else (none, e :: rest)
  | [] => (none, [])

/-- The longest beginning that is a number; a fraction or an exponent makes it floating-point. -/
def readNumber (text : Text) : Reading Value :=
  let (negative, unsigned) := sign text
  let (whole, rest) := wholePart unsigned
  if whole.isEmpty then .error (.problem .value text) else
  let (fraction, rest) := fractionPart rest
  let (exponent?, rest) := exponentPart rest
  if fraction.isEmpty ∧ exponent? = none then
    if Text.digitLimit < whole.length then .error (.digitLimit whole.length)
    else
      let size : Int := Text.digitsValue whole
      .ok (.int (if negative then -size else size), rest)
  else
    .ok (.float (Binary64.ofDecimal negative (Text.digitsValue (whole ++ fraction))
      (exponent?.getD 0 - fraction.length)), rest)

def words : List (Text × Value) :=
  [ ("null".toList, .null), ("true".toList, .bool true), ("false".toList, .bool false),
    ("NaN".toList, .float Binary64.nan), ("Infinity".toList, .float (Binary64.infinity false)),
    ("-Infinity".toList, .float (Binary64.infinity true)) ]

def readScalar (text : Text) : Reading Value :=
  match words.findSome? fun (word, value) => (Text.after? word text).map (value, ·) with
  | some found => .ok found
  | none => readNumber text

mutual

def readValue (fuel depth : Nat) (text : Text) : Reading Value :=
  match fuel, text with
  | 0, _ => .error (.problem .value text)
  | _, [] => .error (.problem .value text)
  | fuel + 1, c :: rest =>
    if c = '"' then (readString fuel text).map fun (s, after) => (.str s, after)
    else if c = '[' then
      match depth with
      | 0 => .error .tooDeep
      | depth + 1 =>
        match skipBlanks rest with
        | ']' :: after => .ok (.list [], after)
        | start => (readItems fuel depth start).map fun (items, after) => (.list items, after)
    else if c = '\x7b' then
      match depth with
      | 0 => .error .tooDeep
      | depth + 1 =>
        match skipBlanks rest with
        | '\x7d' :: after => .ok (.dict [], after)
        | start => (readEntries fuel depth start).map fun (pairs, after) =>
            (.dict (Entries.ofPairs pairs), after)
    else readScalar text

def readItems (fuel depth : Nat) (text : Text) : Reading (List Value) :=
  match fuel with
  | 0 => .error (.problem .value text)
  | fuel + 1 =>
    match readValue fuel depth text with
    | .error stop => .error stop
    | .ok (item, after) =>
      match skipBlanks after with
      | ']' :: rest => .ok ([item], rest)
      | ',' :: rest =>
        (readItems fuel depth (skipBlanks rest)).map fun (items, rest) => (item :: items, rest)
      | rest => .error (.problem .comma rest)

def readEntries (fuel depth : Nat) (text : Text) : Reading (List (Value × Value)) :=
  match fuel, text with
  | 0, _ => .error (.problem .propertyName text)
  | fuel + 1, '"' :: _ =>
    match readString fuel text with
    | .error stop => .error stop
    | .ok (name, after) =>
      match skipBlanks after with
      | ':' :: rest =>
        match readValue fuel depth (skipBlanks rest) with
        | .error stop => .error stop
        | .ok (value, after) =>
          match skipBlanks after with
          | '\x7d' :: rest => .ok ([(.str name, value)], rest)
          | ',' :: rest =>
            (readEntries fuel depth (skipBlanks rest)).map fun (pairs, rest) =>
              ((.str name, value) :: pairs, rest)
          | rest => .error (.problem .comma rest)
      | rest => .error (.problem .colon rest)
  | _, _ => .error (.problem .propertyName text)

end

def faultAt (document : Text) (problem : JsonProblem) (rest : Text) : JsonFault :=
  let offset := document.length - rest.length
  let before := document.take offset
  let line := before.count '\n'
  { problem, offset
    line := line + 1
    column := (before.reverse.takeWhile (· != '\n')).length + 1 }

def depthLimit : Nat := 980

def readDocument (document : Text) : Except Failure Value :=
  let fail : Stop → Except Failure Value
    | .problem problem rest => .error (.json (faultAt document problem rest))
    | .digitLimit digits => .error (.shape (.digitLimit (some digits)))
    | .tooDeep => .error .nestedTooDeeply
  match readValue (document.length + 1) depthLimit (skipBlanks document) with
  | .error stop => fail stop
  | .ok (value, after) =>
    match skipBlanks after with
    | [] => .ok value
    | rest => fail (.problem .extraData rest)

def read (document : Text) : Except Failure Value :=
  match document with
  | '\uFEFF' :: _ => .error (.json (faultAt document .byteOrderMark document))
  | _ => readDocument document

end ControllerClient.Json
