import ControllerClient.Source.Token

/-!
Numeric literals. Digits may be grouped by single low lines; a whole number
other than zero does not begin with a zero; a literal is not followed at once by
a name, unless it is one of the words that may follow a number.
-/

namespace ControllerClient.Source.Numeral

/-- A run of digits, single low lines between them, and what follows it. -/
def digitRun? (isDigit : Char → Bool) : Text → Option (Text × Text)
  | c :: '_' :: rest =>
    if isDigit c then (digitRun? isDigit rest).map fun (digits, behind) => (c :: digits, behind)
    else none
  | c :: d :: rest =>
    if isDigit c then
      if isDigit d then
        (digitRun? isDigit (d :: rest)).map fun (digits, behind) => (c :: digits, behind)
      else some ([c], d :: rest)
    else none
  | [c] => if isDigit c then some ([c], []) else none
  | [] => none

def digitsAfterBase? (isDigit : Char → Bool) : Text → Option (Text × Text)
  | '_' :: rest => digitRun? isDigit rest
  | text => digitRun? isDigit text

def isOctalDigit (c : Char) : Bool := '0' ≤ c && c ≤ '7'

def isBinaryDigit (c : Char) : Bool := c = '0' || c = '1'

def isHexDigit (c : Char) : Bool := (Text.hexValue? c).isSome

def valueIn (base : Nat) (digits : Text) : Nat :=
  digits.foldl (fun total c => total * base + (Text.hexValue? c).getD 0) 0

def isNameCharacter (c : Char) : Bool :=
  Text.isLetter c || Text.isDigit c || c = '_' || 128 ≤ c.toNat

def beginsWithWord (word text : Text) : Bool :=
  match Text.after? word text with
  | some [] => true
  | some (c :: _) => !isNameCharacter c
  | none => false

/-- Whether a numeric literal may end in front of a text. -/
def mayEndBefore (text : Text) : Bool :=
  match text with
  | [] => true
  | 'i' :: 'f' :: _ | 'i' :: 'n' :: _ | 'i' :: 's' :: _ => true
  | c :: _ =>
    ["and", "else", "for", "or", "not"].any (fun word => beginsWithWord word.toList text)
      || !isNameCharacter c

def ended? (value : Number) (rest : Text) : Option (Number × Text) :=
  if mayEndBefore rest then some (value, rest) else none

def exponent? : Text → Option (Int × Text)
  | '+' :: rest => (digitRun? Text.isDigit rest).map fun (digits, behind) =>
      ((Text.digitsValue digits : Int), behind)
  | '-' :: rest => (digitRun? Text.isDigit rest).map fun (digits, behind) =>
      (-(Text.digitsValue digits : Int), behind)
  | rest => (digitRun? Text.isDigit rest).map fun (digits, behind) =>
      ((Text.digitsValue digits : Int), behind)

def realOrImaginary? (x : Binary64) (rest : Text) : Option (Number × Text) :=
  match rest with
  | 'j' :: behind | 'J' :: behind => ended? (.imaginary x) behind
  | _ => ended? (.real x) rest

/--
What may follow the digits of a decimal number: an exponent or the letter of an
imaginary number. `whole` is the value without either, and `digits` with
`places` of them behind the point is its decimal form.
-/
def decimalEnd? (whole : Option Number) (digits : Text) (places : Nat) (rest : Text) :
    Option (Number × Text) :=
  let valueAt (power : Int) :=
    Binary64.ofDecimal false (Text.digitsValue digits) (power - (places : Int))
  let plain : Number := whole.getD (.real (valueAt 0))
  match rest with
  | 'e' :: behind | 'E' :: behind =>
    match exponent? behind with
    | some (power, behind) => realOrImaginary? (valueAt power) behind
    | none =>
      match behind with
      | '+' :: _ | '-' :: _ => none
      | _ => ended? plain rest
  | 'j' :: behind | 'J' :: behind => ended? (.imaginary (valueAt 0)) behind
  | _ => ended? plain rest

def fraction? (digits : Text) (rest : Text) : Option (Number × Text) :=
  match rest with
  | c :: _ =>
    if Text.isDigit c then do
      let (places, rest) ← digitRun? Text.isDigit rest
      decimalEnd? none (digits ++ places) places.length rest
    else decimalEnd? none digits 0 rest
  | [] => decimalEnd? none digits 0 rest

/-- Whether digits can be a whole number: not too many, and without a zero in front of others. -/
def isWholeNumber (digits : Text) : Bool :=
  digits.all (· = '0') || (digits.head? != some '0' && digits.length ≤ Text.digitLimit)

def decimal? (text : Text) : Option (Number × Text) := do
  let (digits, rest) ← digitRun? Text.isDigit text
  match rest with
  | '.' :: rest => fraction? digits rest
  | _ =>
    let (value, behind) ← decimalEnd? (some (.whole (Text.digitsValue digits))) digits 0 rest
    match value with
    | .whole _ => if isWholeNumber digits then some (value, behind) else none
    | _ => some (value, behind)

def withBase? (base : Nat) (isDigit : Char → Bool) (text : Text) : Option (Number × Text) := do
  let (digits, rest) ← digitsAfterBase? isDigit text
  ended? (.whole (valueIn base digits)) rest

def read? (text : Text) : Option (Number × Text) :=
  match text with
  | '0' :: 'x' :: rest | '0' :: 'X' :: rest => withBase? 16 isHexDigit rest
  | '0' :: 'o' :: rest | '0' :: 'O' :: rest => withBase? 8 isOctalDigit rest
  | '0' :: 'b' :: rest | '0' :: 'B' :: rest => withBase? 2 isBinaryDigit rest
  | '.' :: rest => fraction? [] rest
  | _ => decimal? text

def begins : Text → Bool
  | '.' :: c :: _ => Text.isDigit c
  | c :: _ => Text.isDigit c
  | [] => false

end ControllerClient.Source.Numeral
