import ControllerClient.Source.Token
import ControllerClient.Text.CharacterName
import ControllerClient.Text.Surrogate

/-!
What the body of a string literal stands for. A backslash begins an escape; an
escape that is not known stands for itself, backslash included.
-/

namespace ControllerClient.Source.Literal

def hexCode? (count : Nat) (text : Text) : Option (Nat × Text) :=
  let digits := text.take count
  if digits.length = count ∧ digits.all (fun c => (Text.hexValue? c).isSome) then
    some (Text.hexRunValue digits, text.drop count)
  else none

def octalCode (count total : Nat) : Text → Nat × Text
  | c :: rest =>
    match count with
    | 0 => (total, c :: rest)
    | count + 1 =>
      if '0' ≤ c ∧ c ≤ '7' then octalCode count (total * 8 + (c.toNat - 48)) rest
      else (total, c :: rest)
  | [] => (total, [])

def fixedEscape? (c : Char) : Option Char :=
  match c with
  | '\\' => some '\\'
  | '\'' => some '\''
  | '"' => some '"'
  | 'a' => some '\x07'
  | 'b' => some '\x08'
  | 'f' => some '\x0c'
  | 'n' => some '\n'
  | 'r' => some '\r'
  | 't' => some '\t'
  | 'v' => some '\x0b'
  | _ => none

def bracedName? : Text → Option (Text × Text)
  | '\x7b' :: rest =>
    let name := rest.takeWhile (· != '\x7d')
    match rest.dropWhile (· != '\x7d') with
    | [] => none
    | _ :: behind => if name.isEmpty then none else some (name, behind)
  | _ => none

/-- What the text after a backslash stands for and what follows it, in a literal of text. -/
def textEscape? (text : Text) : Option (Text × Text) :=
  match text with
  | [] => some (['\\'], [])
  | '\n' :: rest => some ([], rest)
  | 'x' :: rest => (hexCode? 2 rest).map fun (code, behind) => ([Text.ofCode code], behind)
  | 'u' :: rest => (hexCode? 4 rest).map fun (code, behind) => ([Text.ofCode code], behind)
  | 'U' :: rest => do
    let (code, behind) ← hexCode? 8 rest
    if code < 0x110000 then some ([Text.ofCode code], behind) else none
  | 'N' :: rest => do
    let (name, behind) ← bracedName? rest
    let c ← Text.characterNamed? name
    some ([c], behind)
  | c :: rest =>
    if '0' ≤ c ∧ c ≤ '7' then
      let (code, behind) := octalCode 3 0 (c :: rest)
      some ([Text.ofCode code], behind)
    else match fixedEscape? c with
      | some meant => some ([meant], rest)
      | none => some (['\\', c], rest)

def octetEscape? (text : Text) : Option (List Nat × Text) :=
  match text with
  | [] => none
  | '\n' :: rest => some ([], rest)
  | 'x' :: rest => (hexCode? 2 rest).map fun (code, behind) => ([code], behind)
  | c :: rest =>
    if '0' ≤ c ∧ c ≤ '7' then
      let (code, behind) := octalCode 3 0 (c :: rest)
      some ([code], behind)
    else match fixedEscape? c with
      | some meant => some ([meant.toNat], rest)
      | none => some ([92, c.toNat], rest)

def unescaped (fuel : Nat) (text : Text) : Option Text :=
  match fuel, text with
  | _, [] => some []
  | 0, _ => none
  | fuel + 1, '\\' :: rest => do
    let (meant, behind) ← textEscape? rest
    let later ← unescaped fuel behind
    some (meant ++ later)
  | fuel + 1, c :: rest => (unescaped fuel rest).map (c :: ·)

def text? (raw : Bool) (body : Text) : Option Text :=
  if raw then some body else unescaped body.length body

def unescapedOctets (fuel : Nat) (text : Text) : Option (List Nat) :=
  match fuel, text with
  | _, [] => some []
  | 0, _ => none
  | fuel + 1, '\\' :: rest => do
    let (meant, behind) ← octetEscape? rest
    let later ← unescapedOctets fuel behind
    some (meant ++ later)
  | fuel + 1, c :: rest => (unescapedOctets fuel rest).map (c.toNat :: ·)

def octets? (raw : Bool) (body : Text) : Option (List UInt8) :=
  if body.all (fun c => c.toNat < 128) then
    if raw then some (body.map fun c => UInt8.ofNat c.toNat)
    else (unescapedOctets body.length body).map fun codes => codes.map UInt8.ofNat
  else none

end ControllerClient.Source.Literal
