import ControllerClient.Text

/-!
Tables from code points to lists of code points, written as lines of entries
`code=code,code…` in hexadecimal with a blank between entries.
-/

namespace ControllerClient.Text

def hexRunValue (digits : Text) : Nat :=
  digits.foldl (fun total c => total * 16 + (hexValue? c).getD 0) 0

def codesOf (text : Text) : List Nat :=
  (pieces ',' text).map hexRunValue

def codeTable (lines : List String) : List (List Nat × List Nat) :=
  (lines.flatMap fun line => pieces ' ' line.toList).filterMap fun entry =>
    match pieces '=' entry with
    | [key, value] => some (codesOf key, codesOf value)
    | _ => none

def characterTable (lines : List String) : List (Nat × Text) :=
  (codeTable lines).filterMap fun (key, value) =>
    match key with
    | [code] => some (code, value.map Char.ofNat)
    | _ => none

def inRanges (ranges : List (Nat × Nat)) (code : Nat) : Bool :=
  ranges.any fun (first, last) => first ≤ code && code ≤ last

end ControllerClient.Text
