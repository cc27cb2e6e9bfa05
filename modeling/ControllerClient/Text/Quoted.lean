import ControllerClient.Text.CodeTable
import ControllerClient.Text.Surrogate
import ControllerClient.Text.UnprintableRanges

/-!
Quoted text: a text between two quotes, with escapes for the quote, the
backslash and everything that is not printable.
-/

namespace ControllerClient.Text

def isPrintable (c : Char) : Bool :=
  if c.toNat < 128 then 0x20 ≤ c.toNat && c.toNat < 0x7f else !inRanges unprintableRanges c.toNat

/-- Single quotes, unless the text holds a single quote and no double one. -/
def quoteFor (text : Text) : Char :=
  if text.contains '\'' && !text.contains '"' then '"' else '\''

/--
One character of a quoted text; every numeric escape has the least of the three widths that
suffices.
-/
def escaped (quote c : Char) : Text :=
  if c = quote ∨ c = '\\' then ['\\', c]
  else if c = '\t' then "\\t".toList
  else if c = '\n' then "\\n".toList
  else if c = '\r' then "\\r".toList
  else if isPrintable c then [c]
  else if codeOf c < 0x100 then "\\x".toList ++ hexDigits 2 (codeOf c)
  else if codeOf c < 0x10000 then "\\u".toList ++ hexDigits 4 (codeOf c)
  else "\\U".toList ++ hexDigits 8 (codeOf c)

def quoted (text : Text) : Text :=
  let quote := quoteFor text
  quote :: text.flatMap (escaped quote) ++ [quote]

def escapedByte (quote : Char) (byte : UInt8) : Text :=
  let c := Char.ofNat byte.toNat
  if c = quote ∨ c = '\\' then ['\\', c]
  else if c = '\t' then "\\t".toList
  else if c = '\n' then "\\n".toList
  else if c = '\r' then "\\r".toList
  else if 0x20 ≤ byte.toNat ∧ byte.toNat < 0x7f then [c]
  else "\\x".toList ++ hexDigits 2 byte.toNat

def quotedBytes (bytes : List UInt8) : Text :=
  let quote := quoteFor (bytes.map fun byte => Char.ofNat byte.toNat)
  'b' :: quote :: bytes.flatMap (escapedByte quote) ++ [quote]

end ControllerClient.Text
