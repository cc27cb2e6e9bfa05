import ControllerClient.Text.CodeTable
import ControllerClient.Text.UppercaseData

/-!
The upper-case form of a text. Within ASCII it is the capital letter; outside,
a character may turn into several.
-/

namespace ControllerClient.Text

def uppercaseForms : List (Nat × Text) := characterTable uppercaseEntries

def upperOf (c : Char) : Text :=
  if c.toNat < 128 then [if 'a' ≤ c ∧ c ≤ 'z' then Char.ofNat (c.toNat - 32) else c]
  else (uppercaseForms.lookup c.toNat).getD [c]

def upper (text : Text) : Text := text.flatMap upperOf

end ControllerClient.Text
