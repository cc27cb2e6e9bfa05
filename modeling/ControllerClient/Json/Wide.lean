import ControllerClient.Json.Reader
import ControllerClient.Json.Writer
import ControllerClient.Text.Wide

/-!
Compact JSON in which characters beyond ASCII stand for themselves.
-/

namespace ControllerClient.Json

def unitOf (digits : Text) : Nat := ((fourDigits? digits).map (·.1)).getD 0

/--
The code units of a written document, in which escapes of what is beyond ASCII
are replaced by their units; a backslash that is itself escaped begins no escape.
-/
def wideUnits : Text → List Nat
  | '\\' :: 'u' :: a :: b :: c :: d :: rest =>
    let digits := [a, b, c, d]
    (if unitOf digits < 0x7f then ('\\' :: 'u' :: digits).map Char.toNat else [unitOf digits])
      ++ wideUnits rest
  | '\\' :: c :: rest => '\\'.toNat :: c.toNat :: wideUnits rest
  | c :: rest => c.toNat :: wideUnits rest
  | [] => []

/-- A written document with characters beyond ASCII in place of their escapes. -/
def withWideCharacters (document : Text) : Text := Wide.ofUnits (wideUnits document)

end ControllerClient.Json
