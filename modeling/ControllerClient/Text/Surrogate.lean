import ControllerClient.Text

/-!
Codes of characters. A text may hold half of a surrogate pair alone. Such a half
has a code but is no `Char`; a private character of the last plane stands for
it, one of the codes `10F000` to `10F7FF`. So these private characters are never
meant as themselves: texts that hold them are not represented.
-/

namespace ControllerClient.Text

def isHighSurrogate (code : Nat) : Bool := 0xd800 ≤ code && code < 0xdc00

def isLowSurrogate (code : Nat) : Bool := 0xdc00 ≤ code && code < 0xe000

def pairCode (high low : Nat) : Nat := 0x10000 + (high - 0xd800) * 0x400 + (low - 0xdc00)

/-- The code of the private character that stands for the half of least code. -/
def firstStandIn : Nat := 0x10f000

def isSurrogate (c : Char) : Bool := firstStandIn ≤ c.toNat && c.toNat < firstStandIn + 0x800

/-- The character of a code, or the one that stands for it. -/
def ofCode (code : Nat) : Char :=
  if isHighSurrogate code || isLowSurrogate code then Char.ofNat (code - 0xd800 + firstStandIn)
  else Char.ofNat code

def codeOf (c : Char) : Nat :=
  if isSurrogate c then c.toNat - firstStandIn + 0xd800 else c.toNat

theorem toNat_ofNat {code : Nat} (valid : code.isValidChar) : (Char.ofNat code).toNat = code := by
  unfold Char.ofNat
  rw [dif_pos valid]
  rfl

end ControllerClient.Text
