import ControllerClient.Text

/-!
Binary floating-point numbers of 64 bits, kept as their bits: the exact value
behind the bits, and the number nearest to a decimal. All arithmetic is exact
arithmetic on whole numbers.
-/

namespace ControllerClient

/-- A floating-point number, kept as its 64 bits. -/
structure Binary64 where
  bits : UInt64
deriving DecidableEq, Repr

namespace Binary64

def powerOfTwo (n : Nat) : Nat := Nat.pow 2 n

def powerOfTen (n : Nat) : Nat := Nat.pow 10 n

/-- What the bits mean, the sign apart: `finite m e` is `m * 2 ^ e`. -/
inductive Magnitude where
  | finite (significand : Nat) (exponent : Int)
  | infinite
  | notANumber
deriving DecidableEq, Repr

def isNegative (x : Binary64) : Bool := powerOfTwo 63 ≤ x.bits.toNat

def magnitude (x : Binary64) : Magnitude :=
  let field : Nat := x.bits.toNat / powerOfTwo 52 % powerOfTwo 11
  let fraction : Nat := x.bits.toNat % powerOfTwo 52
  if field = 2047 then
    if fraction = 0 then .infinite else .notANumber
  else if field = 0 then .finite fraction (-1074)
  else .finite (powerOfTwo 52 + fraction) ((field : Int) - 1075)

private def ofFields (negative : Bool) (field fraction : Nat) : Binary64 :=
  ⟨UInt64.ofNat ((if negative then powerOfTwo 63 else 0) + field * powerOfTwo 52 + fraction)⟩

def zero (negative : Bool) : Binary64 := ofFields negative 0 0

def infinity (negative : Bool) : Binary64 := ofFields negative 2047 0

def nan : Binary64 := ofFields false 2047 (powerOfTwo 51)

/-- The nearest whole number to a quotient; a half goes to the even neighbour. -/
def roundedQuotient (numerator denominator : Nat) : Nat :=
  let quotient := numerator / denominator
  let twice := 2 * (numerator % denominator)
  if twice < denominator then quotient
  else if denominator < twice then quotient + 1
  else quotient + quotient % 2

/--
The number nearest to a positive quotient. The exponent is the least one for
which the significand has at most 53 bits, and not below that of the smallest
numbers.
-/
def ofQuotient (negative : Bool) (numerator denominator : Nat) : Binary64 :=
  if numerator = 0 then zero negative else
  let estimate : Int := (numerator.log2 : Int) - (denominator.log2 : Int) - 52
  let scaled (e : Int) : Nat × Nat :=
    if 0 ≤ e then (numerator, denominator * powerOfTwo e.toNat)
    else (numerator * powerOfTwo (-e).toNat, denominator)
  let exact :=
    if (scaled estimate).1 / (scaled estimate).2 < powerOfTwo 52 then estimate - 1 else estimate
  let exponent := max exact (-1074)
  let significand := roundedQuotient (scaled exponent).1 (scaled exponent).2
  let (significand, exponent) :=
    if significand = powerOfTwo 53 then (powerOfTwo 52, exponent + 1) else (significand, exponent)
  if 971 < exponent then infinity negative
  else if significand < powerOfTwo 52 then ofFields negative 0 significand
  else ofFields negative (exponent + 1075).toNat (significand - powerOfTwo 52)

/--
The number nearest to `digits * 10 ^ power`; far beyond the range the answer needs no
division.
-/
def ofDecimal (negative : Bool) (digits : Nat) (power : Int) : Binary64 :=
  let size : Int := (Text.ofNat digits).length + power
  if digits = 0 || size < -330 then zero negative
  else if 320 < size then infinity negative
  else if 0 ≤ power then ofQuotient negative (digits * powerOfTen power.toNat) 1
  else ofQuotient negative digits (powerOfTen (-power).toNat)

def toQuotient? (x : Binary64) : Option (Int × Nat) :=
  match x.magnitude with
  | .finite m e =>
    let signed : Int := if x.isNegative then -(m : Int) else m
    some (if 0 ≤ e then (signed * powerOfTwo e.toNat, 1) else (signed, powerOfTwo (-e).toNat))
  | _ => none

/-- Equality of numbers: a zero equals the other zero, and what is not a number equals nothing. -/
def sameNumber (x y : Binary64) : Bool :=
  match x.magnitude, y.magnitude with
  | .notANumber, _ => false
  | _, .notANumber => false
  | .infinite, .infinite => x.isNegative == y.isNegative
  | .finite m e, .finite n f => m == n && e == f && (m == 0 || x.isNegative == y.isNegative)
  | _, _ => false

def isInteger (x : Binary64) (n : Int) : Bool :=
  match x.toQuotient? with
  | some (numerator, denominator) => numerator == n * denominator
  | none => false

def add (x y : Binary64) : Binary64 :=
  match x.toQuotient?, y.toQuotient? with
  | some (a, b), some (c, d) =>
    let total := a * d + c * b
    if total = 0 then zero (x.isNegative && y.isNegative)
    else ofQuotient (total < 0) total.natAbs (b * d)
  | none, some _ => x
  | some _, none => y
  | none, none => if x = y then x else nan

def ofInt (n : Int) : Binary64 := ofQuotient (n < 0) n.natAbs 1

end Binary64

end ControllerClient
