import ControllerClient.Number.Binary64

/-!
The shortest decimal that reads back as a given floating-point number, and the
text of a number: positional for moderate sizes, with an exponent otherwise.
-/

namespace ControllerClient.Binary64

/-- A decimal `0.d₁d₂… * 10 ^ point`, its digits one whole number of a known count. -/
structure Decimal where
  digits : Nat
  count : Nat
  point : Int
deriving DecidableEq, Repr

/--
The decimals that round to a number, as bounds over one denominator. The lower
neighbour of a power of two is half as far away; the ends belong to the
interval exactly for an even significand.
-/
structure Neighbourhood where
  value : Nat
  low : Nat
  high : Nat
  denominator : Nat
  closed : Bool

def neighbourhood (significand : Nat) (exponent : Int) : Neighbourhood :=
  let narrow := significand = powerOfTwo 52 && exponent != -1074
  let scale := powerOfTwo exponent.toNat
  { value := 4 * significand * scale
    low := (4 * significand - (if narrow then 1 else 2)) * scale
    high := (4 * significand + 2) * scale
    denominator := 4 * powerOfTwo (-exponent).toNat
    closed := significand % 2 == 0 }

def Neighbourhood.contains (n : Neighbourhood) (digits : Nat) (power : Int) : Bool :=
  let decimal := digits * powerOfTen power.toNat * n.denominator
  let unit := powerOfTen (-power).toNat
  if n.closed then n.low * unit ≤ decimal && decimal ≤ n.high * unit
  else n.low * unit < decimal && decimal < n.high * unit

/--
Twice the distance of `digits * 10 ^ power` from the value, over a denominator common to all
digits.
-/
def Neighbourhood.distance (n : Neighbourhood) (digits : Nat) (power : Int) : Nat :=
  let decimal := digits * powerOfTen power.toNat * n.denominator
  let exact := n.value * powerOfTen (-power).toNat
  if decimal < exact then exact - decimal else decimal - exact

/-- The point of the value: the least power of ten above it. -/
def Neighbourhood.point (n : Neighbourhood) : Int :=
  let estimate : Int :=
    ((n.value.log2 : Int) - (n.denominator.log2 : Int)) * 30103 / 100000 - 1
  let reaches (k : Int) : Bool :=
    n.value * powerOfTen (-k).toNat < powerOfTen k.toNat * n.denominator
  let rec search : Nat → Int → Int
    | 0, k => k
    | fuel + 1, k => if reaches k then k else search fuel (k + 1)
  search 6 estimate

/--
The best decimal with a given number of digits: the nearer of the two neighbours, an even
one on a tie.
-/
def Neighbourhood.candidate? (n : Neighbourhood) (count : Nat) : Option Decimal :=
  let power := n.point - count
  let below := n.value * powerOfTen (-power).toNat / (powerOfTen power.toNat * n.denominator)
  let above := below + 1
  let pick (digits : Nat) : Option Decimal := some ⟨digits, count, n.point⟩
  match n.contains below power, n.contains above power with
  | false, false => none
  | true, false => pick below
  | false, true => pick above
  | true, true =>
    let nearBelow := n.distance below power
    let nearAbove := n.distance above power
    if nearBelow < nearAbove then pick below
    else if nearAbove < nearBelow then pick above
    else if below % 2 = 0 then pick below else pick above

def shortest (significand : Nat) (exponent : Int) : Decimal :=
  let n := neighbourhood significand exponent
  let rec search : Nat → Nat → Decimal
    | 0, count => ⟨n.value * powerOfTen (count - n.point).toNat / n.denominator, count, n.point⟩
    | fuel + 1, count =>
      match n.candidate? count with
      | some decimal => decimal
      | none => search fuel (count + 1)
  search 17 1

private def withoutTrailingZeros (digits : Text) : Text :=
  (digits.reverse.dropWhile (· == '0')).reverse

/--
Positional from 0.0001 up to sixteen digits before the point; then an exponent of at least
two digits.
-/
def Decimal.write (decimal : Decimal) : Text :=
  let written := Text.ofNat decimal.digits
  -- A candidate may have rounded up to one digit more than asked for.
  let point := decimal.point + (written.length - decimal.count : Int)
  let digits := withoutTrailingZeros written
  if -4 < point ∧ point ≤ 16 then
    if point ≤ 0 then "0.".toList ++ List.replicate (-point).toNat '0' ++ digits
    else
      let whole := digits.take point.toNat
      let fraction := digits.drop point.toNat
      whole ++ List.replicate (point.toNat - whole.length) '0' ++ ['.']
        ++ (if fraction.isEmpty then ['0'] else fraction)
  else
    let exponent := point - 1
    let size := Text.ofNat exponent.natAbs
    digits.take 1 ++ (if digits.length = 1 then [] else '.' :: digits.drop 1) ++ ['e']
      ++ [if exponent < 0 then '-' else '+'] ++ (if size.length < 2 then ['0'] else []) ++ size

/-- The text of a number: the fewest digits that read back, always with a point or an exponent. -/
def write (x : Binary64) : Text :=
  match x.magnitude with
  | .notANumber => "nan".toList
  | .infinite => if x.isNegative then "-inf".toList else "inf".toList
  | .finite m e =>
    let sign := if x.isNegative then ['-'] else []
    if m = 0 then sign ++ "0.0".toList else sign ++ (shortest m e).write

/--
The number written as `[-]digits[.digits][e[±]digits]`, `inf` or `nan`; `none` for any other
text.
-/
def read? (text : Text) : Option Binary64 :=
  let (negative, rest) := match text with
    | '-' :: rest => (true, rest)
    | rest => (false, rest)
  if rest = "inf".toList then some (infinity negative)
  else if rest = "nan".toList then some nan
  else
    let whole := rest.takeWhile Text.isDigit
    let (fraction, rest) := match rest.dropWhile Text.isDigit with
      | '.' :: rest => (rest.takeWhile Text.isDigit, rest.dropWhile Text.isDigit)
      | rest => ([], rest)
    let exponent? : Option Int := match rest with
      | [] => some 0
      | e :: rest =>
        if e = 'e' ∨ e = 'E' then
          let (minus, digits) := match rest with
            | '-' :: digits => (true, digits)
            | '+' :: digits => (false, digits)
            | digits => (false, digits)
          if digits.isEmpty || !digits.all Text.isDigit then none
          else
            let size : Int := Text.digitsValue digits
            some (if minus then -size else size)
        else none
    if whole.isEmpty then none
    else exponent?.map fun exponent =>
      ofDecimal negative (Text.digitsValue (whole ++ fraction)) (exponent - fraction.length)

end ControllerClient.Binary64
