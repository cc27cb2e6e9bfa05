import ControllerClient.Failure

/-!
Encodings with units of two and of four octets, in either order. Halves of
surrogate pairs may stand alone.
-/

namespace ControllerClient.Wide

inductive Order where
  | little | big
deriving DecidableEq, Repr

def unit (order : Order) (octets : List UInt8) : Nat :=
  let first := match order with
    | .little => octets.reverse
    | .big => octets
  first.foldl (fun total octet => total * 256 + octet.toNat) 0

def encodingName (bits : String) (order : Order) : Text :=
  "utf-".toList ++ bits.toList ++ match order with
    | .little => "-le".toList
    | .big => "-be".toList

def fault (bits : String) (order : Order) (position : Nat) (octets : List UInt8) (reason : String) :
    Failure :=
  .undecodable
    { encoding := encodingName bits order
      octet := octets.headD 0
      first := position
      last := position + (octets.length - 1)
      reason := reason.toList }

def units (order : Order) (position : Nat) : List UInt8 → Except Failure (List Nat)
  | [] => .ok []
  | [octet] => .error (fault "16" order position [octet] "truncated data")
  | a :: b :: rest => (units order (position + 2) rest).map (unit order [a, b] :: ·)

def ofUnits : List Nat → Text
  | [] => []
  | [code] => [Text.ofCode code]
  | high :: low :: rest =>
    if Text.isHighSurrogate high && Text.isLowSurrogate low then
      Text.ofCode (Text.pairCode high low) :: ofUnits rest
    else Text.ofCode high :: ofUnits (low :: rest)

def decode16 (order : Order) (position : Nat) (octets : List UInt8) : Except Failure Text :=
  (units order position octets).map ofUnits

def decode32 (order : Order) (position : Nat) : List UInt8 → Except Failure Text
  | [] => .ok []
  | a :: b :: c :: d :: rest =>
    let code := unit order [a, b, c, d]
    if code < 0x110000 then (decode32 order (position + 4) rest).map (Text.ofCode code :: ·)
    else .error (fault "32" order position [a, b, c, d] "code point not in range(0x110000)")
  | octets => .error (fault "32" order position octets "truncated data")

end ControllerClient.Wide
