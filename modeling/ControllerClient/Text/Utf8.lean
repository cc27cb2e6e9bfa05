import ControllerClient.Text.Surrogate

/-!
UTF-8, one octet at a time. The scan turns octets into characters and faults;
strict decoding stops at the first fault, replacing decoding shows U+FFFD for
each.
-/

namespace ControllerClient.Utf8

/-- The octets of a character; half of a surrogate pair is written as if it were one. -/
def encodeChar (c : Char) : List UInt8 :=
  let n := Text.codeOf c
  let octet (n : Nat) : UInt8 := UInt8.ofNat n
  if n < 0x80 then [octet n]
  else if n < 0x800 then [octet (0xc0 + n / 64), octet (0x80 + n % 64)]
  else if n < 0x10000 then
    [octet (0xe0 + n / 4096), octet (0x80 + n / 64 % 64), octet (0x80 + n % 64)]
  else
    [octet (0xf0 + n / 262144), octet (0x80 + n / 4096 % 64), octet (0x80 + n / 64 % 64),
      octet (0x80 + n % 64)]

def encode (text : Text) : List UInt8 := text.flatMap encodeChar

inductive Problem where
  | invalidStart
  | invalidContinuation
  | unexpectedEnd
deriving DecidableEq, Repr

/-- One result of the scan: a character, or octets that are none. -/
inductive Piece where
  | character (c : Char)
  | fault (problem : Problem) (octets : List UInt8)
deriving DecidableEq, Repr

/--
An unfinished character: its bits so far, how many octets are still owed, the
least and the greatest value of the next one, and the octets seen, last first.
-/
structure Unfinished where
  bits : Nat
  owed : Nat
  least : Nat
  greatest : Nat
  seen : List UInt8
deriving DecidableEq, Repr

/--
What a first octet begins; the bounds exclude overlong forms, surrogates and what is too
large.
-/
def begin? (octet : UInt8) : Option Unfinished :=
  let n := octet.toNat
  if 0xc2 ≤ n ∧ n ≤ 0xdf then some ⟨n - 0xc0, 1, 0x80, 0xbf, [octet]⟩
  else if 0xe0 ≤ n ∧ n ≤ 0xef then
    some ⟨n - 0xe0, 2, if n = 0xe0 then 0xa0 else 0x80, if n = 0xed then 0x9f else 0xbf, [octet]⟩
  else if 0xf0 ≤ n ∧ n ≤ 0xf4 then
    some ⟨n - 0xf0, 3, if n = 0xf0 then 0x90 else 0x80, if n = 0xf4 then 0x8f else 0xbf, [octet]⟩
  else none

def start (octet : UInt8) : List Piece × Option Unfinished :=
  if octet.toNat < 0x80 then ([.character (Char.ofNat octet.toNat)], none)
  else match begin? octet with
    | some unfinished => ([], some unfinished)
    | none => ([.fault .invalidStart [octet]], none)

def step (state : Option Unfinished) (octet : UInt8) : List Piece × Option Unfinished :=
  match state with
  | none => start octet
  | some u =>
    if u.least ≤ octet.toNat ∧ octet.toNat ≤ u.greatest then
      let bits := u.bits * 64 + (octet.toNat - 0x80)
      if u.owed = 1 then ([.character (Char.ofNat bits)], none)
      else ([], some ⟨bits, u.owed - 1, 0x80, 0xbf, octet :: u.seen⟩)
    else
      let (pieces, next) := start octet
      (.fault .invalidContinuation u.seen.reverse :: pieces, next)

def scan (state : Option Unfinished) : List UInt8 → List Piece
  | [] =>
    match state with
    | none => []
    | some u => [.fault .unexpectedEnd u.seen.reverse]
  | octet :: rest =>
    let (pieces, next) := step state octet
    pieces ++ scan next rest

structure Fault where
  problem : Problem
  position : Nat
  octets : List UInt8
deriving DecidableEq, Repr

def textOf (position : Nat) : List Piece → Except Fault Text
  | [] => .ok []
  | .character c :: rest => do
    let text ← textOf (position + (encodeChar c).length) rest
    .ok (c :: text)
  | .fault problem octets :: _ => .error ⟨problem, position, octets⟩

def decode (octets : List UInt8) : Except Fault Text := textOf 0 (scan none octets)

def decodeReplacing (octets : List UInt8) : Text :=
  (scan none octets).map fun
    | .character c => c
    | .fault _ _ => '\uFFFD'

/-- Pieces in which an encoded surrogate, three faults in a row, is the half of a pair. -/
def withSurrogates : List Piece → List Piece
  | .fault .invalidContinuation [a] :: .fault .invalidStart [b] :: .fault .invalidStart [c]
      :: rest =>
    if a = 0xed ∧ 0xa0 ≤ b ∧ b ≤ 0xbf ∧ 0x80 ≤ c ∧ c ≤ 0xbf then
      .character (Text.ofCode (0xd000 + (b.toNat - 0x80) * 64 + (c.toNat - 0x80)))
        :: withSurrogates rest
    else
      .fault .invalidContinuation [a] :: .fault .invalidStart [b] :: .fault .invalidStart [c]
        :: withSurrogates rest
  | piece :: rest => piece :: withSurrogates rest
  | [] => []

def decodeWithSurrogates (octets : List UInt8) : Except Fault Text :=
  textOf 0 (withSurrogates (scan none octets))

end ControllerClient.Utf8
