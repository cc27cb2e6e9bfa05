import ControllerClient.Text.Encoding
import ControllerClient.Text.Identifier
import ControllerClient.Text.Normalization
import ControllerClient.Text.Punycode
import ControllerClient.Text.Uppercase

/-!
Hosts of addresses: four numbers, sixteen octets in groups, or labels with dots
between them. Labels with characters beyond ASCII are written in ASCII.
-/

namespace ControllerClient.Http.Host

def isNumbers (joints : Nat) (begun : Bool) : Text → Bool
  | [] => joints == 0 && begun
  | c :: rest =>
    (Text.isDigit c && isNumbers joints true rest)
      || (begun && match joints with
        | 0 => false
        | joints + 1 => isNumbers joints false rest)

def looksNumeric (host : Text) : Bool := isNumbers 3 false host

def isOctet (piece : Text) : Bool :=
  !piece.isEmpty && piece.all Text.isDigit && piece.length ≤ 3 && Text.digitsValue piece < 256
    && (piece.length = 1 || piece.head? != some '0')

def isFourOctets (host : Text) : Bool :=
  let pieces := Text.pieces '.' host
  pieces.length = 4 && pieces.all isOctet

def isGroup (piece : Text) : Bool :=
  !piece.isEmpty && piece.length ≤ 4 && piece.all fun c => (Text.hexValue? c).isSome

/-- Groups in which four numbers at the end count as two of them. -/
def groupsOf? (text : Text) : Option (List Text) :=
  let pieces := Text.pieces ':' text
  let last := pieces.getLastD []
  if last.contains '.' then
    if isFourOctets last then some (pieces.dropLast ++ [['0'], ['0']]) else none
  else some pieces

def areSide (pieces : List Text) : Bool := pieces = [[]] || pieces.all isGroup

/-- Whether groups are eight, or fewer with one gap between two colons in place of some. -/
def areEightGroups (pieces : List Text) : Bool :=
  let inside := pieces.tail.dropLast
  match inside.idxOf? [] with
  | none => pieces.length = 8 && pieces.all isGroup
  | some place =>
    let before := pieces.take (place + 1)
    let behind := pieces.drop (place + 2)
    inside.count [] = 1 && areSide before && areSide behind
      && (before ++ behind).countP (· != []) < 8

def isSixteenOctets (text : Text) : Bool :=
  let groups := text.takeWhile (· != '%')
  let zone := text.drop groups.length
  let isZone := zone.isEmpty || (1 < zone.length && zone.count '%' = 1)
  isZone && !text.contains '/' && match groupsOf? groups with
    | some pieces => 3 ≤ pieces.length && pieces.length ≤ 9 && areEightGroups pieces
    | none => false

def lowerOf (c : Char) : Char :=
  if c.toNat < 128 then c.toLower
  else
    let smaller := Text.uppercaseForms.filterMap fun (code, form) =>
      if form = [c] && Text.normalized [Char.ofNat code] = [Char.ofNat code] then
        some (Char.ofNat code)
      else none
    smaller.getLastD c

def isDot (c : Char) : Bool := c = '.' || c = '\u3002' || c = '\uff0e' || c = '\uff61'

def labelsOf (host : Text) : List Text :=
  Text.pieces '.' (host.map fun c => if isDot c then '.' else c)

def isLabelCharacter (c : Char) : Bool :=
  if c.toNat < 128 then ('a' ≤ c && c ≤ 'z') || Text.isDigit c || c = '-'
  else Text.continuesIdentifier c && lowerOf c = c

def isLabel (label : Text) : Bool :=
  label.all isLabelCharacter && Text.normalized label = label
    && label.head? != some '-' && label.getLast? != some '-'
    && (label.drop 2).take 2 != "--".toList
    && match label with
      | [] => false
      | c :: _ => c.toNat < 128 || Text.beginsIdentifier c

def labelLimit : Nat := 63

def lengthLimit : Nat := 253

def standInMark : Text := "xn--".toList

def writtenLabel? (label : Text) : Option Text :=
  let isAscii := label.all fun c => c.toNat < 128
  let isWritten := isAscii && (Text.after? standInMark label).isSome
  let written := if isAscii then label else standInMark ++ Text.Punycode.encode label
  if (isWritten || isLabel label) && written.length ≤ labelLimit then some written else none

def writtenLabels? (host : Text) : Option Text := do
  let labels := labelsOf (host.map lowerOf)
  let ended := labels.getLast? = some []
  let labels := if ended then labels.dropLast else labels
  let written ← labels.mapM writtenLabel?
  let whole := Text.joined ['.'] written
  if whole.length ≤ lengthLimit then some (if ended then whole ++ ['.'] else whole) else none

end ControllerClient.Http.Host
