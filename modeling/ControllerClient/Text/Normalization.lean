import ControllerClient.Text
import ControllerClient.Text.NormalizationData

/-!
Compatibility normalisation with canonical composition: every character falls
apart, marks are put in the order of their classes, and what can join joins
again. Text of ASCII characters is normal already.
-/

namespace ControllerClient.Text

def hangulLetters? (code : Nat) : Option Text :=
  if 0xac00 ≤ code ∧ code < 0xac00 + 11172 then
    let index := code - 0xac00
    let lead := Char.ofNat (0x1100 + index / 588)
    let vowel := Char.ofNat (0x1161 + index % 588 / 28)
    some (if index % 28 = 0 then [lead, vowel] else [lead, vowel, Char.ofNat (0x11a7 + index % 28)])
  else none

/-- The syllable of a lead and a vowel, or of an open syllable and a tail. -/
def hangulComposite? (first second : Nat) : Option Nat :=
  if 0x1100 ≤ first ∧ first < 0x1113 ∧ 0x1161 ≤ second ∧ second < 0x1176 then
    some (0xac00 + ((first - 0x1100) * 21 + (second - 0x1161)) * 28)
  else if 0xac00 ≤ first ∧ first < 0xac00 + 11172 ∧ (first - 0xac00) % 28 = 0
      ∧ 0x11a7 < second ∧ second < 0x11c3 then
    some (first + (second - 0x11a7))
  else none

def decomposed (c : Char) : Text :=
  match hangulLetters? c.toNat with
  | some letters => letters
  | none =>
    match decompositions.lookup c.toNat with
    | some codes => codes.map Char.ofNat
    | none => [c]

/-- The combining class; zero for a character that begins a new unit. -/
def combiningClass (c : Char) : Nat :=
  if c.toNat < 0x300 then 0
  else match combiningClasses.find? fun ((first, last), _) => first ≤ c.toNat && c.toNat ≤ last with
    | some (_, combiningClass) => combiningClass
    | none => 0

/--
Puts a mark behind the last character whose class is not greater; the text is kept back to
front.
-/
def insertMark (mark : Char) : Text → Text
  | [] => [mark]
  | last :: earlier =>
    if combiningClass mark < combiningClass last then last :: insertMark mark earlier
    else mark :: last :: earlier

def addOrdered (ordered : Text) (c : Char) : Text :=
  if combiningClass c = 0 then c :: ordered else insertMark c ordered

def markOrdered (text : Text) : Text := (text.foldl addOrdered []).reverse

def composite? (first second : Char) : Option Char :=
  match hangulComposite? first.toNat second.toNat with
  | some code => some (Char.ofNat code)
  | none => (composites.lookup (first.toNat, second.toNat)).map Char.ofNat

/--
Joins what can join. `starter` begins the current unit and `marks` are its
marks so far, back to front; a mark joins unless one of its class or a greater
one stands between.
-/
def composedFrom (starter : Char) (marks : Text) : Text → Text
  | [] => starter :: marks.reverse
  | c :: rest =>
    let open? := match marks with
      | [] => true
      | last :: _ => combiningClass last < combiningClass c
    match (if open? then composite? starter c else none) with
    | some joined => composedFrom joined marks rest
    | none =>
      if combiningClass c = 0 then starter :: marks.reverse ++ composedFrom c [] rest
      else composedFrom starter (c :: marks) rest

def composed : Text → Text
  | [] => []
  | c :: rest =>
    if combiningClass c = 0 then composedFrom c [] rest else c :: composed rest

def normalized (text : Text) : Text :=
  if text.all (fun c => c.toNat < 128) then text
  else composed (markOrdered (text.flatMap decomposed))

end ControllerClient.Text
