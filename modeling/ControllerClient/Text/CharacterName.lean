import ControllerClient.Text.CharacterNameData
import ControllerClient.Text.CodeTable
import ControllerClient.Text.Normalization

/-!
Characters by name. Letters of either case count the same, except in names that
follow a rule: ideographs by their code, syllables by their sounds.
-/

namespace ControllerClient.Text

def upperLetter (c : Char) : Char := if 'a' ≤ c && c ≤ 'z' then Char.ofNat (c.toNat - 32) else c

/-- How much of the name before it an entry shares, by its first letter. -/
def sharedLength (c : Char) : Nat :=
  if 'a' ≤ c && c ≤ 'z' then c.toNat - 97 else c.toNat - 39

/--
Where the search stands: the code of the next entry, the last name, and the code that was
found.
-/
structure NameSearch where
  code : Nat
  last : Text
  found : Option Nat

def NameSearch.step (wanted : Text) (search : NameSearch) (entry : Text) : NameSearch :=
  match entry with
  | '+' :: digits => { search with code := search.code + hexRunValue digits }
  | c :: suffix =>
    let name := search.last.take (sharedLength c) ++ suffix
    { code := search.code + 1
      last := name
      found := if name = wanted then some search.code else search.found }
  | [] => search

def NameSearch.readLine (wanted : Text) (search : NameSearch) (line : String) : NameSearch :=
  (pieces ';' line.toList).foldl (NameSearch.step wanted) search

def entryCode? (wanted : Text) : Option Nat :=
  (characterNameEntries.flatten.foldl (NameSearch.readLine wanted) ⟨0, [], none⟩).found

def aliasCode? (wanted : Text) : Option Nat :=
  (characterAliasEntries.flatMap fun line => pieces ';' line.toList).findSome? fun entry =>
    match cutLast? '=' entry with
    | some (name, code) => if name = wanted then some (hexRunValue code) else none
    | none => none

def isCodeDigit (c : Char) : Bool := ('0' ≤ c && c ≤ '9') || ('A' ≤ c && c ≤ 'F')

def codeName (code : Nat) : Text :=
  (hexDigits (if code < 0x10000 then 4 else 5) code).map upperLetter

/-- The code at the end of a name, if it is written as codes are and lies in one of some ranges. -/
def codeAfter? (beginning : Text) (ranges : List (Nat × Nat)) (name : Text) : Option Nat :=
  match after? beginning name with
  | some digits =>
    let code := hexRunValue digits
    if codeName code = digits && inRanges ranges code then some code else none
  | none => none

def unifiedIdeographRanges : List (Nat × Nat) :=
  [(0x3400, 0x4dbf), (0x4e00, 0x9fff), (0x20000, 0x2a6df), (0x2a700, 0x2b738), (0x2b740, 0x2b81d),
    (0x2b820, 0x2cea1), (0x2ceb0, 0x2ebe0), (0x30000, 0x3134a)]

def ideographCode? (name : Text) : Option Nat :=
  match after? "CJK UNIFIED IDEOGRAPH-".toList name with
  | some digits =>
    let code := hexRunValue digits
    if (digits.length = 4 ∨ digits.length = 5) ∧ digits.all isCodeDigit
        ∧ inRanges unifiedIdeographRanges code then some code
    else none
  | none => none

def codedNames : List (Text × List (Nat × Nat)) :=
  [("CJK COMPATIBILITY IDEOGRAPH-".toList,
      [(0xf900, 0xfa6d), (0xfa70, 0xfad9), (0x2f800, 0x2fa1d)]),
    ("KHITAN SMALL SCRIPT CHARACTER-".toList, [(0x18b00, 0x18cd5)]),
    ("NUSHU CHARACTER-".toList, [(0x1b170, 0x1b2fb)])]

def leadNames : List Text :=
  ["G", "GG", "N", "D", "DD", "R", "M", "B", "BB", "S", "SS", "", "J", "JJ", "C", "K", "T", "P",
    "H"].map String.toList

def vowelNames : List Text :=
  ["A", "AE", "YA", "YAE", "EO", "E", "YEO", "YE", "O", "WA", "WAE", "OE", "YO", "U", "WEO", "WE",
    "WI", "YU", "EU", "YI", "I"].map String.toList

def tailNames : List Text :=
  ["", "G", "GG", "GS", "N", "NJ", "NH", "D", "L", "LG", "LM", "LB", "LS", "LT", "LP", "LH", "M",
    "B", "BS", "S", "SS", "NG", "J", "C", "K", "T", "P", "H"].map String.toList

def longest? (texts : List Text) (text : Text) : Option (Nat × Text) :=
  texts.zipIdx.foldl
    (fun best (candidate, index) =>
      match after? candidate text, best with
      | none, _ => best
      | some rest, none => some (index, rest)
      | some rest, some (_, shortest) =>
        if rest.length < shortest.length then some (index, rest) else best)
    none

def syllableCode? (name : Text) : Option Nat := do
  let sounds ← after? "HANGUL SYLLABLE ".toList name
  let (lead, sounds) ← longest? leadNames sounds
  let (vowel, sounds) ← longest? vowelNames sounds
  let (tail, rest) ← longest? tailNames sounds
  if rest.isEmpty then some (0xac00 + (lead * 21 + vowel) * 28 + tail) else none

def characterNamed? (name : Text) : Option Char :=
  let capitals := name.map upperLetter
  let code : Option Nat :=
    syllableCode? name
      <|> ideographCode? name
      <|> codedNames.findSome? (fun (beginning, ranges) => codeAfter? beginning ranges capitals)
      <|> entryCode? capitals
      <|> aliasCode? capitals
  code.map Char.ofNat

end ControllerClient.Text
