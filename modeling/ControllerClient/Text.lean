/-!
Text is a list of characters. This module holds the few cutting and joining
operations that the rest of the library shares, each with the law that says
what it keeps.
-/

namespace ControllerClient

/-- Text is kept as the list of its characters, so that every law about it is an induction. -/
abbrev Text := List Char

namespace Text

def onFirstPiece (c : Char) : List Text → List Text
  | [] => [[c]]
  | piece :: later => (c :: piece) :: later

/-- The pieces of a text between the occurrences of a separator; there is always one. -/
def pieces (separator : Char) (text : Text) : List Text :=
  text.foldr (fun c found => if c = separator then [] :: found else onFirstPiece c found) [[]]

def joined (separator : Text) : List Text → Text
  | [] => []
  | [piece] => piece
  | piece :: later => piece ++ separator ++ joined separator later

@[simp] theorem pieces_nil (separator : Char) : pieces separator [] = [[]] := rfl

theorem pieces_cons (separator c : Char) (rest : Text) :
    pieces separator (c :: rest) =
      if c = separator then [] :: pieces separator rest
      else onFirstPiece c (pieces separator rest) := rfl

theorem pieces_ne_nil (separator : Char) (text : Text) : pieces separator text ≠ [] := by
  cases text with
  | nil => simp
  | cons c rest =>
      rw [pieces_cons]
      split
      · simp
      · cases pieces separator rest <;> simp [onFirstPiece]

theorem joined_cons_of_ne_nil (separator piece : Text) {later : List Text} (h : later ≠ []) :
    joined separator (piece :: later) = piece ++ separator ++ joined separator later := by
  cases later with
  | nil => exact absurd rfl h
  | cons next more => rfl

theorem joined_onFirstPiece (separator : Text) (c : Char) {found : List Text} (h : found ≠ []) :
    joined separator (onFirstPiece c found) = c :: joined separator found := by
  cases found with
  | nil => exact absurd rfl h
  | cons piece later => cases later <;> rfl

/-- Cutting at a character and joining with it again gives the text back. -/
theorem joined_pieces (separator : Char) (text : Text) :
    joined [separator] (pieces separator text) = text := by
  induction text with
  | nil => rfl
  | cons c rest ih =>
      rw [pieces_cons]
      split
      · next same =>
          rw [joined_cons_of_ne_nil _ _ (pieces_ne_nil separator rest), ih, same]
          rfl
      · rw [joined_onFirstPiece _ _ (pieces_ne_nil separator rest), ih]

def after? : Text → Text → Option Text
  | [], text => some text
  | _ :: _, [] => none
  | c :: beginning, d :: text => if c = d then after? beginning text else none

theorem after?_eq_some_iff {beginning text rest : Text} :
    after? beginning text = some rest ↔ text = beginning ++ rest := by
  induction beginning generalizing text with
  | nil => simp [after?]
  | cons c beginning ih =>
      cases text with
      | nil => simp [after?]
      | cons d text =>
          rw [after?]
          split
          · next same => subst same; simpa using ih
          · next differs => simp [Ne.symm differs]

theorem isSome_after?_iff {beginning text : Text} :
    (after? beginning text).isSome = true ↔ beginning <+: text := by
  rw [Option.isSome_iff_exists]
  constructor
  · rintro ⟨rest, found⟩
    exact ⟨rest, (after?_eq_some_iff.mp found).symm⟩
  · rintro ⟨rest, same⟩
    exact ⟨rest, after?_eq_some_iff.mpr same.symm⟩

/-- The text without the first occurrence of a nonempty pattern. -/
def withoutFirst (pattern : Text) : Text → Text
  | [] => []
  | c :: rest =>
    match after? pattern (c :: rest) with
    | some remainder => remainder
    | none => c :: withoutFirst pattern rest

def cutLast? (separator : Char) (text : Text) : Option (Text × Text) :=
  match text with
  | [] => none
  | c :: rest =>
    match cutLast? separator rest with
    | some (before, behind) => some (c :: before, behind)
    | none => if c = separator then some ([], rest) else none

def replaced (old new : Char) (text : Text) : Text :=
  text.map fun c => if c = old then new else c

def isDigit (c : Char) : Bool := '0' ≤ c && c ≤ '9'

def isLetter (c : Char) : Bool := ('a' ≤ c && c ≤ 'z') || ('A' ≤ c && c ≤ 'Z')

def hexValue? (c : Char) : Option Nat :=
  if '0' ≤ c ∧ c ≤ '9' then some (c.toNat - 48)
  else if 'a' ≤ c ∧ c ≤ 'f' then some (c.toNat - 87)
  else if 'A' ≤ c ∧ c ≤ 'F' then some (c.toNat - 55)
  else none

def hexDigit (n : Nat) : Char :=
  if n < 10 then Char.ofNat (n + 48) else Char.ofNat (n + 87)

def hexDigits : (width : Nat) → Nat → Text
  | 0, _ => []
  | width + 1, n => hexDigits width (n / 16) ++ [hexDigit (n % 16)]

def ofNat (n : Nat) : Text :=
  if n < 10 then [Char.ofNat (n + 48)] else ofNat (n / 10) ++ [Char.ofNat (n % 10 + 48)]
termination_by n

def ofInt : Int → Text
  | .ofNat n => ofNat n
  | .negSucc n => '-' :: ofNat (n + 1)

/-- How many decimal digits a whole number may have where it is read or written. -/
def digitLimit : Nat := 4300

def HasFewDigits (n : Int) : Prop := (ofNat n.natAbs).length ≤ digitLimit

instance (n : Int) : Decidable (HasFewDigits n) :=
  inferInstanceAs (Decidable ((ofNat n.natAbs).length ≤ digitLimit))

def digitsValue (digits : Text) : Nat :=
  digits.foldl (fun total c => total * 10 + (c.toNat - 48)) 0

end Text

end ControllerClient
