import ControllerClient.Json.Reader
import ControllerClient.Json.Writer
import ControllerClient.Proofs.Text.Quoted

/-!
Strings of JSON documents read back. Each character is written as one escape, and
each escape is read as its character. Only the two halves of a surrogate pair that
stand one behind the other would be read as the character that they make.
-/

namespace ControllerClient.Json

def IsPrinted (c : Char) : Prop := 0x20 ≤ c.toNat ∧ c.toNat < 0x7f

instance (c : Char) : Decidable (IsPrinted c) := inferInstanceAs (Decidable (_ ∧ _))

/--
How a character can be written: by a letter behind a backslash, not at all, by its code,
or by the codes of two surrogates.
-/
inductive Escaping (c : Char) : Text → Prop where
  | short (letter : Char) (printed : IsPrinted letter) (stands : shortEscape? letter = some c) :
      Escaping c ['\\', letter]
  | itself (printed : IsPrinted c) (notQuote : c ≠ '"') (notBackslash : c ≠ '\\') : Escaping c [c]
  | unit (fits : Text.codeOf c < 0x10000) : Escaping c (unitEscape (Text.codeOf c))
  | pair (code : Text.codeOf c = c.toNat) (beyond : 0x10000 ≤ c.toNat) :
      Escaping c (unitEscape (0xd800 + (c.toNat - 0x10000) / 0x400) ++
        unitEscape (0xdc00 + (c.toNat - 0x10000) % 0x400))

theorem escaping_escaped (c : Char) : Escaping c (escaped c) := by
  unfold escaped
  split
  · next same =>
      subst same
      exact .short '"' (by decide) rfl
  split
  · next same =>
      subst same
      exact .short '\\' (by decide) rfl
  split
  · next same =>
      subst same
      exact .short 'n' (by decide) rfl
  split
  · next same =>
      subst same
      exact .short 'r' (by decide) rfl
  split
  · next same =>
      subst same
      exact .short 't' (by decide) rfl
  split
  · next same =>
      subst same
      exact .short 'f' (by decide) rfl
  split
  · next same =>
      subst same
      exact .short 'b' (by decide) rfl
  split
  · next notQuote notBackslash _ _ _ _ _ printed => exact .itself printed notQuote notBackslash
  split
  · next fits => exact .unit fits
  · next large =>
      have code : Text.codeOf c = c.toNat := by
        by_cases half : Text.isSurrogate c = true
        · have bounds := (Text.isSurrogate_iff c).mp half
          unfold Text.codeOf Text.firstStandIn at large
          rw [if_pos half] at large
          omega
        · exact if_neg half
      exact .pair code (by omega)

theorem escaped_ne_nil (c : Char) : escaped c ≠ [] := by
  have shape := escaping_escaped c
  generalize escaped c = piece at shape
  cases shape <;> simp [unitEscape]

theorem fourDigits?_hexDigits {n : Nat} (fits : n < 0x10000) (rest : Text) :
    fourDigits? (Text.hexDigits 4 n ++ rest) = some (n, rest) := by
  have digit (m : Nat) : Text.hexValue? (Text.hexDigit (m % 16)) = some (m % 16) :=
    Text.hexValue?_hexDigit _ (Nat.mod_lt m (by decide))
  have value : ((n / 16 / 16 / 16 % 16 * 16 + n / 16 / 16 % 16) * 16 + n / 16 % 16) * 16 +
      n % 16 = n := by omega
  simp [Text.hexDigits, fourDigits?, digit, value]

theorem drop_hexDigits (n : Nat) (rest : Text) : (Text.hexDigits 4 n ++ rest).drop 4 = rest :=
  List.drop_left' (Text.hexDigits_length 4 n)

theorem isEmpty_drop_hexDigits (n : Nat) {rest : Text} (more : rest ≠ []) :
    ((Text.hexDigits 4 n ++ rest).drop 4).isEmpty = false := by
  rw [drop_hexDigits]
  exact List.isEmpty_eq_false_iff.mpr more

section Reading

variable {opening rest text after : Text} {fuel : Nat}

theorem stringBody_short {letter c : Char} (stands : shortEscape? letter = some c)
    (read : stringBody opening fuel rest = .ok (text, after)) :
    stringBody opening (fuel + 1) ('\\' :: letter :: rest) = .ok (c :: text, after) := by
  have notUnit : letter ≠ 'u' := by
    rintro rfl
    cases stands
  simp [stringBody, stands, read]

theorem stringBody_itself {c : Char} (printed : IsPrinted c) (notQuote : c ≠ '"')
    (notBackslash : c ≠ '\\') (read : stringBody opening fuel rest = .ok (text, after)) :
    stringBody opening (fuel + 1) (c :: rest) = .ok (c :: text, after) := by
  have notControl : ¬ c.toNat < 0x20 := Nat.not_lt.mpr printed.1
  unfold stringBody
  simp only [if_neg notQuote, if_neg notBackslash, if_neg notControl, read]

theorem stringBody_unit {unit : Nat} (fits : unit < 0x10000) (more : rest ≠ [])
    (alone : Text.isHighSurrogate unit = true → lowHalf? rest = .ok none)
    (read : stringBody opening fuel rest = .ok (text, after)) :
    stringBody opening (fuel + 1) (unitEscape unit ++ rest) =
      .ok (Text.ofCode unit :: text, after) := by
  have some_ := isEmpty_drop_hexDigits unit more
  have digits := fourDigits?_hexDigits fits rest
  by_cases high : Text.isHighSurrogate unit = true
  · simp [stringBody, unitEscape, some_, digits, high, alone high, read]
  · simp [stringBody, unitEscape, some_, digits, high, read]

theorem lowHalf?_unitEscape {unit : Nat} (fits : unit < 0x10000) (more : rest ≠ []) :
    lowHalf? (unitEscape unit ++ rest) =
      .ok (if Text.isLowSurrogate unit then some (unit, rest) else none) := by
  change lowHalf? ('\\' :: 'u' :: (Text.hexDigits 4 unit ++ rest)) = _
  rw [lowHalf?, isEmpty_drop_hexDigits unit more, fourDigits?_hexDigits fits]
  rfl

theorem stringBody_pair {high low : Nat} (first : Text.isHighSurrogate high = true)
    (second : Text.isLowSurrogate low = true) (more : rest ≠ [])
    (read : stringBody opening fuel rest = .ok (text, after)) :
    stringBody opening (fuel + 1) (unitEscape high ++ (unitEscape low ++ rest)) =
      .ok (Text.ofCode (Text.pairCode high low) :: text, after) := by
  have highFits : high < 0x10000 := by
    simp only [Text.isHighSurrogate, Bool.and_eq_true, decide_eq_true_eq] at first
    omega
  have lowFits : low < 0x10000 := by
    simp only [Text.isLowSurrogate, Bool.and_eq_true, decide_eq_true_eq] at second
    omega
  have half := lowHalf?_unitEscape lowFits more
  have some_ := isEmpty_drop_hexDigits high
    (show unitEscape low ++ rest ≠ [] from List.cons_ne_nil _ _)
  have digits := fourDigits?_hexDigits highFits (unitEscape low ++ rest)
  rw [if_pos second] at half
  change stringBody opening (fuel + 1)
    ('\\' :: 'u' :: (Text.hexDigits 4 high ++ (unitEscape low ++ rest))) = _
  simp [stringBody, some_, digits, first, half, read]

end Reading

theorem surrogates_of_large {m : Nat} (valid : m < 0x100000) :
    Text.isHighSurrogate (0xd800 + m / 0x400) = true ∧
      Text.isLowSurrogate (0xdc00 + m % 0x400) = true ∧
      Text.pairCode (0xd800 + m / 0x400) (0xdc00 + m % 0x400) = m + 0x10000 := by
  have quotient : m / 0x400 < 0x400 := by omega
  have remainder : m % 0x400 < 0x400 := Nat.mod_lt m (by decide)
  have whole : Text.pairCode (0xd800 + m / 0x400) (0xdc00 + m % 0x400) = m + 0x10000 := by
    unfold Text.pairCode
    omega
  refine ⟨?_, ?_, whole⟩
  · simp only [Text.isHighSurrogate, Bool.and_eq_true, decide_eq_true_eq]
    omega
  · simp only [Text.isLowSurrogate, Bool.and_eq_true, decide_eq_true_eq]
    omega

theorem stringBody_escaped {opening rest text after : Text} {fuel : Nat} (c : Char)
    (more : rest ≠ [])
    (alone : Text.isHighSurrogate (Text.codeOf c) = true → lowHalf? rest = .ok none)
    (read : stringBody opening fuel rest = .ok (text, after)) :
    stringBody opening (fuel + 1) (escaped c ++ rest) = .ok (c :: text, after) := by
  have shape := escaping_escaped c
  generalize escaped c = piece at shape
  cases shape with
  | short letter _ stands => exact stringBody_short stands read
  | itself printed notQuote notBackslash =>
      exact stringBody_itself printed notQuote notBackslash read
  | unit fits =>
      rw [stringBody_unit fits more alone read, Text.ofCode_codeOf]
  | pair code beyond =>
      have valid : c.toNat < 0x110000 := code ▸ Text.codeOf_lt c
      obtain ⟨first, second, whole⟩ := surrogates_of_large (m := c.toNat - 0x10000) (by omega)
      rw [List.append_assoc, stringBody_pair first second more read, whole,
        Nat.sub_add_cancel beyond, ← code, Text.ofCode_codeOf]

/-- Texts in which no first half of a surrogate pair stands right before a second half. -/
def IsWhole (text : Text) : Prop :=
  text.IsChain fun c d =>
    ¬ (Text.isHighSurrogate (Text.codeOf c) = true ∧ Text.isLowSurrogate (Text.codeOf d) = true)

instance (text : Text) : Decidable (IsWhole text) := inferInstanceAs (Decidable (List.IsChain _ _))

/-- A text without halves of surrogate pairs is whole. -/
theorem isWhole_of_forall {text : Text} (noHalf : ∀ c ∈ text, Text.isSurrogate c = false) :
    IsWhole text := by
  have code {c : Char} (present : c ∈ text) : Text.isHighSurrogate (Text.codeOf c) = false := by
    have valid := Text.isValidChar_toNat c
    unfold Text.codeOf
    rw [noHalf c present]
    simp only [Bool.false_eq_true, if_false, Text.isHighSurrogate, Bool.and_eq_false_iff,
      decide_eq_false_iff_not]
    omega
  apply List.Pairwise.isChain
  apply List.Pairwise.imp_of_mem _ (List.pairwise_of_forall (fun _ _ => trivial))
  intro c d present _ _ both
  rw [code present] at both
  exact Bool.false_ne_true both.1

theorem lowHalf?_short {letter : Char} (notUnit : letter ≠ 'u') (rest : Text) :
    lowHalf? ('\\' :: letter :: rest) = .ok none := by
  unfold lowHalf?
  split
  · next same => cases same; exact absurd rfl notUnit
  · rfl

theorem lowHalf?_itself {c : Char} (notBackslash : c ≠ '\\') (rest : Text) :
    lowHalf? (c :: rest) = .ok none := by
  unfold lowHalf?
  split
  · next same => cases same; exact absurd rfl notBackslash
  · rfl

theorem lowHalf?_escaped {c : Char} (notLow : Text.isLowSurrogate (Text.codeOf c) = false)
    {rest : Text} (more : rest ≠ []) : lowHalf? (escaped c ++ rest) = .ok none := by
  have shape := escaping_escaped c
  generalize escaped c = piece at shape
  cases shape with
  | short letter _ stands =>
      have notUnit : letter ≠ 'u' := by
        rintro rfl
        cases stands
      exact lowHalf?_short notUnit rest
  | itself _ _ notBackslash => exact lowHalf?_itself notBackslash rest
  | unit fits =>
      rw [lowHalf?_unitEscape fits more, notLow]
      rfl
  | pair code beyond =>
      have valid : c.toNat < 0x110000 := code ▸ Text.codeOf_lt c
      obtain ⟨first, -, -⟩ := surrogates_of_large (m := c.toNat - 0x10000) (by omega)
      have bounds := first
      simp only [Text.isHighSurrogate, Bool.and_eq_true, decide_eq_true_eq] at bounds
      have notSecond : Text.isLowSurrogate (0xd800 + (c.toNat - 0x10000) / 0x400) = false := by
        simp only [Text.isLowSurrogate, Bool.and_eq_false_iff, decide_eq_false_iff_not]
        omega
      rw [List.append_assoc, lowHalf?_unitEscape (by omega) (by simp [unitEscape]), notSecond]
      rfl

theorem length_le_flatMap_escaped (text : Text) : text.length ≤ (text.flatMap escaped).length := by
  induction text with
  | nil => exact Nat.zero_le _
  | cons c text ih =>
      have some_ := List.length_pos_of_ne_nil (escaped_ne_nil c)
      rw [List.flatMap_cons, List.length_append, List.length_cons]
      omega

/-- The escapes of a whole text are read as that text, up to the closing quote. -/
theorem stringBody_flatMap_escaped {opening text : Text} (whole : IsWhole text) (rest : Text)
    {fuel : Nat} (enough : text.length < fuel) :
    stringBody opening fuel (text.flatMap escaped ++ '"' :: rest) = .ok (text, rest) := by
  induction text generalizing fuel with
  | nil =>
      obtain ⟨fuel, rfl⟩ := Nat.exists_eq_succ_of_ne_zero (Nat.ne_of_gt enough)
      rfl
  | cons c text ih =>
      obtain ⟨fuel, rfl⟩ := Nat.exists_eq_succ_of_ne_zero (Nat.ne_of_gt (Nat.zero_lt_of_lt enough))
      have later := ih (List.IsChain.of_cons whole) (Nat.lt_of_succ_lt_succ enough)
      rw [List.flatMap_cons, List.append_assoc]
      apply stringBody_escaped c _ _ later
      · simp
      · intro high
        cases text with
        | nil => exact lowHalf?_itself (by decide) rest
        | cons d text =>
            have apart := (List.isChain_cons_cons.mp whole).1
            have notLow : Text.isLowSurrogate (Text.codeOf d) = false :=
              Bool.eq_false_iff.mpr fun low => apart ⟨high, low⟩
            rw [List.flatMap_cons, List.append_assoc]
            exact lowHalf?_escaped notLow (by simp)

theorem readString_string {text : Text} (whole : IsWhole text) (rest : Text) {fuel : Nat}
    (enough : (string text).length ≤ fuel + 1) :
    readString fuel (string text ++ rest) = .ok (text, rest) := by
  have size := length_le_flatMap_escaped text
  have written : (string text ++ rest).drop 1 = text.flatMap escaped ++ '"' :: rest := by
    simp [string]
  rw [readString, written]
  apply stringBody_flatMap_escaped whole
  simp only [string, List.length_append, List.length_cons, List.length_nil] at enough
  omega

end ControllerClient.Json
