import Mathlib
import ControllerClient.Source.Lexer
import ControllerClient.Source.Literal
import ControllerClient.Text.Quoted

/-!
Quoted text reads back. The reader of string literals finds the end of a quoted
text in front of anything but a further quote, and what stands between the
quotes stands for the text again, character by character.
-/

namespace ControllerClient

/-! ### Hexadecimal digits -/

namespace Text

theorem hexValue?_hexDigit : ∀ n, n < 16 → hexValue? (hexDigit n) = some n := by decide

theorem hexDigits_length (width n : Nat) : (hexDigits width n).length = width := by
  induction width generalizing n with
  | zero => rfl
  | succ width ih => simp only [hexDigits, List.length_append, ih, List.length_singleton]

theorem forall_mem_of_all {holds : Char → Prop} [DecidablePred holds] {text : Text}
    (all : text.all (fun c => decide (holds c)) = true) : ∀ c ∈ text, holds c := fun c present =>
  of_decide_eq_true (List.all_eq_true.mp all c present)

theorem forall_mem_hexDigits {p : Char → Prop} (each : ∀ n, n < 16 → p (hexDigit n))
    (width n : Nat) : ∀ c ∈ hexDigits width n, p c := by
  induction width generalizing n with
  | zero =>
      intro c present
      cases present
  | succ width ih =>
      intro c present
      rcases List.mem_append.mp present with earlier | last
      · exact ih (n / 16) c earlier
      · rw [List.mem_singleton.mp last]
        exact each (n % 16) (Nat.mod_lt n (by decide))

theorem hexRunValue_concat (digits : Text) (c : Char) :
    hexRunValue (digits ++ [c]) = hexRunValue digits * 16 + (hexValue? c).getD 0 := by
  simp only [hexRunValue, List.foldl_append, List.foldl_cons, List.foldl_nil]

theorem hexRunValue_hexDigits {width n : Nat} (fits : n < 16 ^ width) :
    hexRunValue (hexDigits width n) = n := by
  induction width generalizing n with
  | zero =>
      have zero : n = 0 := by omega
      rw [zero]
      rfl
  | succ width ih =>
      have quotient : n / 16 < 16 ^ width := by
        rw [Nat.pow_succ] at fits
        omega
      rw [hexDigits, hexRunValue_concat, ih quotient,
        hexValue?_hexDigit _ (Nat.mod_lt n (by decide)), Option.getD_some]
      omega

end Text

/-! ### Codes of characters -/

namespace Text

theorem isValidChar_toNat (c : Char) : c.toNat < 0xd800 ∨ (0xdfff < c.toNat ∧ c.toNat < 0x110000) :=
  c.valid

theorem codeOf_lt (c : Char) : codeOf c < 0x110000 := by
  have valid := isValidChar_toNat c
  unfold codeOf isSurrogate firstStandIn
  split
  · next half =>
      simp only [Bool.and_eq_true, decide_eq_true_eq] at half
      omega
  · omega

theorem isSurrogate_iff (c : Char) :
    isSurrogate c = true ↔ 0x10f000 ≤ c.toNat ∧ c.toNat < 0x10f800 := by
  unfold isSurrogate firstStandIn
  rw [Bool.and_eq_true, decide_eq_true_eq, decide_eq_true_eq]

theorem isHalf_iff (code : Nat) :
    (isHighSurrogate code || isLowSurrogate code) = true ↔ 0xd800 ≤ code ∧ code < 0xe000 := by
  unfold isHighSurrogate isLowSurrogate
  simp only [Bool.or_eq_true, Bool.and_eq_true, decide_eq_true_eq]
  omega

theorem ofCode_codeOf (c : Char) : ofCode (codeOf c) = c := by
  have valid := isValidChar_toNat c
  unfold codeOf firstStandIn
  split
  · next half =>
      have bounds := (isSurrogate_iff c).mp half
      have between : 0xd800 ≤ c.toNat - 0x10f000 + 0xd800 ∧
          c.toNat - 0x10f000 + 0xd800 < 0xe000 := by
        omega
      have back : c.toNat - 0x10f000 + 0xd800 - 0xd800 + 0x10f000 = c.toNat := by
        omega
      unfold ofCode firstStandIn
      rw [if_pos ((isHalf_iff _).mpr between), back, Char.ofNat_toNat]
  · have outside : ¬(isHighSurrogate c.toNat || isLowSurrogate c.toNat) = true := by
      rw [isHalf_iff]
      omega
    unfold ofCode
    rw [if_neg outside, Char.ofNat_toNat]

end Text

/-! ### One character and its escape -/

namespace Text

def IsQuote (quote : Char) : Prop := quote = '\'' ∨ quote = '"'

theorem isQuote_quoteFor (text : Text) : IsQuote (quoteFor text) := by
  unfold quoteFor
  split
  · exact Or.inr rfl
  · exact Or.inl rfl

/--
How a character can be escaped: by a backslash and a letter or itself, not at all, or by its
code.
-/
inductive Escaping (quote c : Char) : Text → Prop where
  | mark (same : c = quote ∨ c = '\\') : Escaping quote c ['\\', c]
  | tabulator (same : c = '\t') : Escaping quote c ['\\', 't']
  | lineFeed (same : c = '\n') : Escaping quote c ['\\', 'n']
  | carriageReturn (same : c = '\r') : Escaping quote c ['\\', 'r']
  | itself (quoteDiffers : c ≠ quote) (notBackslash : c ≠ '\\') (notLineFeed : c ≠ '\n')
      (notReturn : c ≠ '\r') (printable : isPrintable c = true) : Escaping quote c [c]
  | two (fits : codeOf c < 16 ^ 2) : Escaping quote c ('\\' :: 'x' :: hexDigits 2 (codeOf c))
  | four (fits : codeOf c < 16 ^ 4) : Escaping quote c ('\\' :: 'u' :: hexDigits 4 (codeOf c))
  | eight (fits : codeOf c < 16 ^ 8) : Escaping quote c ('\\' :: 'U' :: hexDigits 8 (codeOf c))

theorem escaping_escaped (quote c : Char) : Escaping quote c (escaped quote c) := by
  unfold escaped
  split
  · next same => exact .mark same
  split
  · next same => exact .tabulator same
  split
  · next same => exact .lineFeed same
  split
  · next same => exact .carriageReturn same
  split
  · next notMark _ notLineFeed notReturn printable =>
      exact .itself (fun same => notMark (Or.inl same)) (fun same => notMark (Or.inr same))
        notLineFeed notReturn printable
  split
  · next small => exact .two small
  split
  · next small => exact .four small
  · have below := codeOf_lt c
    exact .eight (by omega)

theorem escaped_ne_nil (quote c : Char) : escaped quote c ≠ [] := by
  have shape := escaping_escaped quote c
  intro empty
  rw [empty] at shape
  cases shape

theorem head_escaped_ne {quote : Char} (isQuote : IsQuote quote) (c : Char) :
    ∃ first rest, escaped quote c = first :: rest ∧ first ≠ quote := by
  have backslash : '\\' ≠ quote := by
    rcases isQuote with rfl | rfl <;> decide
  have shape := escaping_escaped quote c
  generalize escaped quote c = piece at shape
  cases shape with
  | itself differs => exact ⟨c, [], rfl, differs⟩
  | mark | tabulator | lineFeed | carriageReturn | two | four | eight =>
      exact ⟨_, _, rfl, backslash⟩

end Text

/-! ### Reading the escapes -/

namespace Source.Literal

open Text

theorem hexCode?_hexDigits {width n : Nat} (fits : n < 16 ^ width) (rest : Text) :
    hexCode? width (hexDigits width n ++ rest) = some (n, rest) := by
  have taken : (hexDigits width n ++ rest).take width = hexDigits width n :=
    List.take_left' (hexDigits_length width n)
  have dropped : (hexDigits width n ++ rest).drop width = rest :=
    List.drop_left' (hexDigits_length width n)
  have digits : (hexDigits width n).all (fun c => (hexValue? c).isSome) = true := by
    rw [List.all_eq_true]
    apply forall_mem_hexDigits
    intro digit small
    rw [hexValue?_hexDigit digit small]
    rfl
  unfold hexCode?
  simp only [taken, dropped]
  rw [if_pos ⟨hexDigits_length width n, digits⟩, hexRunValue_hexDigits fits]

theorem unescaped_escape {fuel : Nat} {c : Char} {rest behind : Text}
    (read : textEscape? rest = some ([c], behind)) :
    unescaped (fuel + 1) ('\\' :: rest) = (unescaped fuel behind).map (c :: ·) := by
  simp only [unescaped, read, Option.bind_eq_bind, Option.bind_some]
  cases unescaped fuel behind <;> rfl

theorem unescaped_itself (fuel : Nat) {c : Char} (plain : c ≠ '\\') (rest : Text) :
    unescaped (fuel + 1) (c :: rest) = (unescaped fuel rest).map (c :: ·) := by
  rw [unescaped]
  exact plain

theorem text?_plain {body : Text} (plain : ∀ c ∈ body, c ≠ '\\') : text? false body = some body := by
  change unescaped body.length body = some body
  induction body with
  | nil => rfl
  | cons c body ih =>
      have later := ih fun d present => plain d (List.mem_cons_of_mem c present)
      rw [List.length_cons, unescaped_itself _ (plain c List.mem_cons_self), later, Option.map_some]

/-- One escaped character stands for that character. -/
theorem unescaped_escaped {quote : Char} (isQuote : IsQuote quote) (fuel : Nat) (c : Char)
    (rest : Text) :
    unescaped (fuel + 1) (escaped quote c ++ rest) = (unescaped fuel rest).map (c :: ·) := by
  have shape := escaping_escaped quote c
  generalize escaped quote c = piece at shape
  cases shape with
  | mark same =>
      have read : textEscape? (c :: rest) = some ([c], rest) := by
        rcases same with rfl | rfl
        · rcases isQuote with rfl | rfl <;> rfl
        · rfl
      exact unescaped_escape read
  | tabulator same =>
      subst same
      have read : textEscape? ('t' :: rest) = some (['\t'], rest) := rfl
      exact unescaped_escape read
  | lineFeed same =>
      subst same
      have read : textEscape? ('n' :: rest) = some (['\n'], rest) := rfl
      exact unescaped_escape read
  | carriageReturn same =>
      subst same
      have read : textEscape? ('r' :: rest) = some (['\r'], rest) := rfl
      exact unescaped_escape read
  | itself _ plain => exact unescaped_itself fuel plain rest
  | two fits =>
      have read : textEscape? ('x' :: (hexDigits 2 (codeOf c) ++ rest)) = some ([c], rest) := by
        simp only [textEscape?, hexCode?_hexDigits fits, Option.map_some, ofCode_codeOf]
      exact unescaped_escape read
  | four fits =>
      have read : textEscape? ('u' :: (hexDigits 4 (codeOf c) ++ rest)) = some ([c], rest) := by
        simp only [textEscape?, hexCode?_hexDigits fits, Option.map_some, ofCode_codeOf]
      exact unescaped_escape read
  | eight fits =>
      have read : textEscape? ('U' :: (hexDigits 8 (codeOf c) ++ rest)) = some ([c], rest) := by
        simp only [textEscape?, hexCode?_hexDigits fits, Option.bind_eq_bind, Option.bind_some]
        rw [if_pos (codeOf_lt c), ofCode_codeOf]
      exact unescaped_escape read

theorem unescaped_flatMap_escaped {quote : Char} (isQuote : IsQuote quote) (text : Text)
    {fuel : Nat} (enough : text.length ≤ fuel) :
    unescaped fuel (text.flatMap (escaped quote)) = some text := by
  induction text generalizing fuel with
  | nil => cases fuel <;> rfl
  | cons c rest ih =>
      cases fuel with
      | zero => cases enough
      | succ fuel =>
          have smaller : rest.length ≤ fuel := Nat.le_of_succ_le_succ enough
          rw [List.flatMap_cons, unescaped_escaped isQuote, ih smaller, Option.map_some]

theorem length_le_flatMap_escaped (quote : Char) (text : Text) :
    text.length ≤ (text.flatMap (escaped quote)).length := by
  induction text with
  | nil => exact Nat.le_refl 0
  | cons c rest ih =>
      have nonempty : 0 < (escaped quote c).length :=
        List.length_pos_iff.mpr (escaped_ne_nil quote c)
      rw [List.flatMap_cons, List.length_append, List.length_cons]
      omega

theorem text?_flatMap_escaped {quote : Char} (isQuote : IsQuote quote) (text : Text) :
    text? false (text.flatMap (escaped quote)) = some text :=
  unescaped_flatMap_escaped isQuote text (length_le_flatMap_escaped quote text)

end Source.Literal

/-! ### Finding the closing quote -/

namespace Source.Lexer

open Text

def IsInner (quote c : Char) : Prop := c ≠ '\\' ∧ c ≠ quote ∧ c ≠ '\n'

theorem shortBody?_inner {quote c : Char} (inner : IsInner quote c) (rest : Text) :
    shortBody? quote (c :: rest) =
      (shortBody? quote rest).map fun (body, behind) => (c :: body, behind) := by
  rw [shortBody?]
  · rw [if_neg inner.2.1, if_neg inner.2.2]
  · intro next behind backslash
    exact absurd backslash inner.1

theorem shortBody?_run {quote : Char} (run rest : Text) (inner : ∀ c ∈ run, IsInner quote c) :
    shortBody? quote (run ++ rest) =
      (shortBody? quote rest).map fun (body, behind) => (run ++ body, behind) := by
  induction run with
  | nil =>
      rw [List.nil_append]
      cases shortBody? quote rest <;> rfl
  | cons c run ih =>
      have first : IsInner quote c := inner c List.mem_cons_self
      have later : ∀ d ∈ run, IsInner quote d := fun d present =>
        inner d (List.mem_cons_of_mem c present)
      rw [List.cons_append, shortBody?_inner first, ih later]
      cases shortBody? quote rest <;> rfl

theorem shortBody?_escape (quote c : Char) (rest : Text) :
    shortBody? quote ('\\' :: c :: rest) =
      (shortBody? quote rest).map fun (body, behind) => ('\\' :: c :: body, behind) := by
  rw [shortBody?]

theorem isInner_hexDigit {quote : Char} (isQuote : IsQuote quote) :
    ∀ n, n < 16 → IsInner quote (hexDigit n) := by
  rcases isQuote with rfl | rfl <;> unfold IsInner <;> decide

theorem shortBody?_code {quote : Char} (isQuote : IsQuote quote) (letter : Char)
    (width n : Nat) (rest : Text) :
    shortBody? quote ('\\' :: letter :: (hexDigits width n ++ rest)) =
      (shortBody? quote rest).map fun (body, behind) =>
        ('\\' :: letter :: (hexDigits width n ++ body), behind) := by
  have inner := forall_mem_hexDigits (isInner_hexDigit isQuote) width n
  rw [shortBody?_escape, shortBody?_run (hexDigits width n) rest inner]
  cases shortBody? quote rest <;> rfl

theorem shortBody?_escaped {quote : Char} (isQuote : IsQuote quote) (c : Char) (rest : Text) :
    shortBody? quote (escaped quote c ++ rest) =
      (shortBody? quote rest).map fun (body, behind) => (escaped quote c ++ body, behind) := by
  have shape := escaping_escaped quote c
  generalize escaped quote c = piece at shape
  cases shape with
  | mark => exact shortBody?_escape quote c rest
  | tabulator => exact shortBody?_escape quote 't' rest
  | lineFeed => exact shortBody?_escape quote 'n' rest
  | carriageReturn => exact shortBody?_escape quote 'r' rest
  | itself differs plain notLineFeed => exact shortBody?_inner ⟨plain, differs, notLineFeed⟩ rest
  | two => exact shortBody?_code isQuote 'x' 2 (codeOf c) rest
  | four => exact shortBody?_code isQuote 'u' 4 (codeOf c) rest
  | eight => exact shortBody?_code isQuote 'U' 8 (codeOf c) rest

theorem shortBody?_flatMap_escaped {quote : Char} (isQuote : IsQuote quote) (text rest : Text) :
    shortBody? quote (text.flatMap (escaped quote) ++ quote :: rest) =
      some (text.flatMap (escaped quote), rest) := by
  induction text with
  | nil =>
      change shortBody? quote (quote :: rest) = some ([], rest)
      rw [shortBody?]
      · rw [if_pos rfl]
      · intro next behind backslash
        rcases isQuote with rfl | rfl <;> cases backslash
  | cons c text ih =>
      rw [List.flatMap_cons, List.append_assoc, shortBody?_escaped isQuote, ih, Option.map_some]

theorem body?_eq_shortBody? {quote first : Char} (differs : first ≠ quote) (rest : Text) :
    body? quote (first :: rest) = shortBody? quote (first :: rest) := by
  cases rest with
  | nil => rfl
  | cons second rest =>
      rw [body?, if_neg]
      intro both
      exact differs both.1

theorem body?_empty {quote : Char} {rest : Text} (ends : rest.head? ≠ some quote) :
    body? quote (quote :: rest) = shortBody? quote (quote :: rest) := by
  cases rest with
  | nil => rfl
  | cons second rest =>
      rw [body?, if_neg]
      intro both
      exact ends (congrArg some both.2)

/--
The body of a quoted text ends where the quoted text ends, unless the same quote follows at
once.
-/
theorem body?_quoted {quote : Char} (isQuote : IsQuote quote) (text : Text) {rest : Text}
    (ends : rest.head? ≠ some quote) :
    body? quote (text.flatMap (escaped quote) ++ quote :: rest) =
      some (text.flatMap (escaped quote), rest) := by
  rw [← shortBody?_flatMap_escaped isQuote]
  cases text with
  | nil => exact body?_empty ends
  | cons c text =>
      obtain ⟨first, later, shape, differs⟩ := head_escaped_ne isQuote c
      rw [List.flatMap_cons, shape]
      exact body?_eq_shortBody? differs _

end Source.Lexer

/-! ### Characters that source text can hold -/

namespace Source

open Text

/-- A character that source text can hold as it is: no line end but the line feed, no null
character and no half of a surrogate pair. -/
def IsReadable (c : Char) : Prop := c ≠ '\r' ∧ c ≠ '\x00' ∧ isSurrogate c = false

instance (c : Char) : Decidable (IsReadable c) := instDecidableAnd

theorem unprintable_surrogates : (0xe01f0, 0x10ffff) ∈ unprintableRanges := by decide +kernel

theorem isReadable_of_isPrintable {c : Char} (printable : isPrintable c = true)
    (notReturn : c ≠ '\r') : IsReadable c := by
  refine ⟨notReturn, ?_, ?_⟩
  · rintro rfl
    revert printable
    decide
  · rw [Bool.eq_false_iff]
    intro half
    have bounds := (isSurrogate_iff c).mp half
    have large : ¬c.toNat < 128 := by omega
    have covered : inRanges unprintableRanges c.toNat = true := by
      unfold inRanges
      rw [List.any_eq_true]
      refine ⟨_, unprintable_surrogates, ?_⟩
      simp only [Bool.and_eq_true, decide_eq_true_eq]
      omega
    unfold isPrintable at printable
    rw [if_neg large, covered] at printable
    cases printable

theorem isReadable_hexDigit : ∀ n, n < 16 → IsReadable (hexDigit n) := by
  unfold IsReadable
  decide

theorem isReadable_code (letter : Char) (readable : IsReadable letter) (width n : Nat) :
    ∀ d ∈ '\\' :: letter :: hexDigits width n, IsReadable d := by
  intro d present
  rcases List.mem_cons.mp present with rfl | present
  · decide
  rcases List.mem_cons.mp present with rfl | present
  · exact readable
  · exact forall_mem_hexDigits isReadable_hexDigit width n d present

theorem isReadable_escaped {quote : Char} (isQuote : IsQuote quote) (c : Char) :
    ∀ d ∈ escaped quote c, IsReadable d := by
  have shape := escaping_escaped quote c
  generalize escaped quote c = piece at shape
  cases shape with
  | mark same =>
      have readable : IsReadable c := by
        rcases same with rfl | rfl
        · rcases isQuote with rfl | rfl <;> decide
        · decide
      intro d present
      rcases List.mem_cons.mp present with rfl | present
      · decide
      · rw [List.mem_singleton.mp present]
        exact readable
  | tabulator | lineFeed | carriageReturn => exact forall_mem_of_all (by decide)
  | itself _ _ _ notReturn printable =>
      intro d present
      rw [List.mem_singleton.mp present]
      exact isReadable_of_isPrintable printable notReturn
  | two => exact isReadable_code 'x' (by decide) 2 (codeOf c)
  | four => exact isReadable_code 'u' (by decide) 4 (codeOf c)
  | eight => exact isReadable_code 'U' (by decide) 8 (codeOf c)

/-- Quoted text can stand in source text, whatever the text is. -/
theorem isReadable_quoted (text : Text) : ∀ d ∈ quoted text, IsReadable d := by
  have isQuote := isQuote_quoteFor text
  have readableQuote : IsReadable (quoteFor text) := by
    rcases isQuote with same | same <;> rw [same] <;> decide
  intro d present
  rcases List.mem_append.mp present with inside | last
  · rcases List.mem_cons.mp inside with rfl | inside
    · exact readableQuote
    · obtain ⟨c, _, found⟩ := List.mem_flatMap.mp inside
      exact isReadable_escaped isQuote c d found
  · rw [List.mem_singleton.mp last]
    exact readableQuote

end Source

end ControllerClient
