import ControllerClient.Proofs.Json.Writing
import ControllerClient.Proofs.Text.Pieces
import ControllerClient.Proofs.Value.Shown

/-!
Written documents read back. A value that stays within the limits of the reader is
read from its text in front of whatever may follow a value, and the reader stops where
the text ends.
-/

namespace ControllerClient.Json

open Entries

/-! ### What can be read back -/

/--
Values that lists and dictionaries with texts as keys make up, nested `depth` deep at most,
with whole texts and with numbers of few enough digits.
-/
inductive IsReadable : (depth : Nat) → Value → Prop where
  | null {depth : Nat} : IsReadable depth .null
  | bool {depth : Nat} (b : Bool) : IsReadable depth (.bool b)
  | int {depth : Nat} {n : Int} (few : Text.HasFewDigits n) :
      IsReadable depth (.int n)
  | text {depth : Nat} {text : Text} (whole : IsWhole text) : IsReadable depth (.str text)
  | list {depth : Nat} {items : List Value} (each : ∀ item ∈ items, IsReadable depth item) :
      IsReadable (depth + 1) (.list items)
  | dict {depth : Nat} {fields : Table Value} (distinct : (fields.map (·.1)).Nodup)
      (whole : ∀ field ∈ fields, IsWhole field.1)
      (each : ∀ field ∈ fields, IsReadable depth field.2) :
      IsReadable (depth + 1) (.dict (ofFields fields))

theorem IsReadable.isPlain {depth : Nat} {value : Value} (readable : IsReadable depth value) :
    value.IsPlain := by
  induction readable with
  | null => exact .simple .null
  | bool b => exact .simple (.bool b)
  | int => exact .simple (.int _)
  | text => exact .simple (.text _)
  | list _ ih => exact .list ih
  | dict _ _ _ ih => exact .dict ih

def EndsValue (rest : Text) : Prop := ∀ c, rest.head? = some c → c = ',' ∨ c = ']' ∨ c = '\x7d'

theorem endsValue_nil : EndsValue [] := by
  intro c none
  cases none

theorem endsValue_cons {c : Char} (mark : c = ',' ∨ c = ']' ∨ c = '\x7d') (rest : Text) :
    EndsValue (c :: rest) := by
  intro d same
  cases same
  exact mark

/-! ### Numbers, texts and truth values -/

section Numbers

variable {rest : Text} (ends : EndsValue rest)

include ends

theorem fractionPart_ends : fractionPart rest = ([], rest) := by
  cases rest with
  | nil => rfl
  | cons c rest => rcases ends c rfl with rfl | rfl | rfl <;> rfl

theorem exponentPart_ends : exponentPart rest = (none, rest) := by
  cases rest with
  | nil => rfl
  | cons c rest => rcases ends c rfl with rfl | rfl | rfl <;> rfl

theorem span_ends : rest.takeWhile Text.isDigit = [] ∧ rest.dropWhile Text.isDigit = rest := by
  cases rest with
  | nil => exact ⟨rfl, rfl⟩
  | cons c rest => rcases ends c rfl with rfl | rfl | rfl <;> exact ⟨rfl, rfl⟩

theorem wholePart_ofNat (n : Nat) : wholePart (Text.ofNat n ++ rest) = (Text.ofNat n, rest) := by
  rcases Nat.eq_zero_or_pos n with rfl | positive
  · rw [Text.ofNat]
    rfl
  · have digits := Text.isDigit_of_mem_ofNat n
    have start := Text.head?_ofNat positive
    have some_ := Text.ofNat_ne_nil n
    obtain ⟨taken, dropped⟩ := span_ends ends
    generalize Text.ofNat n = text at digits start some_
    have head : (text ++ rest).head? ≠ some '0' := by rwa [List.head?_append_of_ne_nil _ some_]
    unfold wholePart
    split
    · next same =>
        rw [same] at head
        exact absurd rfl head
    · rw [List.takeWhile_append_of_pos digits, List.dropWhile_append_of_pos digits, taken, dropped,
        List.append_nil]

theorem readNumber_of_sign {text unsigned : Text} {negative : Bool} {n : Nat}
    (signed : sign text = (negative, unsigned)) (digits : unsigned = Text.ofNat n ++ rest)
    (few : (Text.ofNat n).length ≤ Text.digitLimit) :
    readNumber text = .ok (.int (if negative then -(n : Int) else n), rest) := by
  have notMany : ¬ Text.digitLimit < (Text.ofNat n).length := Nat.not_lt.mpr few
  simp [readNumber, signed, digits, wholePart_ofNat ends n, fractionPart_ends ends,
    exponentPart_ends ends, Text.ofNat_ne_nil n, notMany, Text.digitsValue_ofNat]

omit ends in
theorem sign_ofNat (n : Nat) : sign (Text.ofNat n ++ rest) = (false, Text.ofNat n ++ rest) := by
  have digits := Text.isDigit_of_mem_ofNat n
  have some_ := Text.ofNat_ne_nil n
  generalize Text.ofNat n = text at digits some_
  cases text with
  | nil => exact absurd rfl some_
  | cons d text =>
      have noSign : d ≠ '-' := by
        rintro rfl
        exact absurd (digits '-' List.mem_cons_self) (by decide)
      unfold sign
      split
      · next same => exact absurd (List.cons.inj same).1 noSign
      · rfl

theorem readNumber_ofInt {n : Int} (few : Text.HasFewDigits n) :
    readNumber (Text.ofInt n ++ rest) = .ok (.int n, rest) := by
  cases n with
  | ofNat n => exact readNumber_of_sign ends (sign_ofNat n) rfl few
  | negSucc n => exact readNumber_of_sign ends (n := n + 1) rfl rfl few

end Numbers

theorem exists_ofInt (n : Int) : ∃ d more, Text.isDigit d = true ∧
    (Text.ofInt n = d :: more ∨ Text.ofInt n = '-' :: d :: more) := by
  have digits (m : Nat) : ∃ d more, Text.isDigit d = true ∧ Text.ofNat m = d :: more := by
    have each := Text.isDigit_of_mem_ofNat m
    have some_ := Text.ofNat_ne_nil m
    generalize Text.ofNat m = text at each some_
    cases text with
    | nil => exact absurd rfl some_
    | cons d more => exact ⟨d, more, each d List.mem_cons_self, rfl⟩
  cases n with
  | ofNat m =>
      obtain ⟨d, more, digit, same⟩ := digits m
      exact ⟨d, more, digit, Or.inl same⟩
  | negSucc m =>
      obtain ⟨d, more, digit, same⟩ := digits (m + 1)
      exact ⟨d, more, digit, Or.inr (congrArg ('-' :: ·) same)⟩

theorem findSome?_words_ofInt (n : Int) (rest : Text) :
    (words.findSome? fun (word, value) =>
      (Text.after? word (Text.ofInt n ++ rest)).map (value, ·)) = none := by
  obtain ⟨d, more, digit, same⟩ := exists_ofInt n
  have notLetter : d ≠ 'n' ∧ d ≠ 't' ∧ d ≠ 'f' ∧ d ≠ 'N' ∧ d ≠ 'I' ∧ d ≠ '-' := by
    refine ⟨?_, ?_, ?_, ?_, ?_, ?_⟩ <;>
      · rintro rfl
        exact absurd digit (by decide)
  obtain ⟨n, t, f, upperN, upperI, minus⟩ := notLetter
  rcases same with same | same <;>
    simp [same, words, Text.after?, n.symm, t.symm, f.symm, upperN.symm, upperI.symm, minus.symm]

theorem readScalar_ofInt {n : Int} (few : Text.HasFewDigits n) {rest : Text}
    (ends : EndsValue rest) : readScalar (Text.ofInt n ++ rest) = .ok (.int n, rest) := by
  unfold readScalar
  rw [findSome?_words_ofInt]
  exact readNumber_ofInt ends few

theorem readValue_scalar {c : Char} (noQuote : c ≠ '"') (noBracket : c ≠ '[') (noBrace : c ≠ '\x7b')
    (fuel depth : Nat) (rest : Text) :
    readValue (fuel + 1) depth (c :: rest) = readScalar (c :: rest) := by
  unfold readValue
  simp only [if_neg noQuote, if_neg noBracket, if_neg noBrace]

theorem isBlank_of_isDigit {d : Char} (digit : Text.isDigit d = true) : isBlank d = false := by
  rw [Bool.eq_false_iff]
  intro blank
  simp only [isBlank, Bool.or_eq_true, beq_iff_eq] at blank
  rcases blank with ((rfl | rfl) | rfl) | rfl <;> exact absurd digit (by decide)

theorem head_write {value : Value} (plain : value.IsPlain) {text : Text}
    (written : write value = .ok text) :
    ∃ c more, text = c :: more ∧ isBlank c = false ∧ c ≠ ']' := by
  cases plain with
  | simple simple =>
      cases simple with
      | null =>
          cases written
          exact ⟨_, _, rfl, by decide⟩
      | bool b =>
          cases written
          cases b <;> exact ⟨_, _, rfl, by decide⟩
      | int n =>
          cases (Value.limited_eq_ok_iff.mp written).2
          obtain ⟨d, more, digit, same | same⟩ := exists_ofInt n
          · refine ⟨d, more, same, isBlank_of_isDigit digit, ?_⟩
            rintro rfl
            exact absurd digit (by decide)
          · exact ⟨'-', d :: more, same, by decide⟩
      | text t =>
          cases written
          exact ⟨_, _, rfl, by decide⟩
  | list each =>
      obtain ⟨texts, _, rfl⟩ := write_list_eq_ok_iff.mp written
      exact ⟨_, _, rfl, by decide⟩
  | dict each =>
      obtain ⟨texts, _, rfl⟩ := write_dict_eq_ok_iff.mp written
      exact ⟨_, _, rfl, by decide⟩

/-! ### Items, entries and values -/

section Parts

variable {depth fuel : Nat}

theorem skipBlanks_of_head {c : Char} (noBlank : isBlank c = false) (rest : Text) :
    skipBlanks (c :: rest) = c :: rest := by
  simp [skipBlanks, noBlank]

theorem skipBlanks_joined {part : Text}
    (unblanked : ∀ rest, skipBlanks (part ++ rest) = part ++ rest) (parts : List Text)
    (rest : Text) :
    skipBlanks (Text.joined [','] (part :: parts) ++ rest) =
      Text.joined [','] (part :: parts) ++ rest := by
  obtain ⟨more, same⟩ := Text.exists_joined_cons [','] part parts
  rw [same, List.append_assoc]
  exact unblanked (more ++ rest)

/-- A text that is read as a value with enough steps, whatever may follow a value behind it. -/
def ReadsValue (depth : Nat) (value : Value) (text : Text) : Prop :=
  (∃ c more, text = c :: more ∧ isBlank c = false ∧ c ≠ ']') ∧
    ∀ rest fuel, EndsValue rest → text.length ≤ fuel →
      readValue fuel depth (text ++ rest) = .ok (value, rest)

theorem skipBlanks_readsValue {value : Value} {text : Text} (reads : ReadsValue depth value text)
    (rest : Text) : skipBlanks (text ++ rest) = text ++ rest := by
  obtain ⟨⟨c, more, rfl, noBlank, _⟩, _⟩ := reads
  exact skipBlanks_of_head noBlank (more ++ rest)

theorem readItems_last {text rest : Text} {item : Value}
    (read : readValue fuel depth text = .ok (item, ']' :: rest)) :
    readItems (fuel + 1) depth text = .ok ([item], rest) := by
  unfold readItems
  rw [read]
  rfl

theorem readItems_more {text behind rest : Text} {item : Value} {items : List Value}
    (read : readValue fuel depth text = .ok (item, ',' :: behind))
    (start : skipBlanks behind = behind)
    (later : readItems fuel depth behind = .ok (items, rest)) :
    readItems (fuel + 1) depth text = .ok (item :: items, rest) := by
  unfold readItems
  rw [read]
  change (readItems fuel depth (skipBlanks behind)).map _ = _
  rw [start, later]
  rfl

theorem readItems_joined {items : List Value} {texts : List Text}
    (each : List.Forall₂ (ReadsValue depth) items texts) (some_ : items ≠ []) (rest : Text)
    (enough : (Text.joined [','] texts).length < fuel) :
    readItems fuel depth (Text.joined [','] texts ++ ']' :: rest) = .ok (items, rest) := by
  induction each generalizing fuel with
  | nil => exact absurd rfl some_
  | @cons item text items texts first others ih =>
      obtain ⟨fuel, rfl⟩ := Nat.exists_eq_succ_of_ne_zero (Nat.ne_of_gt (Nat.zero_lt_of_lt enough))
      cases others with
      | nil =>
          exact readItems_last (first.2 _ fuel (endsValue_cons (by decide) rest)
            (Nat.le_of_lt_succ enough))
      | @cons second secondText items texts next others =>
          have several : secondText :: texts ≠ [] := List.cons_ne_nil _ _
          rw [Text.joined_cons_of_ne_nil _ _ several] at enough ⊢
          simp only [List.length_append, List.length_cons, List.length_nil] at enough
          rw [List.append_assoc, List.append_assoc]
          have start := skipBlanks_joined (skipBlanks_readsValue next) texts (']' :: rest)
          exact readItems_more (first.2 _ fuel (endsValue_cons (by decide) _) (by omega)) start
            (ih (List.cons_ne_nil _ _) (by omega))

def ReadsField (depth : Nat) (field : Text × Value) (text : Text) : Prop :=
  IsWhole field.1 ∧ ∃ shown, ReadsValue depth field.2 shown ∧ text = fieldText field.1 shown

theorem ReadsField.parts {field : Text × Value} {text : Text}
    (reads : ReadsField depth field text) (enough : text.length ≤ fuel) {behind : Text}
    (ends : EndsValue behind) : ∃ shown,
      readString fuel (text ++ behind) = .ok (field.1, ':' :: (shown ++ behind)) ∧
        skipBlanks (shown ++ behind) = shown ++ behind ∧
        readValue fuel depth (shown ++ behind) = .ok (field.2, behind) := by
  obtain ⟨whole, shown, value, rfl⟩ := reads
  have length : (fieldText field.1 shown).length = (string field.1).length + (shown.length + 1) := by
    rw [fieldText, List.length_append, List.length_cons]
  refine ⟨shown, ?_, skipBlanks_readsValue value behind, value.2 behind fuel ends (by omega)⟩
  rw [fieldText, List.append_assoc]
  exact readString_string whole _ (by omega)

theorem readEntries_last {field : Text × Value} {text : Text}
    (reads : ReadsField depth field text) (enough : text.length ≤ fuel) (rest : Text) :
    readEntries (fuel + 1) depth (text ++ '\x7d' :: rest) =
      .ok ([(.str field.1, field.2)], rest) := by
  obtain ⟨shown, named, start, read⟩ :=
    reads.parts enough (endsValue_cons (Or.inr (Or.inr rfl)) rest)
  obtain ⟨_, _, _, rfl⟩ := reads
  change readString fuel ('"' :: _) = _ at named
  change readEntries (fuel + 1) depth ('"' :: _) = _
  simp only [readEntries, named, skipBlanks_of_head (c := ':') rfl, start, read,
    skipBlanks_of_head (c := '\x7d') rfl]

theorem readEntries_more {field : Text × Value} {text behind rest : Text}
    {pairs : List (Value × Value)} (reads : ReadsField depth field text)
    (enough : text.length ≤ fuel) (start : skipBlanks behind = behind)
    (later : readEntries fuel depth behind = .ok (pairs, rest)) :
    readEntries (fuel + 1) depth (text ++ ',' :: behind) =
      .ok ((.str field.1, field.2) :: pairs, rest) := by
  obtain ⟨shown, named, before, read⟩ := reads.parts enough (endsValue_cons (Or.inl rfl) behind)
  obtain ⟨_, _, _, rfl⟩ := reads
  change readString fuel ('"' :: _) = _ at named
  change readEntries (fuel + 1) depth ('"' :: _) = _
  simp only [readEntries, named, skipBlanks_of_head (c := ':') rfl, before, read,
    skipBlanks_of_head (c := ',') rfl, start, later]
  rfl

theorem skipBlanks_readsField {field : Text × Value} {text : Text}
    (reads : ReadsField depth field text) (rest : Text) :
    skipBlanks (text ++ rest) = text ++ rest := by
  obtain ⟨_, shown, _, rfl⟩ := reads
  rfl

theorem readEntries_joined {fields : Table Value} {texts : List Text}
    (each : List.Forall₂ (ReadsField depth) fields texts) (some_ : fields ≠ []) (rest : Text)
    (enough : (Text.joined [','] texts).length < fuel) :
    readEntries fuel depth (Text.joined [','] texts ++ '\x7d' :: rest) =
      .ok (ofFields fields, rest) := by
  induction each generalizing fuel with
  | nil => exact absurd rfl some_
  | @cons field text fields texts first others ih =>
      obtain ⟨fuel, rfl⟩ := Nat.exists_eq_succ_of_ne_zero (Nat.ne_of_gt (Nat.zero_lt_of_lt enough))
      cases others with
      | nil => exact readEntries_last first (Nat.le_of_lt_succ enough) rest
      | @cons second secondText fields texts next others =>
          have several : secondText :: texts ≠ [] := List.cons_ne_nil _ _
          rw [Text.joined_cons_of_ne_nil _ _ several] at enough ⊢
          simp only [List.length_append, List.length_cons, List.length_nil] at enough
          rw [List.append_assoc, List.append_assoc]
          have start := skipBlanks_joined (skipBlanks_readsField next) texts ('\x7d' :: rest)
          exact readEntries_more first (by omega) start (ih (List.cons_ne_nil _ _) (by omega))

end Parts

section Nested

variable {depth fuel : Nat} {texts : List Text}

theorem readValue_list {items : List Value}
    (each : List.Forall₂ (ReadsValue depth) items texts)
    (enough : (Text.joined [','] texts).length < fuel) (rest : Text) :
    readValue (fuel + 1) (depth + 1) ('[' :: (Text.joined [','] texts ++ ']' :: rest)) =
      .ok (.list items, rest) := by
  cases each with
  | nil => rfl
  | @cons item text items texts first others =>
      have read := readItems_joined (.cons first others) (List.cons_ne_nil _ _) rest enough
      have start := skipBlanks_joined (skipBlanks_readsValue first) texts (']' :: rest)
      obtain ⟨more, same⟩ := Text.exists_joined_cons [','] text texts
      obtain ⟨⟨c, tail, rfl, _, notEnd⟩, _⟩ := first
      unfold readValue
      simp only [if_neg (show '[' ≠ '"' by decide), if_true, start]
      split
      · next closed =>
          rw [same] at closed
          exact absurd (List.cons.inj closed).1 notEnd
      · rw [read]
        rfl

theorem readValue_dict {fields : Table Value}
    (each : List.Forall₂ (ReadsField depth) fields texts) (distinct : (fields.map (·.1)).Nodup)
    (enough : (Text.joined [','] texts).length < fuel) (rest : Text) :
    readValue (fuel + 1) (depth + 1) ('\x7b' :: (Text.joined [','] texts ++ '\x7d' :: rest)) =
      .ok (.dict (ofFields fields), rest) := by
  cases each with
  | nil => rfl
  | @cons field text fields texts first others =>
      have read := readEntries_joined (.cons first others) (List.cons_ne_nil _ _) rest enough
      have pairs := ofPairs_texts (·.1) (·.2) (field :: fields) distinct
      have start := skipBlanks_joined (skipBlanks_readsField first) texts ('\x7d' :: rest)
      obtain ⟨more, same⟩ := Text.exists_joined_cons [','] text texts
      obtain ⟨_, shown, _, rfl⟩ := first
      unfold readValue
      simp only [if_neg (show '\x7b' ≠ '"' by decide), if_neg (show '\x7b' ≠ '[' by decide), if_true,
        start]
      split
      · next closed =>
          rw [same] at closed
          cases closed
      · rw [read]
        unfold ofFields
        exact congrArg (fun entries => Except.ok (Value.dict entries, rest)) pairs

end Nested

theorem readsValue_of {depth : Nat} {value : Value} {text : Text}
    (head : ∃ c more, text = c :: more ∧ isBlank c = false ∧ c ≠ ']')
    (read : ∀ rest fuel, EndsValue rest → text.length ≤ fuel + 1 →
      readValue (fuel + 1) depth (text ++ rest) = .ok (value, rest)) :
    ReadsValue depth value text := by
  refine ⟨head, fun rest fuel ends enough => ?_⟩
  obtain ⟨c, more, rfl, _⟩ := head
  cases fuel with
  | zero => cases enough
  | succ fuel => exact read rest fuel ends enough

/-- A written value is read back. -/
theorem readsValue_write {depth : Nat} {value : Value} (readable : IsReadable depth value)
    {text : Text} (written : write value = .ok text) : ReadsValue depth value text := by
  induction readable generalizing text with
  | null =>
      apply readsValue_of (head_write (.simple .null) written)
      intro rest fuel _ _
      cases written
      rfl
  | bool b =>
      apply readsValue_of (head_write (.simple (.bool b)) written)
      intro rest fuel _ _
      cases written
      cases b <;> rfl
  | int few =>
      apply readsValue_of (head_write (.simple (.int _)) written)
      intro rest fuel ends _
      cases (Value.limited_eq_ok_iff.mp written).2
      rw [← readScalar_ofInt few ends]
      obtain ⟨d, more, digit, same | same⟩ := exists_ofInt _
      · have noMark : d ≠ '"' ∧ d ≠ '[' ∧ d ≠ '\x7b' := by
          refine ⟨?_, ?_, ?_⟩ <;>
            · rintro rfl
              exact absurd digit (by decide)
        rw [same]
        exact readValue_scalar noMark.1 noMark.2.1 noMark.2.2 fuel _ _
      · rw [same]
        exact readValue_scalar (by decide) (by decide) (by decide) fuel _ _
  | text whole =>
      apply readsValue_of (head_write (.simple (.text _)) written)
      intro rest fuel _ enough
      cases written
      have read := readString_string whole rest enough
      unfold readValue
      change (readString fuel (string _ ++ rest)).map _ = _
      rw [read]
      rfl
  | list each ih =>
      apply readsValue_of (head_write (IsReadable.list each).isPlain written)
      intro rest fuel _ enough
      obtain ⟨texts, parts, rfl⟩ := write_list_eq_ok_iff.mp written
      have reads := ((List.forall₂_and_left _ _).mpr ⟨ih, parts⟩).imp fun item text both =>
        both.1 both.2
      simp only [List.length_append, List.length_cons, List.length_nil] at enough
      rw [List.append_assoc, List.singleton_append]
      exact readValue_list reads (by omega) rest
  | @dict depth fields distinct whole each ih =>
      apply readsValue_of (head_write (IsReadable.dict distinct whole each).isPlain written)
      intro rest fuel _ enough
      obtain ⟨texts, parts, rfl⟩ := write_dict_eq_ok_iff.mp written
      have known := (List.forall₂_and_left _ _).mpr ⟨ih, parts⟩
      have reads : List.Forall₂ (ReadsField depth) fields texts := by
        apply ((List.forall₂_and_left _ _).mpr ⟨whole, known⟩).imp
        rintro field text ⟨name, later, shown, value, rfl⟩
        exact ⟨name, shown, later value, rfl⟩
      simp only [List.length_append, List.length_cons, List.length_nil] at enough
      rw [List.append_assoc, List.singleton_append]
      exact readValue_dict reads distinct (by omega) rest

/-- The document that is written for a value within the limits is read as that value. -/
theorem read_write {value : Value} (readable : IsReadable depthLimit value) {text : Text}
    (written : write value = .ok text) : read text = .ok value := by
  have reads := readsValue_write readable written
  have start := skipBlanks_readsValue reads []
  have whole := reads.2 [] (text.length + 1) endsValue_nil (Nat.le_succ _)
  rw [List.append_nil] at start whole
  have noMark : text.head? ≠ some '\uFEFF' := by
    intro same
    have printed := (isCompact_write readable.isPlain written).printed _ (List.mem_of_head? same)
    exact absurd printed (by decide)
  unfold read
  split
  · exact absurd rfl noMark
  · simp only [readDocument, start, whole]
    rfl

end ControllerClient.Json
