import ControllerClient.Proofs.Json.Strings
import ControllerClient.Proofs.Text.Digits
import ControllerClient.Proofs.Value.Fields

/-!
The text that is written for a plain value. There always is one, it is made of the
texts of the parts of the value, all of its characters are printed ones of ASCII, and
no blank stands in it outside of a string.
-/

namespace ControllerClient.Json

open Entries

theorem exists_of_forall₂_right {α β : Type} {relates : α → β → Prop} {left : List α}
    {right : List β} (all : List.Forall₂ relates left right) {b : β} (present : b ∈ right) :
    ∃ a ∈ left, relates a b := by
  induction all with
  | nil => cases present
  | cons first later ih =>
      rcases List.mem_cons.mp present with rfl | inside
      · exact ⟨_, List.mem_cons_self, first⟩
      · obtain ⟨a, inside, related⟩ := ih inside
        exact ⟨a, List.mem_cons_of_mem _ inside, related⟩

theorem writeItems_eq_ok_iff {items : List Value} {texts : List Text} :
    writeItems items = .ok texts ↔
      List.Forall₂ (fun item text => write item = .ok text) items texts := by
  induction items generalizing texts with
  | nil => cases texts <;> simp [writeItems]
  | cons item items ih =>
      rw [writeItems]
      cases first : write item with
      | error failure => cases texts <;> simp [first]
      | ok text =>
          cases later : writeItems items with
          | error failure => cases texts <;> simp [Except.map, ← ih, later]
          | ok others => cases texts <;> simp [Except.map, first, ← ih, later]

def fieldText (name text : Text) : Text := string name ++ ':' :: text

theorem writeEntries_ofFields_eq_ok_iff {fields : Table Value} {texts : List Text} :
    writeEntries (ofFields fields) = .ok texts ↔
      List.Forall₂ (fun field text => ∃ value, write field.2 = .ok value ∧
        text = fieldText field.1 value) fields texts := by
  unfold fieldText
  induction fields generalizing texts with
  | nil => cases texts <;> simp [writeEntries]
  | cons field fields ih =>
      rw [ofFields_cons, writeEntries, key]
      cases first : write field.2 with
      | error failure => cases texts <;> simp [first]
      | ok text =>
          cases later : writeEntries (ofFields fields) with
          | error failure => cases texts <;> simp [Except.map, ← ih, later]
          | ok others =>
              cases texts <;>
                simp [Except.map, first, ← ih, later, eq_comm (a := string field.1 ++ _)]

theorem write_list_eq_ok_iff {items : List Value} {text : Text} :
    write (.list items) = .ok text ↔
      ∃ texts, List.Forall₂ (fun item text => write item = .ok text) items texts ∧
        text = '[' :: Text.joined [','] texts ++ [']'] := by
  rw [write]
  cases result : writeItems items with
  | error failure => simp [Except.map, ← writeItems_eq_ok_iff, result]
  | ok texts =>
      simp only [Except.map, Except.ok.injEq, ← writeItems_eq_ok_iff, result, exists_eq_left']
      exact eq_comm

theorem write_dict_eq_ok_iff {fields : Table Value} {text : Text} :
    write (.dict (ofFields fields)) = .ok text ↔
      ∃ texts, List.Forall₂ (fun field text => ∃ value, write field.2 = .ok value ∧
          text = fieldText field.1 value) fields texts ∧
        text = '\x7b' :: Text.joined [','] texts ++ ['\x7d'] := by
  rw [write]
  cases result : writeEntries (ofFields fields) with
  | error failure => simp [Except.map, ← writeEntries_ofFields_eq_ok_iff, result]
  | ok texts =>
      simp only [Except.map, Except.ok.injEq, ← writeEntries_ofFields_eq_ok_iff, result,
        exists_eq_left']
      exact eq_comm

theorem write_of_isSimple {value : Value} (simple : value.IsSimple)
    (showable : value.isShowable = true) : ∃ text, write value = .ok text := by
  cases simple with
  | int n => exact ⟨_, Value.limited_of_isShowable showable _⟩
  | null => exact ⟨_, rfl⟩
  | bool b => exact ⟨_, rfl⟩
  | text t => exact ⟨_, rfl⟩

/-- Every plain value whose numbers are not too long has a text. -/
theorem exists_write {value : Value} (plain : value.IsPlain) (showable : value.isShowable = true) :
    ∃ text, write value = .ok text := by
  induction plain with
  | simple simple => exact write_of_isSimple simple showable
  | list each ih =>
      have short := Value.isShowable_list.mp showable
      choose! text written using ih
      exact ⟨_, write_list_eq_ok_iff.mpr ⟨_, List.forall₂_map_right_iff.mpr
        (List.forall₂_same.mpr fun item present => written item present (short item present)), rfl⟩⟩
  | dict each ih =>
      have short := Value.isShowable_fields.mp showable
      choose! text written using ih
      refine ⟨_, write_dict_eq_ok_iff.mpr ⟨_, List.forall₂_map_right_iff.mpr
        (List.forall₂_same.mpr fun field present =>
          ⟨_, written field present (short field present), rfl⟩), rfl⟩⟩

theorem write_of_long {value : Value} (simple : value.IsSimple)
    (long : value.isShowable = false) : write value = .error (.shape (.digitLimit none)) := by
  cases simple with
  | int n => exact Value.limited_of_long long _
  | null => cases long
  | bool b => cases long
  | text t => cases long

theorem write_dict_of_long {fields : Table Value} (simple : ∀ field ∈ fields, field.2.IsSimple)
    (long : ∃ field ∈ fields, field.2.isShowable = false) :
    write (.dict (ofFields fields)) = .error (.shape (.digitLimit none)) := by
  have entries : writeEntries (ofFields fields) = .error (.shape (.digitLimit none)) := by
    induction fields with
    | nil =>
        obtain ⟨_, present, _⟩ := long
        cases present
    | cons field fields ih =>
        obtain ⟨first, later⟩ := List.forall_mem_cons.mp simple
        rw [ofFields_cons, writeEntries]
        cases here : field.2.isShowable with
        | false => rw [write_of_long first here, key]
        | true =>
            obtain ⟨text, written⟩ := write_of_isSimple first here
            obtain ⟨other, present, longer⟩ := long
            rcases List.mem_cons.mp present with rfl | behind
            · rw [here] at longer
              cases longer
            · rw [written, key, ih later ⟨other, behind, longer⟩]
              rfl
  rw [write, entries]
  rfl

/-- The characters of a document that stand outside of strings. -/
def outside : (quoted : Bool) → Text → Text
  | _, [] => []
  | false, '"' :: rest => outside true rest
  | false, c :: rest => c :: outside false rest
  | true, '\\' :: _ :: rest => outside true rest
  | true, '"' :: rest => outside false rest
  | true, _ :: rest => outside true rest

/-- Texts of printed characters in which no blank stands outside of a string. -/
structure IsCompact (text : Text) : Prop where
  printed : ∀ c ∈ text, IsPrinted c
  closed : ∃ solid : Text, (∀ c ∈ solid, isBlank c = false) ∧
    ∀ rest, outside false (text ++ rest) = solid ++ outside false rest

namespace IsCompact

theorem nil : IsCompact [] := ⟨List.forall_mem_nil _, [], List.forall_mem_nil _, fun _ => rfl⟩

theorem append {left right : Text} (first : IsCompact left) (second : IsCompact right) :
    IsCompact (left ++ right) := by
  obtain ⟨solid, noBlank, outer⟩ := first.closed
  obtain ⟨more, noMoreBlank, outerMore⟩ := second.closed
  refine ⟨List.forall_mem_append.mpr ⟨first.printed, second.printed⟩, solid ++ more,
    List.forall_mem_append.mpr ⟨noBlank, noMoreBlank⟩, fun rest => ?_⟩
  rw [List.append_assoc, outer, outerMore, List.append_assoc]

theorem singleton {c : Char} (printed : IsPrinted c) (noBlank : c ≠ ' ') (noQuote : c ≠ '"') :
    IsCompact [c] := by
  have solid : isBlank c = false := by
    have noTab : c ≠ '\t' := by rintro rfl; exact absurd printed (by decide)
    have noFeed : c ≠ '\n' := by rintro rfl; exact absurd printed (by decide)
    have noReturn : c ≠ '\r' := by rintro rfl; exact absurd printed (by decide)
    simp [isBlank, noBlank, noTab, noFeed, noReturn]
  refine ⟨by simpa using printed, [c], by simpa using solid, fun rest => ?_⟩
  rw [List.singleton_append, List.singleton_append, outside]
  exact noQuote

theorem of_forall {text : Text} (each : ∀ c ∈ text, IsPrinted c ∧ c ≠ ' ' ∧ c ≠ '"') :
    IsCompact text := by
  induction text with
  | nil => exact nil
  | cons c text ih =>
      obtain ⟨⟨printed, noBlank, noQuote⟩, later⟩ := List.forall_mem_cons.mp each
      exact append (singleton printed noBlank noQuote) (ih later)

theorem joined {texts : List Text} (each : ∀ text ∈ texts, IsCompact text) :
    IsCompact (Text.joined [','] texts) := by
  induction texts with
  | nil => exact nil
  | cons text texts ih =>
      obtain ⟨first, later⟩ := List.forall_mem_cons.mp each
      cases texts with
      | nil => exact first
      | cons second texts =>
          have comma : IsCompact [','] := singleton (by decide) (by decide) (by decide)
          exact append (append first comma) (ih later)

theorem enclosed {text : Text} (compact : IsCompact text) {opening closing : Char}
    (first : IsCompact [opening]) (last : IsCompact [closing]) :
    IsCompact (opening :: text ++ [closing]) :=
  append (append first compact) last

theorem isBlank_outside {text : Text} (compact : IsCompact text) :
    ∀ c ∈ outside false text, isBlank c = false := by
  obtain ⟨solid, noBlank, outer⟩ := compact.closed
  have whole := outer []
  rw [List.append_nil, show outside false [] = [] from rfl, List.append_nil] at whole
  exact whole ▸ noBlank

end IsCompact

theorem isPrinted_hexDigits (n : Nat) :
    ∀ c ∈ Text.hexDigits 4 n, IsPrinted c ∧ c ≠ '"' ∧ c ≠ '\\' :=
  Text.forall_mem_hexDigits (by decide) 4 n

theorem outside_quoted {text : Text} (inner : ∀ c ∈ text, c ≠ '"' ∧ c ≠ '\\') (rest : Text) :
    outside true (text ++ rest) = outside true rest := by
  induction text with
  | nil => rfl
  | cons c text ih =>
      obtain ⟨⟨noQuote, noBackslash⟩, later⟩ := List.forall_mem_cons.mp inner
      rw [List.cons_append, outside, ih later]
      · intro _ _ same
        exact absurd same noBackslash
      · exact noQuote

theorem outside_unitEscape (unit : Nat) (rest : Text) :
    outside true (unitEscape unit ++ rest) = outside true rest := by
  have digits := outside_quoted (fun c present => (isPrinted_hexDigits unit c present).2) rest
  change outside true ('\\' :: 'u' :: (Text.hexDigits 4 unit ++ rest)) = _
  rw [outside, digits]

theorem outside_escaped (c : Char) (rest : Text) :
    outside true (escaped c ++ rest) = outside true rest := by
  have shape := escaping_escaped c
  generalize escaped c = piece at shape
  cases shape with
  | short letter => rfl
  | itself _ noQuote noBackslash =>
      have inner : ∀ d ∈ [c], d ≠ '"' ∧ d ≠ '\\' := by simpa using ⟨noQuote, noBackslash⟩
      exact outside_quoted inner rest
  | unit => exact outside_unitEscape _ rest
  | pair => rw [List.append_assoc, outside_unitEscape, outside_unitEscape]

theorem isPrinted_unitEscape (unit : Nat) : ∀ c ∈ unitEscape unit, IsPrinted c := by
  intro c present
  rcases List.mem_append.mp present with start | digit
  · exact Text.forall_mem_of_all (by decide) c start
  · exact (isPrinted_hexDigits unit c digit).1

theorem isPrinted_escaped (c : Char) : ∀ d ∈ escaped c, IsPrinted d := by
  have shape := escaping_escaped c
  generalize escaped c = piece at shape
  cases shape with
  | short letter printed =>
      have backslash : IsPrinted '\\' := by decide
      simpa using ⟨backslash, printed⟩
  | itself printed => simpa using printed
  | unit => exact isPrinted_unitEscape _
  | pair =>
      exact List.forall_mem_append.mpr ⟨isPrinted_unitEscape _, isPrinted_unitEscape _⟩

theorem isCompact_string (text : Text) : IsCompact (string text) := by
  have quote : ∀ c ∈ ['"'], IsPrinted c := Text.forall_mem_of_all (by decide)
  have inner : ∀ c ∈ text.flatMap escaped, IsPrinted c := by
    intro c present
    obtain ⟨d, _, inside⟩ := List.mem_flatMap.mp present
    exact isPrinted_escaped d c inside
  refine ⟨List.forall_mem_append.mpr ⟨List.forall_mem_append.mpr ⟨quote, inner⟩, quote⟩, [],
    List.forall_mem_nil _, fun rest => ?_⟩
  change outside true (text.flatMap escaped ++ ['"'] ++ rest) = outside false rest
  clear inner
  induction text with
  | nil => rfl
  | cons c text ih => rw [List.flatMap_cons, List.append_assoc, List.append_assoc, outside_escaped,
      ← List.append_assoc, ih]

theorem isCompact_ofInt (n : Int) : IsCompact (Text.ofInt n) := by
  have digits (m : Nat) : IsCompact (Text.ofNat m) := by
    apply IsCompact.of_forall
    intro c present
    have digit := Text.isDigit_of_mem_ofNat m c present
    have bounds := Text.isDigit_iff.mp digit
    refine ⟨⟨by omega, by omega⟩, ?_, ?_⟩ <;> rintro rfl <;> exact absurd digit (by decide)
  cases n with
  | ofNat m => exact digits m
  | negSucc m =>
      exact IsCompact.append (IsCompact.singleton (c := '-') (by decide) (by decide) (by decide))
        (digits (m + 1))

theorem isCompact_write {value : Value} (plain : value.IsPlain) {text : Text}
    (written : write value = .ok text) : IsCompact text := by
  have mark {c : Char} (printed : IsPrinted c) (noBlank : c ≠ ' ') (noQuote : c ≠ '"') :=
    IsCompact.singleton printed noBlank noQuote
  induction plain generalizing text with
  | simple simple =>
      cases simple with
      | null =>
          cases written
          exact IsCompact.of_forall (Text.forall_mem_of_all (by decide))
      | bool b =>
          cases written
          cases b <;> exact IsCompact.of_forall (Text.forall_mem_of_all (by decide))
      | int n =>
          cases (Value.limited_eq_ok_iff.mp written).2
          exact isCompact_ofInt n
      | text t =>
          cases written
          exact isCompact_string t
  | list each ih =>
      obtain ⟨texts, parts, rfl⟩ := write_list_eq_ok_iff.mp written
      have compact : ∀ text ∈ texts, IsCompact text := by
        intro text present
        obtain ⟨item, inside, part⟩ := exists_of_forall₂_right parts present
        exact ih item inside part
      exact (IsCompact.joined compact).enclosed (mark (by decide) (by decide) (by decide))
        (mark (by decide) (by decide) (by decide))
  | dict each ih =>
      obtain ⟨texts, parts, rfl⟩ := write_dict_eq_ok_iff.mp written
      have compact : ∀ text ∈ texts, IsCompact text := by
        intro text present
        obtain ⟨field, inside, part, value, rfl⟩ := exists_of_forall₂_right parts present
        have colon := mark (c := ':') (by decide) (by decide) (by decide)
        exact (isCompact_string field.1).append (colon.append (ih field inside value))
      exact (IsCompact.joined compact).enclosed (mark (by decide) (by decide) (by decide))
        (mark (by decide) (by decide) (by decide))

end ControllerClient.Json
