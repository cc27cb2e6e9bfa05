import ControllerClient.Proofs.Source.Lexing
import ControllerClient.Proofs.Text.Normalization
import ControllerClient.Source.Reader

/-!
Characters of names. An identifier can stand in source text, and so can its
normal form; neither holds a quote or a backslash, and neither is empty.
-/

namespace ControllerClient

open Source Source.Lexer

namespace Text

theorem identifierRanges_bounded :
    ∀ range ∈ identifierStartRanges ++ identifierContinueRanges, range.2 < firstStandIn := by
  decide +kernel

theorem inRanges_lt {ranges : List (Nat × Nat)} {bound code : Nat}
    (bounded : ∀ range ∈ ranges, range.2 < bound) (inside : inRanges ranges code = true) :
    code < bound := by
  obtain ⟨range, present, within⟩ := List.any_eq_true.mp inside
  simp only [Bool.and_eq_true, decide_eq_true_eq] at within
  exact Nat.lt_of_le_of_lt within.2 (bounded range present)

theorem continuesIdentifier_of_mem {name : Text} (identifier : isIdentifier name = true) {c : Char}
    (present : c ∈ name) : beginsIdentifier c = true ∨ continuesIdentifier c = true := by
  cases name with
  | nil => cases present
  | cons first rest =>
      unfold isIdentifier at identifier
      rw [Bool.and_eq_true] at identifier
      rcases List.mem_cons.mp present with rfl | later
      · exact Or.inl identifier.1
      · exact Or.inr (List.all_eq_true.mp identifier.2 c later)

/-- Below ASCII's end identifiers hold letters, digits and low lines; above, no stand-ins. -/
theorem lt_firstStandIn_of_isIdentifier {name : Text} (identifier : isIdentifier name = true)
    {c : Char} (present : c ∈ name) : c.toNat < firstStandIn := by
  by_cases small : c.toNat < 128
  · exact Nat.lt_trans small (by decide)
  · have bounded := identifierRanges_bounded
    rw [List.forall_mem_append] at bounded
    rcases continuesIdentifier_of_mem identifier present with begins | continues
    · rw [beginsIdentifier, if_neg small] at begins
      exact inRanges_lt bounded.1 begins
    · rw [continuesIdentifier, if_neg small] at continues
      exact inRanges_lt bounded.2 continues

end Text

namespace Source

theorem isNameCharacter_of_isIdentifier {name : Text} (identifier : Text.isIdentifier name = true)
    {c : Char} (present : c ∈ name) : Numeral.isNameCharacter c = true := by
  cases name with
  | nil => cases present
  | cons first rest => exact (isIdentifier_cons identifier).2 c present

theorem isReadable_identifier {name : Text} (identifier : Text.isIdentifier name = true) :
    ∀ c ∈ name, IsReadable c := by
  intro c present
  have named := isNameCharacter_of_isIdentifier identifier present
  have small := Text.lt_firstStandIn_of_isIdentifier identifier present
  refine ⟨?_, ?_, ?_⟩
  · rintro rfl
    cases named
  · rintro rfl
    cases named
  · rw [Bool.eq_false_iff]
    intro half
    have bounds := (Text.isSurrogate_iff c).mp half
    unfold Text.firstStandIn at small
    omega

def IsBareCharacter (c : Char) : Prop := IsReadable c ∧ c ≠ '"' ∧ c ≠ '\\'

def IsBare (text : Text) : Prop := ∀ c ∈ text, IsBareCharacter c

theorem isBare_identifier {name : Text} (identifier : Text.isIdentifier name = true) :
    IsBare name := by
  intro c present
  have named := isNameCharacter_of_isIdentifier identifier present
  refine ⟨isReadable_identifier identifier c present, ?_, ?_⟩
  · rintro rfl
    cases named
  · rintro rfl
    cases named

end Source

namespace Text

open Source

def isBareCode (code : Nat) : Bool :=
  isOrdinary code && code != 0x22 && code != 0x5c && code != 0x0d && code != 0
    && code < firstStandIn

theorem isBareCharacter_of_toNat {c : Char}
    (bare : c.toNat ≠ 0x22 ∧ c.toNat ≠ 0x5c ∧ c.toNat ≠ 0x0d ∧ c.toNat ≠ 0 ∧
      c.toNat < firstStandIn) : IsBareCharacter c := by
  obtain ⟨noQuote, noBackslash, noReturn, notNull, small⟩ := bare
  have whole : isSurrogate c = false := by
    rw [Bool.eq_false_iff]
    intro half
    have bounds := (isSurrogate_iff c).mp half
    unfold firstStandIn at small
    omega
  refine ⟨⟨?_, ?_, whole⟩, ?_, ?_⟩
  · rintro rfl
    exact noReturn rfl
  · rintro rfl
    exact notNull rfl
  · rintro rfl
    exact noQuote rfl
  · rintro rfl
    exact noBackslash rfl

theorem isBareCharacter_ofNat {code : Nat} (bare : isBareCode code = true) :
    IsBareCharacter (Char.ofNat code) := by
  simp only [isBareCode, Bool.and_eq_true, bne_iff_ne, decide_eq_true_eq] at bare
  obtain ⟨⟨⟨⟨⟨ordinary, noQuote⟩, noBackslash⟩, noReturn⟩, notNull⟩, small⟩ := bare
  apply isBareCharacter_of_toNat
  rw [toNat_ofNat (isValidChar_of_isOrdinary ordinary)]
  exact ⟨noQuote, noBackslash, noReturn, notNull, small⟩

theorem isBareCharacter_hangul {code : Nat} (first : 0x1100 ≤ code) (last : code < 0xd800) :
    IsBareCharacter (Char.ofNat code) := by
  have same : (Char.ofNat code).toNat = code := by
    apply toNat_ofNat
    simp only [Nat.isValidChar]
    omega
  apply isBareCharacter_of_toNat
  rw [same]
  unfold firstStandIn
  omega

theorem decompositions_bare :
    decompositions.all (fun entry => 128 ≤ entry.1 && (entry.2.all isBareCode ||
      !(inRanges identifierStartRanges entry.1 || inRanges identifierContinueRanges entry.1))) =
        true := by
  decide +kernel

theorem composites_bare : composites.all (fun pair => isBareCode pair.2) = true := by
  decide +kernel

theorem isBareCharacter_of_composite? {a b joined : Char} (joins : composite? a b = some joined) :
    IsBareCharacter joined := by
  unfold composite? at joins
  split at joins
  · next code found =>
      rw [← Option.some.inj joins]
      unfold hangulComposite? at found
      split at found
      · have same := Option.some.inj found
        apply isBareCharacter_hangul <;> omega
      · split at found
        · have same := Option.some.inj found
          apply isBareCharacter_hangul <;> omega
        · cases found
  · obtain ⟨code, found, rfl⟩ := Option.map_eq_some_iff.mp joins
    exact isBareCharacter_ofNat (List.all_eq_true.mp composites_bare _ (mem_of_lookup found))

theorem isBareCharacter_of_lookup {name : Text} (identifier : isIdentifier name = true) {c : Char}
    (present : c ∈ name) {codes : List Nat} (found : decompositions.lookup c.toNat = some codes) :
    ∀ code ∈ codes, IsBareCharacter (Char.ofNat code) := by
  have checked := List.all_eq_true.mp decompositions_bare _ (mem_of_lookup found)
  rw [Bool.and_eq_true, decide_eq_true_eq, Bool.or_eq_true] at checked
  obtain ⟨large, checked⟩ := checked
  have beyond : ¬ c.toNat < 128 := Nat.not_lt.mpr large
  rcases checked with bare | outside
  · intro code inside
    exact isBareCharacter_ofNat (List.all_eq_true.mp bare code inside)
  · rw [Bool.not_eq_true', Bool.or_eq_false_iff] at outside
    rcases continuesIdentifier_of_mem identifier present with begins | continues
    · rw [beginsIdentifier, if_neg beyond, outside.1] at begins
      cases begins
    · rw [continuesIdentifier, if_neg beyond, outside.2] at continues
      cases continues

/-- The normal form of an identifier stands for itself between three quotes. -/
theorem isBare_normalized {name : Text} (identifier : isIdentifier name = true) :
    IsBare (normalized name) := by
  have own := isBare_identifier identifier
  refine forall_mem_normalized (fun _ _ _ => isBareCharacter_of_composite?) own ?_
  intro c present d part
  unfold decomposed at part
  split at part
  · next letters syllable =>
      obtain ⟨letter, first, last, rfl⟩ := exists_of_mem_hangulLetters syllable d part
      exact isBareCharacter_hangul first (Nat.lt_trans last (by decide))
  · split at part
    · next codes found =>
        obtain ⟨code, inside, rfl⟩ := List.mem_map.mp part
        exact isBareCharacter_of_lookup identifier present found code inside
    · rw [List.mem_singleton.mp part]
      exact own c present

theorem decompositions_some : decompositions.all (fun entry => !entry.2.isEmpty) = true := by
  decide +kernel

theorem decomposed_ne_nil (c : Char) : decomposed c ≠ [] := by
  unfold decomposed hangulLetters?
  split
  · next letters syllable =>
      split at syllable
      · rw [← Option.some.inj syllable]
        split <;> exact List.cons_ne_nil _ _
      · cases syllable
  · split
    · next codes found =>
        have checked := List.all_eq_true.mp decompositions_some _ (mem_of_lookup found)
        intro none
        rw [List.map_eq_nil_iff.mp none] at checked
        cases checked
    · exact List.cons_ne_nil c []

theorem insertMark_ne_nil (mark : Char) (text : Text) : insertMark mark text ≠ [] := by
  cases text with
  | nil => exact List.cons_ne_nil mark []
  | cons last earlier =>
      rw [insertMark]
      split <;> exact List.cons_ne_nil _ _

theorem markOrdered_ne_nil {text : Text} (some_ : text ≠ []) : markOrdered text ≠ [] := by
  rw [← List.dropLast_concat_getLast some_, markOrdered, List.foldl_concat, addOrdered]
  split
  · exact List.reverse_ne_nil_iff.mpr (List.cons_ne_nil _ _)
  · exact List.reverse_ne_nil_iff.mpr (insertMark_ne_nil _ _)

theorem composedFrom_ne_nil (starter : Char) (marks text : Text) :
    composedFrom starter marks text ≠ [] := by
  induction text generalizing starter marks with
  | nil => exact List.cons_ne_nil _ _
  | cons c rest ih =>
      rw [composedFrom_cons]
      split
      · next joined _ => exact ih joined marks
      · split
        · exact List.cons_ne_nil starter _
        · exact ih starter (c :: marks)

theorem composed_ne_nil {text : Text} (some_ : text ≠ []) : composed text ≠ [] := by
  cases text with
  | nil => exact absurd rfl some_
  | cons c rest =>
      rw [composed]
      split
      · exact composedFrom_ne_nil c [] rest
      · exact List.cons_ne_nil _ _

theorem normalized_ne_nil {text : Text} (some_ : text ≠ []) : normalized text ≠ [] := by
  unfold normalized
  split
  · exact some_
  · apply composed_ne_nil
    apply markOrdered_ne_nil
    obtain ⟨c, rest, rfl⟩ := List.exists_cons_of_ne_nil some_
    rw [List.flatMap_cons]
    exact List.append_ne_nil_of_left_ne_nil (decomposed_ne_nil c) _

end Text

theorem Identifier.normalized_name (identifier : Identifier) :
    Text.normalized identifier.name = identifier.name :=
  Text.normalized_normalized identifier.spelling

theorem Identifier.name_ne_nil (identifier : Identifier) : identifier.name ≠ [] := by
  apply Text.normalized_ne_nil
  intro none
  have valid := identifier.isValid
  rw [none] at valid
  cases valid

theorem Identifier.isBare_name (identifier : Identifier) : IsBare identifier.name :=
  Text.isBare_normalized identifier.isValid

end ControllerClient
