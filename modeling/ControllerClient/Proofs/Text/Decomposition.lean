import ControllerClient.Proofs.Text.Quoted
import ControllerClient.Text.Normalization

/-!
What the tables of normalisation say about each other. No character that another
falls apart into falls apart itself, and what two characters join to falls apart
into what they fall apart into. Both are checked by evaluation, in one pass over
each table.
-/

namespace ControllerClient.Text

theorem mem_of_lookup {α β : Type} [BEq α] [LawfulBEq α] {table : List (α × β)} {key : α} {value : β}
    (found : table.lookup key = some value) : (key, value) ∈ table := by
  obtain ⟨before, behind, shape, _⟩ := List.lookup_eq_some_iff.mp found
  rw [shape]
  exact List.mem_append_right before List.mem_cons_self

/-- The number whose binary digits tell which codes a list holds. -/
def codeSet : List Nat → Nat
  | [] => 0
  | code :: codes => 2 ^ code ||| codeSet codes

theorem testBit_codeSet {codes : List Nat} {code : Nat} (present : code ∈ codes) :
    (codeSet codes).testBit code = true := by
  induction codes with
  | nil => cases present
  | cons first codes ih =>
      rw [codeSet, Nat.testBit_or, Bool.or_eq_true]
      rcases List.mem_cons.mp present with rfl | later
      · exact Or.inl Nat.testBit_two_pow_self
      · exact Or.inr (ih later)

def decomposable : Nat := codeSet (decompositions.map (·.1))

theorem lookup_eq_none_of_testBit {code : Nat} (absent : decomposable.testBit code = false) :
    decompositions.lookup code = none := by
  rw [List.lookup_eq_none_iff]
  intro entry present
  apply bne_iff_ne.mpr
  rintro rfl
  rw [decomposable, testBit_codeSet (List.mem_map_of_mem present)] at absent
  cases absent

/-- A search tree over a table in ascending order. -/
inductive CodeTree where
  | leaf
  | node (left : CodeTree) (entry : Nat × List Nat) (right : CodeTree)

namespace CodeTree

def grow : Nat → List (Nat × List Nat) → CodeTree × List (Nat × List Nat)
  | 0, table => (leaf, table)
  | depth + 1, table =>
    match grow depth table with
    | (left, []) => (left, [])
    | (left, entry :: rest) =>
      let (right, rest) := grow depth rest
      (node left entry right, rest)

def find? (code : Nat) : CodeTree → Option (List Nat)
  | leaf => none
  | node left entry right =>
    if code < entry.1 then left.find? code
    else if entry.1 = code then some entry.2
    else right.find? code

theorem grow_sound (table : List (Nat × List Nat)) (depth : Nat) {code : Nat} {codes : List Nat} :
    ((grow depth table).1.find? code = some codes → (code, codes) ∈ table) ∧
      ∀ entry ∈ (grow depth table).2, entry ∈ table := by
  induction depth generalizing table with
  | zero =>
      refine ⟨?_, fun entry present => present⟩
      intro found
      cases found
  | succ depth ih =>
      obtain ⟨inLeft, behindLeft⟩ := ih table
      rw [grow]
      generalize grow depth table = grown at inLeft behindLeft
      obtain ⟨left, behind⟩ := grown
      cases behind with
      | nil =>
          refine ⟨inLeft, ?_⟩
          intro entry present
          cases present
      | cons middle rest =>
          obtain ⟨inRight, behindRight⟩ := ih rest
          have fromRest : ∀ entry ∈ rest, entry ∈ table := fun entry present =>
            behindLeft entry (List.mem_cons_of_mem middle present)
          refine ⟨?_, fun entry present => fromRest entry (behindRight entry present)⟩
          intro found
          simp only [find?] at found
          split at found
          · exact inLeft found
          · split at found
            · next same =>
                cases found
                rw [← same]
                exact behindLeft middle List.mem_cons_self
            · exact fromRest _ (inRight found)

end CodeTree

def decompositionTree : CodeTree := (CodeTree.grow 13 decompositions).1

def isAscending : List (Nat × List Nat) → Bool
  | first :: second :: rest => first.1 < second.1 && isAscending (second :: rest)
  | _ => true

theorem lt_of_isAscending {entry : Nat × List Nat} {rest : List (Nat × List Nat)}
    (ascending : isAscending (entry :: rest) = true) : ∀ later ∈ rest, entry.1 < later.1 := by
  induction rest generalizing entry with
  | nil =>
      intro later present
      cases present
  | cons second rest ih =>
      rw [isAscending, Bool.and_eq_true, decide_eq_true_eq] at ascending
      intro later present
      rcases List.mem_cons.mp present with rfl | present
      · exact ascending.1
      · exact Nat.lt_trans ascending.1 (ih ascending.2 later present)

theorem lookup_of_mem {table : List (Nat × List Nat)} (ascending : isAscending table = true)
    {code : Nat} {codes : List Nat} (present : (code, codes) ∈ table) :
    table.lookup code = some codes := by
  induction table with
  | nil => cases present
  | cons entry rest ih =>
      rcases List.mem_cons.mp present with rfl | later
      · exact List.lookup_cons_self
      · have before := lt_of_isAscending ascending _ later
        have differs : (code == entry.1) = false := beq_false_of_ne (Nat.ne_of_gt before)
        have others : isAscending rest = true := by
          cases rest with
          | nil => rfl
          | cons second rest =>
              rw [isAscending, Bool.and_eq_true] at ascending
              exact ascending.2
        rw [List.lookup_cons, differs]
        exact ih others later

def isOrdinary (code : Nat) : Bool :=
  code < 0xac00 || (0xac00 + 11172 ≤ code && code < 0xd800) || (0xdfff < code && code < 0x110000)

def partsOf? (code : Nat) : Option (List Nat) :=
  if decomposable.testBit code then decompositionTree.find? code else some [code]

/-- Whether what two codes join to falls apart into the parts of the first and the second. -/
def joinsApart (pair : (Nat × Nat) × Nat) : Bool :=
  match partsOf? pair.1.1 with
  | some codes => decompositionTree.find? pair.2 = some (codes ++ [pair.1.2])
  | none => false

/-- What holds of the whole tables. -/
structure TablesAgree : Prop where
  ascending : isAscending decompositions = true
  /-- No code that another falls apart into falls apart. -/
  settled : decompositions.all (fun entry => entry.2.all fun code =>
    isOrdinary code && !decomposable.testBit code) = true
  /-- The table leaves out the block of Hangul letters. -/
  noHangul : decompositions.all (fun entry => entry.1 < 0x1100 || 0x1200 ≤ entry.1) = true
  ordinary : composites.all (fun pair => isOrdinary pair.1.1 && isOrdinary pair.2) = true
  joinApart : composites.all joinsApart = true

-- One evaluation goes through both tables. The tree and the bit set keep each look-up short enough
-- to be computed for every entry.
theorem tablesAgree : TablesAgree := by
  have checked : (isAscending decompositions &&
      decompositions.all (fun entry => entry.2.all fun code =>
        isOrdinary code && !decomposable.testBit code) &&
      decompositions.all (fun entry => entry.1 < 0x1100 || 0x1200 ≤ entry.1) &&
      composites.all (fun pair => isOrdinary pair.1.1 && isOrdinary pair.2) &&
      composites.all joinsApart) = true := by
    decide +kernel
  simp only [Bool.and_eq_true] at checked
  obtain ⟨⟨⟨⟨ascending, settled⟩, noHangul⟩, ordinary⟩, joinApart⟩ := checked
  exact ⟨ascending, settled, noHangul, ordinary, joinApart⟩

theorem lookup_of_find? {code : Nat} {codes : List Nat}
    (found : decompositionTree.find? code = some codes) :
    decompositions.lookup code = some codes :=
  lookup_of_mem tablesAgree.ascending ((CodeTree.grow_sound decompositions 13).1 found)

def IsSettled (c : Char) : Prop := decomposed c = [c]

theorem isValidChar_of_isOrdinary {code : Nat} (ordinary : isOrdinary code = true) :
    code.isValidChar := by
  simp only [isOrdinary, Bool.or_eq_true, Bool.and_eq_true, decide_eq_true_eq] at ordinary
  simp only [Nat.isValidChar]
  omega

theorem hangulLetters?_of_isOrdinary {code : Nat} (ordinary : isOrdinary code = true) :
    hangulLetters? code = none := by
  simp only [isOrdinary, Bool.or_eq_true, Bool.and_eq_true, decide_eq_true_eq] at ordinary
  rw [hangulLetters?, if_neg]
  omega

theorem decomposed_of_lookup {c : Char} (noSyllable : hangulLetters? c.toNat = none) :
    decomposed c = ((decompositions.lookup c.toNat).getD [c.toNat]).map Char.ofNat := by
  rw [decomposed, noSyllable]
  cases decompositions.lookup c.toNat with
  | none =>
      change [c] = [Char.ofNat c.toNat]
      rw [Char.ofNat_toNat]
  | some codes => rfl

theorem isSettled_of_lookup {c : Char} (noSyllable : hangulLetters? c.toNat = none)
    (absent : decompositions.lookup c.toNat = none) : IsSettled c := by
  unfold IsSettled
  rw [decomposed, noSyllable, absent]

theorem isSettled_hangul {c : Char} (first : 0x1100 ≤ c.toNat) (last : c.toNat < 0x1200) :
    IsSettled c := by
  apply isSettled_of_lookup
  · apply hangulLetters?_of_isOrdinary
    simp only [isOrdinary, Bool.or_eq_true, decide_eq_true_eq]
    omega
  · rw [List.lookup_eq_none_iff]
    intro entry present
    have outside := List.all_eq_true.mp tablesAgree.noHangul entry present
    simp only [Bool.or_eq_true, decide_eq_true_eq] at outside
    apply bne_iff_ne.mpr
    omega

theorem isSettled_ofNat_hangul {code : Nat} (first : 0x1100 ≤ code) (last : code < 0x1200) :
    IsSettled (Char.ofNat code) := by
  have same : (Char.ofNat code).toNat = code := by
    apply toNat_ofNat
    simp only [Nat.isValidChar]
    omega
  apply isSettled_hangul
  · rw [same]
    exact first
  · rw [same]
    exact last

theorem hangulLetters?_add {index : Nat} (small : index < 11172) :
    hangulLetters? (0xac00 + index) =
      some (if index % 28 = 0 then
          [Char.ofNat (0x1100 + index / 588), Char.ofNat (0x1161 + index % 588 / 28)]
        else
          [Char.ofNat (0x1100 + index / 588), Char.ofNat (0x1161 + index % 588 / 28),
            Char.ofNat (0x11a7 + index % 28)]) := by
  have inside : 0xac00 ≤ 0xac00 + index ∧ 0xac00 + index < 0xac00 + 11172 := by omega
  rw [hangulLetters?, if_pos inside, Nat.add_sub_cancel_left]

theorem exists_of_hangulLetters? {code : Nat} {letters : Text}
    (syllable : hangulLetters? code = some letters) :
    ∃ index, index < 11172 ∧ code = 0xac00 + index := by
  by_cases inside : 0xac00 ≤ code ∧ code < 0xac00 + 11172
  · exact ⟨code - 0xac00, by omega, by omega⟩
  · rw [hangulLetters?, if_neg inside] at syllable
    cases syllable

theorem exists_of_mem_hangulLetters {code : Nat} {letters : Text}
    (syllable : hangulLetters? code = some letters) :
    ∀ d ∈ letters, ∃ letter, 0x1100 ≤ letter ∧ letter < 0x1200 ∧ d = Char.ofNat letter := by
  obtain ⟨index, small, rfl⟩ := exists_of_hangulLetters? syllable
  rw [hangulLetters?_add small] at syllable
  rw [← Option.some.inj syllable]
  intro d present
  split at present
  · simp only [List.mem_cons, List.not_mem_nil, or_false] at present
    rcases present with rfl | rfl
    · exact ⟨0x1100 + index / 588, by omega, by omega, rfl⟩
    · exact ⟨0x1161 + index % 588 / 28, by omega, by omega, rfl⟩
  · simp only [List.mem_cons, List.not_mem_nil, or_false] at present
    rcases present with rfl | rfl | rfl
    · exact ⟨0x1100 + index / 588, by omega, by omega, rfl⟩
    · exact ⟨0x1161 + index % 588 / 28, by omega, by omega, rfl⟩
    · exact ⟨0x11a7 + index % 28, by omega, by omega, rfl⟩

/-- Nothing that a character falls apart into falls apart. -/
theorem isSettled_of_mem_decomposed {c d : Char} (present : d ∈ decomposed c) : IsSettled d := by
  cases syllable : hangulLetters? c.toNat with
  | some letters =>
      rw [decomposed, syllable] at present
      obtain ⟨letter, first, last, rfl⟩ := exists_of_mem_hangulLetters syllable d present
      exact isSettled_ofNat_hangul first last
  | none =>
      cases found : decompositions.lookup c.toNat with
      | none =>
          rw [decomposed, syllable, found] at present
          rw [List.mem_singleton.mp present]
          exact isSettled_of_lookup syllable found
      | some codes =>
          rw [decomposed, syllable, found] at present
          obtain ⟨code, inside, rfl⟩ := List.mem_map.mp present
          have entry := mem_of_lookup found
          have settled := List.all_eq_true.mp
            (List.all_eq_true.mp tablesAgree.settled _ entry) code inside
          rw [Bool.and_eq_true, Bool.not_eq_true'] at settled
          have same := toNat_ofNat (isValidChar_of_isOrdinary settled.1)
          apply isSettled_of_lookup
          · rw [same]
            exact hangulLetters?_of_isOrdinary settled.1
          · rw [same]
            exact lookup_eq_none_of_testBit settled.2

theorem partsOf?_sound {code : Nat} {codes : List Nat} (parts : partsOf? code = some codes) :
    (decompositions.lookup code).getD [code] = codes := by
  unfold partsOf? at parts
  split at parts
  · rw [lookup_of_find? parts]
    rfl
  · next outside =>
      rw [lookup_eq_none_of_testBit (Bool.eq_false_iff.mpr outside)]
      exact Option.some.inj parts

theorem decomposed_of_composites {a b : Char} {code : Nat}
    (joins : composites.lookup (a.toNat, b.toNat) = some code) :
    decomposed (Char.ofNat code) = decomposed a ++ [b] := by
  have entry := mem_of_lookup joins
  have ordinary := List.all_eq_true.mp tablesAgree.ordinary _ entry
  have apart := List.all_eq_true.mp tablesAgree.joinApart _ entry
  rw [Bool.and_eq_true] at ordinary
  unfold joinsApart at apart
  split at apart
  · next codes parts =>
      rw [decide_eq_true_eq] at apart
      have same := toNat_ofNat (isValidChar_of_isOrdinary ordinary.2)
      have whole : decomposed (Char.ofNat code) = (codes ++ [b.toNat]).map Char.ofNat := by
        rw [decomposed_of_lookup, same, lookup_of_find? apart]
        · rfl
        · rw [same]
          exact hangulLetters?_of_isOrdinary ordinary.2
      rw [whole, decomposed_of_lookup (hangulLetters?_of_isOrdinary ordinary.1),
        partsOf?_sound parts, List.map_append, List.map_singleton, Char.ofNat_toNat]
  · cases apart

theorem decomposed_syllable {c : Char} {index : Nat} (small : index < 11172)
    (same : c.toNat = 0xac00 + index) :
    decomposed c =
      if index % 28 = 0 then
        [Char.ofNat (0x1100 + index / 588), Char.ofNat (0x1161 + index % 588 / 28)]
      else
        [Char.ofNat (0x1100 + index / 588), Char.ofNat (0x1161 + index % 588 / 28),
          Char.ofNat (0x11a7 + index % 28)] := by
  rw [decomposed, same, hangulLetters?_add small]

theorem toNat_ofNat_syllable {index : Nat} (small : index < 11172) :
    (Char.ofNat (0xac00 + index)).toNat = 0xac00 + index := by
  apply toNat_ofNat
  simp only [Nat.isValidChar]
  omega

theorem decomposed_openSyllable {a b : Char} {lead vowel : Nat} (fewLeads : lead < 19)
    (fewVowels : vowel < 21) (first : a.toNat = 0x1100 + lead) (second : b.toNat = 0x1161 + vowel) :
    decomposed (Char.ofNat (0xac00 + (lead * 21 + vowel) * 28)) = decomposed a ++ [b] := by
  have small : (lead * 21 + vowel) * 28 < 11172 := by omega
  have noTail : (lead * 21 + vowel) * 28 % 28 = 0 := by omega
  have ofLead : (lead * 21 + vowel) * 28 / 588 = lead := by omega
  have ofVowel : (lead * 21 + vowel) * 28 % 588 / 28 = vowel := by omega
  have settled : decomposed a = [a] := isSettled_hangul (by omega) (by omega)
  rw [decomposed_syllable small (toNat_ofNat_syllable small), if_pos noTail, ofLead, ofVowel,
    ← first, ← second, Char.ofNat_toNat, Char.ofNat_toNat, settled]
  rfl

theorem decomposed_closedSyllable {a b : Char} {index tail : Nat} (small : index < 11172)
    (isOpen : index % 28 = 0) (some_ : 0 < tail) (fewTails : tail < 28)
    (first : a.toNat = 0xac00 + index) (second : b.toNat = 0x11a7 + tail) :
    decomposed (Char.ofNat (0xac00 + (index + tail))) = decomposed a ++ [b] := by
  have smaller : index + tail < 11172 := by omega
  have ofTail : (index + tail) % 28 = tail := by omega
  have ofLead : (index + tail) / 588 = index / 588 := by omega
  have ofVowel : (index + tail) % 588 / 28 = index % 588 / 28 := by omega
  have closed : ¬ tail = 0 := by omega
  rw [decomposed_syllable smaller (toNat_ofNat_syllable smaller),
    decomposed_syllable small first, if_pos isOpen, ofTail, if_neg closed, ofLead, ofVowel,
    ← second, Char.ofNat_toNat]
  rfl

theorem decomposed_of_hangulComposite? {a b : Char} {code : Nat}
    (joins : hangulComposite? a.toNat b.toNat = some code) :
    decomposed (Char.ofNat code) = decomposed a ++ [b] := by
  unfold hangulComposite? at joins
  split at joins
  · next bounds =>
      rw [← Option.some.inj joins]
      apply decomposed_openSyllable <;> omega
  · split at joins
    · next bounds =>
        have same : code = 0xac00 + (a.toNat - 0xac00 + (b.toNat - 0x11a7)) := by
          have whole := Option.some.inj joins
          omega
        rw [same]
        apply decomposed_closedSyllable <;> omega
    · cases joins

theorem decomposed_of_composite? {a b joined : Char} (joins : composite? a b = some joined) :
    decomposed joined = decomposed a ++ [b] := by
  unfold composite? at joins
  split at joins
  · next code found =>
      rw [← Option.some.inj joins]
      exact decomposed_of_hangulComposite? found
  · obtain ⟨code, found, rfl⟩ := Option.map_eq_some_iff.mp joins
    exact decomposed_of_composites found

end ControllerClient.Text
