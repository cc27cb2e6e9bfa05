import ControllerClient.Proofs.Text.Quoted
import ControllerClient.Text.Identifier

/-!
From text to tokens, piece by piece. A piece of a line is read on its own: what
it gives does not depend on the lines before it, and of what comes behind only
the first character counts. Words, quoted texts, marks and blanks are such
pieces, and pieces next to each other are read one after the other.
-/

namespace ControllerClient.Source.Lexer

open Text Numeral

/-! ### Words -/

theorem isNameCharacter_of_continuesIdentifier {c : Char} (continues : continuesIdentifier c = true) :
    isNameCharacter c = true := by
  unfold continuesIdentifier at continues
  unfold isNameCharacter
  split at continues
  · simp only [Bool.or_eq_true, beq_iff_eq, decide_eq_true_eq] at continues ⊢
    rcases continues with (letter | lowLine) | digit
    · exact Or.inl (Or.inl (Or.inl letter))
    · exact Or.inl (Or.inr lowLine)
    · exact Or.inl (Or.inl (Or.inr digit))
  · next large =>
      have beyond : 128 ≤ c.toNat := Nat.le_of_not_lt large
      simp only [decide_eq_true beyond, Bool.or_true]

theorem beginsWord_of_beginsIdentifier {c : Char} (begins : beginsIdentifier c = true) :
    beginsWord c = true := by
  unfold beginsIdentifier at begins
  unfold beginsWord
  split at begins
  · simp only [Bool.or_eq_true, beq_iff_eq, decide_eq_true_eq] at begins ⊢
    exact Or.inl begins
  · next large =>
      have beyond : 128 ≤ c.toNat := Nat.le_of_not_lt large
      simp only [decide_eq_true beyond, Bool.or_true]

theorem isNameCharacter_of_beginsWord {c : Char} (begins : beginsWord c = true) :
    isNameCharacter c = true := by
  unfold beginsWord at begins
  unfold isNameCharacter
  simp only [Bool.or_eq_true, decide_eq_true_eq] at begins ⊢
  rcases begins with (letter | lowLine) | beyond
  · exact Or.inl (Or.inl (Or.inl letter))
  · exact Or.inl (Or.inr lowLine)
  · exact Or.inr beyond

theorem isIdentifier_cons {c : Char} {rest : Text} (identifier : isIdentifier (c :: rest) = true) :
    beginsWord c = true ∧ ∀ d ∈ c :: rest, isNameCharacter d = true := by
  unfold isIdentifier at identifier
  rw [Bool.and_eq_true] at identifier
  have begins := beginsWord_of_beginsIdentifier identifier.1
  refine ⟨begins, ?_⟩
  intro d present
  rcases List.mem_cons.mp present with rfl | later
  · exact isNameCharacter_of_beginsWord begins
  · exact isNameCharacter_of_continuesIdentifier (List.all_eq_true.mp identifier.2 d later)

def EndsWord (rest : Text) : Prop :=
  ∀ c ∈ rest.head?, isNameCharacter c = false ∧ c ≠ '"' ∧ c ≠ '\''

theorem endsWord_cons {c : Char} (ends : isNameCharacter c = false ∧ c ≠ '"' ∧ c ≠ '\'')
    (rest : Text) : EndsWord (c :: rest) := by
  intro d first
  cases first
  exact ends

theorem add?_eq_none (kind : LiteralKind) {c : Char} (outside : isNameCharacter c = false) :
    kind.add? c = none := by
  have differs : ∀ letter ∈ ['b', 'B', 'u', 'U', 'r', 'R', 'f', 'F'], c ≠ letter := by
    intro letter present same
    have inside : ∀ letter ∈ ['b', 'B', 'u', 'U', 'r', 'R', 'f', 'F'],
        isNameCharacter letter = true := List.all_eq_true.mp (by decide)
    rw [same, inside letter present] at outside
    cases outside
  simp only [List.forall_mem_cons] at differs
  simp only [LiteralKind.add?, differs, decide_false, Bool.or_false, Bool.and_false,
    Bool.false_eq_true, if_false]

theorem quote?_word (kind : LiteralKind) (word : Text) {rest : Text}
    (inner : ∀ c ∈ word, isNameCharacter c = true) (ends : EndsWord rest) :
    quote? kind (word ++ rest) = none := by
  induction word generalizing kind with
  | nil =>
      cases rest with
      | nil => rfl
      | cons c rest =>
          have outside := ends c rfl
          have noQuote : ¬(c = '"' ∨ c = '\'') := by
            rintro (same | same)
            · exact outside.2.1 same
            · exact outside.2.2 same
          rw [List.nil_append, quote?, if_neg noQuote, add?_eq_none kind outside.1]
  | cons c word ih =>
      have noQuote : ¬(c = '"' ∨ c = '\'') := by
        have first := inner c List.mem_cons_self
        rintro (rfl | rfl)
        · cases first
        · cases first
      have later : ∀ d ∈ word, isNameCharacter d = true := fun d present =>
        inner d (List.mem_cons_of_mem c present)
      rw [List.cons_append, quote?, if_neg noQuote]
      cases kind.add? c with
      | none => rfl
      | some kind => exact ih kind later

theorem takeWhile_word {word rest : Text} (inner : ∀ c ∈ word, isNameCharacter c = true)
    (ends : EndsWord rest) : (word ++ rest).takeWhile isNameCharacter = word := by
  rw [List.takeWhile_append_of_pos inner]
  cases rest with
  | nil => exact List.append_nil word
  | cons c rest =>
      rw [List.takeWhile_cons, if_neg (by rw [(ends c rfl).1]; exact Bool.false_ne_true),
        List.append_nil]

theorem dropWhile_word {word rest : Text} (inner : ∀ c ∈ word, isNameCharacter c = true)
    (ends : EndsWord rest) : (word ++ rest).dropWhile isNameCharacter = rest := by
  rw [List.dropWhile_append_of_pos inner]
  cases rest with
  | nil => rfl
  | cons c rest =>
      rw [List.dropWhile_cons, if_neg (by rw [(ends c rfl).1]; exact Bool.false_ne_true)]

theorem token?_word {c : Char} {word rest : Text} {token : Token} (begins : beginsWord c = true)
    (inner : ∀ d ∈ c :: word, isNameCharacter d = true) (ends : EndsWord rest)
    (known : word? (c :: word) = some token) :
    token? (c :: word ++ rest) = some (token, rest) := by
  have noLiteral := quote?_word LiteralKind.plain (c :: word) inner ends
  have taken := takeWhile_word inner ends
  have dropped := dropWhile_word inner ends
  unfold token?
  rw [noLiteral]
  simp only [List.cons_append] at taken dropped ⊢
  rw [if_pos begins, taken, dropped, known, Option.map_some]

theorem word?_identifier (identifier : Identifier) (free : isKeyword identifier.spelling = false) :
    word? identifier.spelling = some (.name identifier) := by
  unfold isKeyword at free
  rw [Option.isSome_eq_false_iff, Option.isNone_iff_eq_none] at free
  unfold word?
  rw [free]
  exact dif_pos identifier.isValid

/-! ### Pieces of lines -/

/-- The brackets that are open behind a token, unless the token closes the wrong one. -/
def bracketsAfter? (brackets : List Mark) : Token → Option (List Mark)
  | .mark mark => brackets? brackets mark
  | _ => some brackets

def BeginsToken (c : Char) : Prop := c ≠ '\n' ∧ c ≠ '#' ∧ c ≠ '\\' ∧ isBlank c = false

instance (c : Char) : Decidable (BeginsToken c) := instDecidableAnd

theorem scan_token {c : Char} {text rest : Text} {token : Token} {brackets after : List Mark}
    (begins : BeginsToken c) (read : token? (c :: text) = some (token, rest))
    (opened : bracketsAfter? brackets token = some after) (fuel : Nat) (margins : List Margin) :
    scan (fuel + 1) margins brackets false (c :: text) =
      (scan fuel margins after false rest).map (token :: ·) := by
  obtain ⟨notLineFeed, notComment, notBackslash, notBlank⟩ := begins
  rw [scan.eq_def]
  simp only [Bool.false_eq_true, if_false]
  split
  · next empty => cases empty
  · next same => exact absurd (List.cons.inj same).1 notLineFeed
  · next same => exact absurd (List.cons.inj same).1 notComment
  · next same => exact absurd (List.cons.inj same).1 notBackslash
  · next same => exact absurd (List.cons.inj same).1 notBackslash
  · next same =>
      cases same
      rw [notBlank, if_neg Bool.false_ne_true, read]
      cases token with
      | mark mark =>
          change brackets? brackets mark = some after at opened
          simp only [Option.bind_eq_bind, Option.bind_some, opened]
      | name | keyword | number | string | newline | indent | dedent =>
          cases opened
          simp only [Option.bind_eq_bind, Option.bind_some]

theorem scan_blank (fuel : Nat) (margins : List Margin) (brackets : List Mark) (rest : Text) :
    scan (fuel + 1) margins brackets false (' ' :: rest) = scan fuel margins brackets false rest :=
  rfl

theorem scan_lineFeed (fuel : Nat) (margins : List Margin) (rest : Text) :
    scan (fuel + 1) margins [] false ('\n' :: rest) =
      (scan fuel margins [] true rest).map (.newline :: ·) := rfl

def noMargin : List Margin := [⟨0, 0⟩]

theorem scan_emptyLine (fuel : Nat) (rest : Text) :
    scan (fuel + 1) noMargin [] true ('\n' :: rest) = scan fuel noMargin [] true rest := rfl

theorem scan_end (fuel : Nat) : scan (fuel + 1) noMargin [] true [] = some [] := rfl

theorem margin?_token {c : Char} (begins : BeginsToken c) (text : Text) :
    margin? ⟨0, 0⟩ 0 (c :: text) = some (⟨0, 0⟩, c :: text) := by
  obtain ⟨notLineFeed, notComment, notBackslash, notBlank⟩ := begins
  have notSpace : c ≠ ' ' := by rintro rfl; cases notBlank
  have notTabulator : c ≠ '\t' := by rintro rfl; cases notBlank
  have notFormFeed : c ≠ '\x0c' := by rintro rfl; cases notBlank
  rw [margin?.eq_def]
  split
  · next same => exact absurd (List.cons.inj same).1 notSpace
  · next same => exact absurd (List.cons.inj same).1 notTabulator
  · next same => exact absurd (List.cons.inj same).1 notFormFeed
  · next same => exact absurd (List.cons.inj same).1 notBackslash
  · next same => exact absurd (List.cons.inj same).1 notBackslash
  · next same => exact absurd (List.cons.inj same).1 notBackslash
  · rfl

theorem scan_fresh {c : Char} (begins : BeginsToken c) (fuel : Nat) (text : Text) :
    scan (fuel + 1) noMargin [] true (c :: text) = scan fuel noMargin [] false (c :: text) := by
  obtain ⟨notLineFeed, notComment, _, _⟩ := id begins
  rw [scan.eq_def]
  simp only [if_true, margin?_token begins]
  split
  · next impossible => cases impossible
  · next same => cases (Prod.mk.inj (Option.some.inj same)).2
  · next same =>
      exact absurd (List.cons.inj (Prod.mk.inj (Option.some.inj same)).2).1 notLineFeed
  · next same =>
      exact absurd (List.cons.inj (Prod.mk.inj (Option.some.inj same)).2).1 notComment
  · next same =>
      obtain ⟨rfl, rfl⟩ := Prod.mk.inj (Option.some.inj same)
      have unchanged : indentation? noMargin ⟨0, 0⟩ = some ([], noMargin) := rfl
      simp only [unchanged, Option.bind_eq_bind, Option.bind_some, List.nil_append]
      cases scan fuel noMargin [] false (c :: text) <;> rfl

/--
Reading a piece of a line in front of `rest` gives `tokens` and leaves the brackets `after`
open. It takes at most one step for each character.
-/
def Scans (brackets : List Mark) (piece : Text) (tokens : List Token) (after : List Mark)
    (rest : Text) : Prop :=
  ∃ steps, steps ≤ piece.length ∧ ∀ fuel margins,
    scan (fuel + steps) margins brackets false (piece ++ rest) =
      (scan fuel margins after false rest).map (tokens ++ ·)

theorem Scans.nil (brackets : List Mark) (rest : Text) : Scans brackets [] [] brackets rest := by
  refine ⟨0, Nat.le_refl 0, ?_⟩
  intro fuel margins
  change scan fuel margins brackets false rest = _
  cases scan fuel margins brackets false rest <;> rfl

theorem Scans.append {brackets between after : List Mark} {piece later rest : Text}
    {tokens others : List Token} (first : Scans brackets piece tokens between (later ++ rest))
    (second : Scans between later others after rest) :
    Scans brackets (piece ++ later) (tokens ++ others) after rest := by
  obtain ⟨stepsFirst, fewFirst, readFirst⟩ := first
  obtain ⟨stepsSecond, fewSecond, readSecond⟩ := second
  refine ⟨stepsSecond + stepsFirst, ?_, ?_⟩
  · rw [List.length_append]
    omega
  · intro fuel margins
    rw [← Nat.add_assoc, List.append_assoc, readFirst, readSecond, Option.map_map]
    simp only [Function.comp_def, List.append_assoc]

theorem Scans.blank (brackets : List Mark) (rest : Text) :
    Scans brackets [' '] [] brackets rest := by
  refine ⟨1, Nat.le_refl 1, ?_⟩
  intro fuel margins
  rw [List.singleton_append, scan_blank]
  cases scan fuel margins brackets false rest <;> rfl

theorem Scans.spaced {brackets after : List Mark} {piece rest : Text} {tokens : List Token}
    (scans : Scans brackets piece tokens after (' ' :: rest)) :
    Scans brackets (piece ++ [' ']) tokens after rest := by
  have whole := Scans.append scans (Scans.blank after rest)
  rwa [List.append_nil] at whole

theorem Scans.token {c : Char} {text rest : Text} {token : Token} {brackets after : List Mark}
    (begins : BeginsToken c) (read : token? (c :: text ++ rest) = some (token, rest))
    (opened : bracketsAfter? brackets token = some after) :
    Scans brackets (c :: text) [token] after rest := by
  refine ⟨1, Nat.le_add_left 1 text.length, ?_⟩
  intro fuel margins
  exact scan_token begins read opened fuel margins

/-! ### Marks, words and quoted texts -/

def singleMarks : List (Char × Mark) :=
  [('(', .leftParenthesis), (')', .rightParenthesis), ('[', .leftBracket), (']', .rightBracket),
    ('\x7b', .leftBrace), ('\x7d', .rightBrace), (',', .comma)]

theorem token?_singleMark {c : Char} {mark : Mark} (single : (c, mark) ∈ singleMarks)
    (rest : Text) : token? (c :: rest) = some (.mark mark, rest) := by
  simp only [singleMarks, List.mem_cons, Prod.mk.injEq, List.not_mem_nil, or_false] at single
  rcases single with ⟨rfl, rfl⟩ | ⟨rfl, rfl⟩ | ⟨rfl, rfl⟩ | ⟨rfl, rfl⟩ | ⟨rfl, rfl⟩ | ⟨rfl, rfl⟩ |
    ⟨rfl, rfl⟩ <;> rfl

theorem beginsToken_singleMark {c : Char} {mark : Mark} (single : (c, mark) ∈ singleMarks) :
    BeginsToken c := by
  have each : ∀ entry ∈ singleMarks, BeginsToken entry.1 := by decide
  exact each (c, mark) single

theorem Scans.mark {c : Char} {mark : Mark} (single : (c, mark) ∈ singleMarks)
    {brackets after : List Mark} (opened : brackets? brackets mark = some after) (rest : Text) :
    Scans brackets [c] [.mark mark] after rest :=
  Scans.token (beginsToken_singleMark single) (token?_singleMark single rest) opened

theorem Scans.comma (brackets : List Mark) (rest : Text) :
    Scans brackets [',', ' '] [.mark .comma] brackets rest :=
  Scans.append (Scans.mark (by decide) rfl (' ' :: rest)) (Scans.blank brackets rest)

theorem Scans.colon (brackets : List Mark) (rest : Text) :
    Scans brackets [':', ' '] [.mark .colon] brackets rest := by
  have first : Scans brackets [':'] [.mark .colon] brackets (' ' :: rest) :=
    Scans.token (by decide) rfl rfl
  exact Scans.append first (Scans.blank brackets rest)

theorem Scans.equals (brackets : List Mark) (rest : Text) :
    Scans brackets ['=', ' '] [.mark .equals] brackets rest := by
  have first : Scans brackets ['='] [.mark .equals] brackets (' ' :: rest) :=
    Scans.token (by decide) rfl rfl
  exact Scans.append first (Scans.blank brackets rest)

theorem beginsToken_of_beginsWord {c : Char} (begins : beginsWord c = true) : BeginsToken c := by
  refine ⟨?_, ?_, ?_, ?_⟩
  · rintro rfl; cases begins
  · rintro rfl; cases begins
  · rintro rfl; cases begins
  · rw [Bool.eq_false_iff]
    intro blank
    unfold isBlank at blank
    simp only [Bool.or_eq_true, decide_eq_true_eq] at blank
    rcases blank with (rfl | rfl) | rfl <;> cases begins

theorem Scans.word {c : Char} {word rest : Text} {token : Token} (brackets : List Mark)
    (begins : beginsWord c = true) (inner : ∀ d ∈ c :: word, isNameCharacter d = true)
    (ends : EndsWord rest) (known : word? (c :: word) = some token) :
    Scans brackets (c :: word) [token] brackets rest := by
  have opened : bracketsAfter? brackets token = some brackets := by
    unfold word? at known
    split at known
    · cases known; rfl
    · split at known
      · cases known; rfl
      · cases known
  exact Scans.token (beginsToken_of_beginsWord begins) (token?_word begins inner ends known) opened

theorem Scans.name (identifier : Identifier) (rest : Text) (brackets : List Mark)
    (free : isKeyword identifier.spelling = false) (ends : EndsWord rest) :
    Scans brackets identifier.spelling [.name identifier] brackets rest := by
  have known := word?_identifier identifier free
  obtain ⟨word, isValid⟩ := identifier
  cases word with
  | nil => cases isValid
  | cons c word =>
      obtain ⟨begins, inner⟩ := isIdentifier_cons isValid
      exact Scans.word brackets begins inner ends known

def quotedToken (text : Text) : Token :=
  .string ⟨LiteralKind.plain, text.flatMap (escaped (quoteFor text))⟩

def EndsQuoted (rest : Text) : Prop := rest.head? ≠ some '\'' ∧ rest.head? ≠ some '"'

theorem token?_quoted (text : Text) {rest : Text} (ends : EndsQuoted rest) :
    token? (quoted text ++ rest) = some (quotedToken text, rest) := by
  have isQuote := isQuote_quoteFor text
  have differs : rest.head? ≠ some (quoteFor text) := by
    rcases isQuote with same | same <;> rw [same]
    · exact ends.1
    · exact ends.2
  have begins : quote? LiteralKind.plain
      (quoteFor text :: (text.flatMap (escaped (quoteFor text)) ++ quoteFor text :: rest)) =
        some (LiteralKind.plain, quoteFor text,
          text.flatMap (escaped (quoteFor text)) ++ quoteFor text :: rest) := by
    rw [quote?, if_pos (isQuote.symm)]
  unfold token? quoted
  simp only [List.cons_append, List.append_assoc, List.nil_append]
  rw [begins]
  simp only [body?_quoted isQuote text differs, Option.map_some]
  rfl

theorem Scans.quoted (brackets : List Mark) (text : Text) {rest : Text} (ends : EndsQuoted rest) :
    Scans brackets (Text.quoted text) [quotedToken text] brackets rest := by
  have begins : BeginsToken (quoteFor text) := by
    rcases isQuote_quoteFor text with same | same <;> rw [same] <;> decide
  exact Scans.token begins (token?_quoted text ends) rfl

theorem longBody?_plain (body : Text) (plain : ∀ c ∈ body, c ≠ '"' ∧ c ≠ '\\') (rest : Text) :
    longBody? '"' (body ++ '"' :: '"' :: '"' :: rest) = some (body, rest) := by
  induction body with
  | nil => rfl
  | cons a body ih =>
      have first := plain a List.mem_cons_self
      have later : ∀ c ∈ body, c ≠ '"' ∧ c ≠ '\\' := fun c present =>
        plain c (List.mem_cons_of_mem a present)
      -- `longBody?` looks at three characters at once, so the two behind `a` are made visible.
      have behind : ∃ b c more, body ++ '"' :: '"' :: '"' :: rest = b :: c :: more := by
        rcases body with _ | ⟨b, _ | ⟨c, more⟩⟩
        · exact ⟨_, _, _, rfl⟩
        · exact ⟨_, _, _, rfl⟩
        · exact ⟨b, c, _, rfl⟩
      obtain ⟨b, c, more, shape⟩ := behind
      have read := ih later
      rw [shape] at read
      rw [List.cons_append, shape, longBody?]
      · rw [if_neg (fun same => first.1 same.1), read, Option.map_some]
      · exact first.2

theorem Scans.tripled (brackets : List Mark) (body : Text)
    (plain : ∀ c ∈ body, c ≠ '"' ∧ c ≠ '\\') (rest : Text) :
    Scans brackets ('"' :: '"' :: '"' :: body ++ ['"', '"', '"'])
      [.string ⟨LiteralKind.plain, body⟩] brackets rest := by
  have begins : BeginsToken '"' := by decide
  have read : token? ('"' :: '"' :: '"' :: (body ++ '"' :: '"' :: '"' :: rest)) =
      some (.string ⟨LiteralKind.plain, body⟩, rest) := by
    have opening : quote? LiteralKind.plain
        ('"' :: '"' :: '"' :: (body ++ '"' :: '"' :: '"' :: rest)) =
          some (LiteralKind.plain, '"', '"' :: '"' :: (body ++ '"' :: '"' :: '"' :: rest)) := rfl
    have closing : body? '"' ('"' :: '"' :: (body ++ '"' :: '"' :: '"' :: rest)) =
        some (body, rest) := longBody?_plain body plain rest
    unfold token?
    rw [opening]
    simp only [closing, Option.map_some]
  have shape : '"' :: '"' :: '"' :: body ++ ['"', '"', '"'] ++ rest =
      '"' :: '"' :: '"' :: (body ++ '"' :: '"' :: '"' :: rest) := by
    simp only [List.cons_append, List.append_assoc, List.nil_append]
  exact Scans.token begins (shape ▸ read) rfl

/-! ### Lines and whole texts -/

/-- Reading whole lines, none of them indented, gives `tokens`, whatever comes behind them. -/
def ScansLines (text : Text) (tokens : List Token) : Prop :=
  ∀ rest, ∃ steps, steps ≤ 2 * text.length ∧ ∀ fuel,
    scan (fuel + steps) noMargin [] true (text ++ rest) =
      (scan fuel noMargin [] true rest).map (tokens ++ ·)

theorem ScansLines.nil : ScansLines [] [] := by
  intro rest
  refine ⟨0, Nat.le_refl 0, ?_⟩
  intro fuel
  change scan fuel noMargin [] true rest = _
  cases scan fuel noMargin [] true rest <;> rfl

theorem ScansLines.append {text later : Text} {tokens others : List Token}
    (first : ScansLines text tokens) (second : ScansLines later others) :
    ScansLines (text ++ later) (tokens ++ others) := by
  intro rest
  obtain ⟨stepsSecond, fewSecond, readSecond⟩ := second rest
  obtain ⟨stepsFirst, fewFirst, readFirst⟩ := first (later ++ rest)
  refine ⟨stepsSecond + stepsFirst, ?_, ?_⟩
  · rw [List.length_append]
    omega
  · intro fuel
    rw [← Nat.add_assoc, List.append_assoc, readFirst, readSecond, Option.map_map]
    simp only [Function.comp_def, List.append_assoc]

theorem ScansLines.empty : ScansLines ['\n'] [] := by
  intro rest
  refine ⟨1, by decide, ?_⟩
  intro fuel
  rw [List.singleton_append, scan_emptyLine]
  cases scan fuel noMargin [] true rest <;> rfl

/-- A piece with all its brackets closed is a line. -/
theorem ScansLines.line {c : Char} {text : Text} {tokens : List Token} (begins : BeginsToken c)
    (scans : ∀ rest, Scans [] (c :: text) tokens [] ('\n' :: rest)) :
    ScansLines (c :: text ++ ['\n']) (tokens ++ [.newline]) := by
  intro rest
  obtain ⟨steps, few, read⟩ := scans rest
  refine ⟨1 + steps + 1, ?_, ?_⟩
  · rw [List.length_append, List.length_singleton]
    omega
  · intro fuel
    have shape : c :: text ++ ['\n'] ++ rest = c :: (text ++ '\n' :: rest) := by
      simp only [List.cons_append, List.append_assoc, List.nil_append]
    rw [shape, ← Nat.add_assoc, scan_fresh begins, ← Nat.add_assoc]
    change scan (fuel + 1 + steps) noMargin [] false (c :: text ++ '\n' :: rest) = _
    rw [read (fuel + 1) noMargin, scan_lineFeed, Option.map_map]
    simp only [Function.comp_def, List.append_assoc, List.singleton_append]

theorem ScansLines.flatMap {α : Type} {text : α → Text} {tokens : α → List Token} (items : List α)
    (each : ∀ item ∈ items, ScansLines (text item) (tokens item)) :
    ScansLines (items.flatMap text) (items.flatMap tokens) := by
  induction items with
  | nil => exact ScansLines.nil
  | cons item items ih =>
      have first := each item List.mem_cons_self
      have later := ih fun other present => each other (List.mem_cons_of_mem item present)
      rw [List.flatMap_cons, List.flatMap_cons]
      exact first.append later

theorem withLineFeeds_eq_self {text : Text} (noReturn : ∀ c ∈ text, c ≠ '\r')
    (ended : text.getLast? = some '\n') : withLineFeeds text = text := by
  induction text with
  | nil => rfl
  | cons c rest ih =>
      have first := noReturn c List.mem_cons_self
      cases rest with
      | nil =>
          cases ended
          rfl
      | cons d rest =>
          have later := ih (fun e present => noReturn e (List.mem_cons_of_mem c present)) ended
          rw [withLineFeeds]
          · rw [later]
          all_goals
            intros
            simp_all

theorem tokens?_of_scansLines {text : Text} {tokens : List Token} (scans : ScansLines text tokens)
    (noReturn : ∀ c ∈ text, c ≠ '\r') (ended : text.getLast? = some '\n') :
    tokens? text = some tokens := by
  -- The scan is given more fuel than the lines take; one step of what is left sees the end.
  obtain ⟨steps, few, read⟩ := scans []
  unfold tokens?
  simp only [withLineFeeds_eq_self noReturn ended]
  have fuel : 2 * text.length + 2 = (2 * text.length - steps + 1) + 1 + steps := by omega
  have finished := read ((2 * text.length - steps + 1) + 1)
  rw [List.append_nil, scan_end, Option.map_some, List.append_nil] at finished
  rw [fuel]
  exact finished

end ControllerClient.Source.Lexer
