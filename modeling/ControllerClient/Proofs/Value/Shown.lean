import ControllerClient.Proofs.Source.Reading
import ControllerClient.Source.Constant

/-!
The shown form of values that are made of texts. Its tokens are those of a
literal, and the literal has the value that was shown.
-/

namespace ControllerClient

open Source Source.Lexer

namespace Source.Lexer

theorem Scans.enclosed (c d : Char) (opening closing : Mark) (first : (c, opening) ∈ singleMarks)
    (last : (d, closing) ∈ singleMarks) (belongs : opening.closing? = some closing)
    {brackets : List Mark} (few : brackets.length < bracketLimit) {text rest : Text}
    {tokens : List Token}
    (inner : Scans (closing :: brackets) text tokens (closing :: brackets) (d :: rest)) :
    Scans brackets (c :: text ++ [d]) (.mark opening :: (tokens ++ [.mark closing])) brackets
      rest := by
  have opened : brackets? brackets opening = some (closing :: brackets) := by
    simp only [brackets?, belongs, if_neg (Nat.not_le_of_lt few)]
  have closed : brackets? (closing :: brackets) closing = some brackets := by
    cases opening <;> cases belongs <;> rfl
  have inside := inner.append (Scans.mark last closed rest)
  exact (Scans.mark first opened (text ++ [d] ++ rest)).append inside

theorem endsQuoted_cons {c : Char} (single : c ≠ '\'') (double : c ≠ '"') (rest : Text) :
    EndsQuoted (c :: rest) :=
  ⟨fun same => single (Option.some.inj same), fun same => double (Option.some.inj same)⟩

/-- Items with a comma and a blank between neighbours are read item by item. -/
theorem Scans.items {α : Type} (textOf : α → Text) (tokensOf : α → List Token)
    (brackets : List Mark) (first : α) (items : List α)
    (each : ∀ item ∈ first :: items, ∀ rest, EndsQuoted rest →
      Scans brackets (textOf item) (tokensOf item) brackets rest)
    {rest : Text} (ends : EndsQuoted rest) :
    Scans brackets (Text.joined ", ".toList ((first :: items).map textOf))
      (tokensOf first ++ behindCommas (items.map tokensOf)) brackets rest := by
  induction items generalizing first with
  | nil =>
      rw [List.map_nil]
      change Scans brackets (textOf first) (tokensOf first ++ []) brackets rest
      rw [List.append_nil]
      exact each first List.mem_cons_self rest ends
  | cons second items ih =>
      have later := ih second fun item present => each item (List.mem_cons_of_mem first present)
      have comma : Scans brackets ", ".toList [.mark .comma] brackets
          (Text.joined ", ".toList ((second :: items).map textOf) ++ rest) :=
        Scans.comma brackets _
      have head := each first List.mem_cons_self
        (", ".toList ++ Text.joined ", ".toList ((second :: items).map textOf) ++ rest)
        (endsQuoted_cons (by decide) (by decide) _)
      have several : (second :: items).map textOf ≠ [] := List.cons_ne_nil _ _
      rw [List.map_cons, Text.joined_cons_of_ne_nil _ _ several, List.append_assoc]
      exact head.append (comma.append later)

section Brackets

variable (brackets : List Mark)

theorem Scans.texts (first : Text) (items : List Text) {rest : Text} (ends : EndsQuoted rest) :
    Scans brackets (Text.joined ", ".toList ((first :: items).map Text.quoted))
      (quotedToken first :: behindCommas (items.map fun text => [quotedToken text])) brackets
      rest :=
  Scans.items Text.quoted (fun text => [quotedToken text]) brackets first items
    (fun text _ _ ends => Scans.quoted brackets text ends) ends

theorem Scans.pair (left right : Text) (few : brackets.length < bracketLimit) (rest : Text) :
    Scans brackets (Value.tuple [.str left, .str right]).shown (pairTokens left right) brackets
      rest := by
  have inner := Scans.texts (.rightParenthesis :: brackets) left [right]
    (endsQuoted_cons (c := ')') (by decide) (by decide) rest)
  exact Scans.enclosed '(' ')' .leftParenthesis .rightParenthesis (by decide) (by decide) rfl few
    inner

theorem shownItems_texts (texts : List Text) :
    Value.shownItems (texts.map .str) = texts.map Text.quoted := by
  induction texts with
  | nil => rfl
  | cons text texts ih =>
      rw [List.map_cons, Value.shownItems, ih]
      rfl

theorem shown_textList (texts : List Text) :
    (Value.list (texts.map .str)).shown =
      '[' :: Text.joined ", ".toList (texts.map Text.quoted) ++ [']'] := by
  rw [← shownItems_texts]
  rfl

theorem Scans.textList (first : Text) (items : List Text) (few : brackets.length < bracketLimit)
    (rest : Text) :
    Scans brackets (Value.list ((first :: items).map .str)).shown (textsTokens first items)
      brackets rest := by
  have inner := Scans.texts (.rightBracket :: brackets) first items
    (endsQuoted_cons (c := ']') (by decide) (by decide) rest)
  rw [shown_textList]
  have whole := Scans.enclosed '[' ']' .leftBracket .rightBracket (by decide) (by decide) rfl few
    inner
  exact whole

def entryText (item : PairEntry) : Text :=
  Text.quoted item.1 ++ ": ".toList ++ (Value.tuple [.str item.2.1, .str item.2.2]).shown

def pairsValue (items : List PairEntry) : Value :=
  .dict (items.map fun item => (.str item.1, .tuple [.str item.2.1, .str item.2.2]))

theorem shownEntries_pairs (items : List PairEntry) :
    Value.shownEntries (items.map fun item =>
        (.str item.1, .tuple [.str item.2.1, .str item.2.2])) = items.map entryText := by
  induction items with
  | nil => rfl
  | cons item items ih =>
      rw [List.map_cons, Value.shownEntries, ih]
      rfl

theorem shown_pairsValue (items : List PairEntry) :
    (pairsValue items).shown =
      '\x7b' :: Text.joined ", ".toList (items.map entryText) ++ ['\x7d'] := by
  rw [← shownEntries_pairs]
  rfl

theorem Scans.entry (item : PairEntry) (few : brackets.length < bracketLimit) (rest : Text) :
    Scans brackets (entryText item) (entryTokens item) brackets rest := by
  have value : Scans brackets (Value.tuple [.str item.2.1, .str item.2.2]).shown
      (pairTokens item.2.1 item.2.2) brackets rest :=
    Scans.pair brackets item.2.1 item.2.2 few rest
  have colon : Scans brackets ": ".toList [.mark .colon] brackets
      ((Value.tuple [.str item.2.1, .str item.2.2]).shown ++ rest) := Scans.colon brackets _
  have key := Scans.quoted brackets item.1 (endsQuoted_cons (c := ':') (by decide) (by decide)
    (' ' :: ((Value.tuple [.str item.2.1, .str item.2.2]).shown ++ rest)))
  have front : Scans brackets (Text.quoted item.1 ++ ": ".toList)
      [quotedToken item.1, .mark .colon] brackets
      ((Value.tuple [.str item.2.1, .str item.2.2]).shown ++ rest) := Scans.append key colon
  exact front.append value

theorem Scans.pairs (items : List PairEntry) (few : brackets.length + 1 < bracketLimit)
    (rest : Text) :
    Scans brackets (pairsValue items).shown (dictTokens items) brackets rest := by
  rw [shown_pairsValue]
  have enclosed {text : Text} {tokens : List Token}
      (inner : Scans (.rightBrace :: brackets) text tokens (.rightBrace :: brackets)
        ('\x7d' :: rest)) :=
    Scans.enclosed '\x7b' '\x7d' .leftBrace .rightBrace (by decide) (by decide) rfl
      (Nat.lt_of_succ_lt few) inner
  cases items with
  | nil => exact enclosed (Scans.nil _ _)
  | cons first items =>
      have inner := Scans.items entryText entryTokens (.rightBrace :: brackets) first items
        (fun item _ later _ => Scans.entry (.rightBrace :: brackets) item few later)
        (endsQuoted_cons (c := '\x7d') (by decide) (by decide) rest)
      have whole := enclosed inner
      rw [dictTokens]
      rw [List.append_assoc] at whole
      exact whole

end Brackets

end Source.Lexer

namespace Source

theorem isReadable_append {left right : Text} (first : ∀ c ∈ left, IsReadable c)
    (second : ∀ c ∈ right, IsReadable c) : ∀ c ∈ left ++ right, IsReadable c := by
  intro c present
  rcases List.mem_append.mp present with inside | inside
  · exact first c inside
  · exact second c inside

theorem isReadable_joined {separator : Text} (between : ∀ c ∈ separator, IsReadable c)
    (pieces : List Text) (each : ∀ piece ∈ pieces, ∀ c ∈ piece, IsReadable c) :
    ∀ c ∈ Text.joined separator pieces, IsReadable c := by
  induction pieces with
  | nil =>
      intro c present
      cases present
  | cons piece pieces ih =>
      have first := each piece List.mem_cons_self
      have later := ih fun other present => each other (List.mem_cons_of_mem piece present)
      cases pieces with
      | nil => exact first
      | cons second more => exact isReadable_append (isReadable_append first between) later

theorem isReadable_bracketed {opening closing : Char} (first : IsReadable opening)
    (last : IsReadable closing) (items : List Text)
    (each : ∀ item ∈ items, ∀ c ∈ item, IsReadable c) :
    ∀ c ∈ Value.bracketed opening closing items, IsReadable c := by
  have between : ∀ c ∈ ", ".toList, IsReadable c := Text.forall_mem_of_all (by decide)
  have row := isReadable_joined between items each
  have ending : ∀ c ∈ [closing], IsReadable c := fun c present =>
    List.mem_singleton.mp present ▸ last
  intro c present
  rcases List.mem_cons.mp present with rfl | inside
  · exact first
  · exact isReadable_append row ending c inside

theorem isReadable_pair (left right : Text) :
    ∀ c ∈ (Value.tuple [.str left, .str right]).shown, IsReadable c := by
  apply isReadable_bracketed (by decide) (by decide)
  intro item present
  change item ∈ [Text.quoted left, Text.quoted right] at present
  simp only [List.mem_cons, List.not_mem_nil, or_false] at present
  rcases present with rfl | rfl
  · exact isReadable_quoted left
  · exact isReadable_quoted right

theorem isReadable_textList (texts : List Text) :
    ∀ c ∈ (Value.list (texts.map .str)).shown, IsReadable c := by
  rw [shown_textList]
  apply isReadable_bracketed (by decide) (by decide)
  intro item present
  obtain ⟨text, _, rfl⟩ := List.mem_map.mp present
  exact isReadable_quoted text

theorem isReadable_pairs (items : List PairEntry) :
    ∀ c ∈ (pairsValue items).shown, IsReadable c := by
  rw [shown_pairsValue]
  apply isReadable_bracketed (by decide) (by decide)
  intro text present
  obtain ⟨item, _, rfl⟩ := List.mem_map.mp present
  have colon : ∀ c ∈ ": ".toList, IsReadable c := Text.forall_mem_of_all (by decide)
  exact isReadable_append (isReadable_append (isReadable_quoted item.1) colon)
    (isReadable_pair item.2.1 item.2.2)

end Source

namespace Entries

theorem insert_new {entries : Entries} {key : Value} (value : Value)
    (new : ∀ entry ∈ entries, entry.1.sameKey key = false) :
    entries.insert key value = entries ++ [(key, value)] := by
  induction entries with
  | nil => rfl
  | cons entry entries ih =>
      have later := ih fun other present => new other (List.mem_cons_of_mem entry present)
      rw [insert, new entry List.mem_cons_self, later]
      rfl

theorem foldl_insert_texts {α : Type} (name : α → Text) (value : α → Value) (items : List α)
    (entries : Entries) (distinct : (items.map name).Nodup)
    (new : ∀ item ∈ items, ∀ entry ∈ entries, entry.1.sameKey (.str (name item)) = false) :
    (items.map fun item => (Value.str (name item), value item)).foldl
        (fun entries pair => Entries.insert entries pair.1 pair.2) entries =
      entries ++ items.map fun item => (Value.str (name item), value item) := by
  induction items generalizing entries with
  | nil => exact (List.append_nil entries).symm
  | cons item items ih =>
      obtain ⟨absent, others⟩ := List.nodup_cons.mp distinct
      have first := insert_new (value item) (new item List.mem_cons_self)
      have later : ∀ other ∈ items, ∀ entry ∈ entries ++ [(Value.str (name item), value item)],
          entry.1.sameKey (.str (name other)) = false := by
        intro other present entry inside
        rcases List.mem_append.mp inside with old | last
        · exact new other (List.mem_cons_of_mem item present) entry old
        · rw [List.mem_singleton.mp last]
          change (name item == name other) = false
          apply beq_false_of_ne
          intro same
          exact absent (same ▸ List.mem_map_of_mem present)
      rw [List.map_cons, List.foldl_cons, first, ih _ others later, List.append_assoc,
        List.singleton_append]

theorem ofPairs_texts {α : Type} (name : α → Text) (value : α → Value) (items : List α)
    (distinct : (items.map name).Nodup) :
    ofPairs (items.map fun item => (.str (name item), value item)) =
      items.map fun item => (.str (name item), value item) := by
  have nothing : ∀ item ∈ items, ∀ entry ∈ ([] : Entries),
      entry.1.sameKey (.str (name item)) = false := by
    intro item _ entry inside
    cases inside
  exact foldl_insert_texts name value items [] distinct nothing

end Entries

namespace Source

theorem valuesOf?_texts (texts : List Text) :
    valuesOf? (texts.map textExpr) = some (texts.map .str) := by
  induction texts with
  | nil => rfl
  | cons text texts ih =>
      rw [List.map_cons, valuesOf?, ih]
      rfl

theorem value?_texts (texts : List Text) :
    (Expr.list (texts.map textExpr)).value? = some (.list (texts.map .str)) := by
  rw [Expr.value?, valuesOf?_texts]
  rfl

theorem entriesOf?_pairs (items : List PairEntry) :
    entriesOf? (items.map entryExpr) =
      some (items.map fun item => (.str item.1, .tuple [.str item.2.1, .str item.2.2])) := by
  induction items with
  | nil => rfl
  | cons item items ih =>
      rw [List.map_cons, entryExpr, entriesOf?, ih]
      rfl

theorem value?_pairs (items : List PairEntry) (distinct : (items.map (·.1)).Nodup) :
    (Expr.dict (items.map entryExpr)).value? = some (pairsValue items) := by
  rw [Expr.value?, entriesOf?_pairs, Option.map_some, Entries.ofPairs_texts _ _ _ distinct]
  rfl

end Source

end ControllerClient
