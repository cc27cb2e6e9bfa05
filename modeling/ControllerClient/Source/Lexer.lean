import ControllerClient.Source.Numeral

/-!
From source text to tokens. Lines end with a line feed; a change of the blank
space in front of a line is an indent or dedents, unless the line is empty or
lies inside brackets.
-/

namespace ControllerClient.Source.Lexer

/--
Every line ended by a line feed; one that ends with both characters at the very end leaves
an empty line.
-/
def withLineFeeds : Text → Text
  | [] => []
  | ['\n'] => ['\n']
  | ['\r'] => ['\n']
  | ['\r', '\n'] => ['\n', '\n']
  | '\r' :: '\n' :: rest => '\n' :: withLineFeeds rest
  | '\r' :: rest => '\n' :: withLineFeeds rest
  | [c] => [c, '\n']
  | c :: rest => c :: withLineFeeds rest

def quote? (kind : LiteralKind) : Text → Option (LiteralKind × Char × Text)
  | [] => none
  | c :: rest =>
    if c = '"' ∨ c = '\'' then some (kind, c, rest)
    else match kind.add? c with
      | some kind => quote? kind rest
      | none => none

def shortBody? (quote : Char) : Text → Option (Text × Text)
  | '\\' :: c :: rest =>
    (shortBody? quote rest).map fun (body, behind) => ('\\' :: c :: body, behind)
  | c :: rest =>
    if c = quote then some ([], rest)
    else if c = '\n' then none
    else (shortBody? quote rest).map fun (body, behind) => (c :: body, behind)
  | [] => none

def longBody? (quote : Char) : Text → Option (Text × Text)
  | '\\' :: c :: rest =>
    (longBody? quote rest).map fun (body, behind) => ('\\' :: c :: body, behind)
  | a :: b :: c :: rest =>
    if a = quote ∧ b = quote ∧ c = quote then some ([], rest)
    else (longBody? quote (b :: c :: rest)).map fun (body, behind) => (a :: body, behind)
  | _ => none

def body? (quote : Char) : Text → Option (Text × Text)
  | a :: b :: rest =>
    if a = quote ∧ b = quote then longBody? quote rest
    else shortBody? quote (a :: b :: rest)
  | text => shortBody? quote text

/-- A character that begins a name or a reserved word, as far as can be told from it alone. -/
def beginsWord (c : Char) : Bool := Text.isLetter c || c = '_' || 128 ≤ c.toNat

def word? (word : Text) : Option Token :=
  match Keyword.ofText? word with
  | some keyword => some (.keyword keyword)
  | none =>
    if isValid : Text.isIdentifier word = true then some (.name ⟨word, isValid⟩) else none

def token? (text : Text) : Option (Token × Text) :=
  match quote? LiteralKind.plain text with
  | some (kind, quote, rest) =>
    (body? quote rest).map fun (body, behind) => (.string ⟨kind, body⟩, behind)
  | none =>
    match text with
    | [] => none
    | c :: _ =>
      if beginsWord c then
        (word? (text.takeWhile Numeral.isNameCharacter)).map fun token =>
          (token, text.dropWhile Numeral.isNameCharacter)
      else if Numeral.begins text then
        (Numeral.read? text).map fun (number, behind) => (.number number, behind)
      else (Mark.read? text).map fun (mark, behind) => (.mark mark, behind)

/-- The blank space in front of a line, measured with wide and with narrow tabulators. -/
structure Margin where
  wide : Nat
  narrow : Nat
deriving DecidableEq, Repr

/--
The margin of a line and what follows it. A line may be continued inside its
margin; the margin then is what stood in front of the first continuation, if
anything did. The end of the text cannot continue a line.
-/
def margin? (margin : Margin) (continued : Nat) : Text → Option (Margin × Text)
  | ' ' :: rest => margin? ⟨margin.wide + 1, margin.narrow + 1⟩ continued rest
  | '\t' :: rest => margin? ⟨(margin.wide / 8 + 1) * 8, margin.narrow + 1⟩ continued rest
  | '\x0c' :: rest => margin? ⟨0, 0⟩ continued rest
  | ['\\', '\n'] => none
  | '\\' :: '\n' :: rest =>
    margin? margin (if continued = 0 then margin.wide else continued) rest
  | '\\' :: _ => none
  | rest => some (if continued = 0 then margin else ⟨continued, continued⟩, rest)

def marginLimit : Nat := 100

def bracketLimit : Nat := 200

/-- The margins still open, innermost first, after those wider than a given one are closed. -/
def remainingMargins (margins : List Margin) (wide : Nat) : List Margin :=
  margins.dropWhile fun open_ => wide < open_.wide

def indentation? (margins : List Margin) (margin : Margin) : Option (List Token × List Margin) :=
  match margins with
  | [] => none
  | current :: _ =>
    if margin.wide = current.wide then
      if margin.narrow = current.narrow then some ([], margins) else none
    else if current.wide < margin.wide then
      if marginLimit ≤ margins.length ∨ margin.narrow ≤ current.narrow then none
      else some ([.indent], margin :: margins)
    else
      let remaining := remainingMargins margins margin.wide
      if remaining.head? = some margin then
        some (List.replicate (margins.length - remaining.length) .dedent, remaining)
      else none

def brackets? (brackets : List Mark) (mark : Mark) : Option (List Mark) :=
  match mark.closing? with
  | some closing => if bracketLimit ≤ brackets.length then none else some (closing :: brackets)
  | none =>
    if mark.isClosing then
      match brackets with
      | expected :: outer => if expected = mark then some outer else none
      | [] => none
    else some brackets

def isBlank (c : Char) : Bool := c = ' ' || c = '\t' || c = '\x0c'

/--
The tokens of a text. `margins` are the open margins, `brackets` the marks that
have to close what is open, and `fresh` says that a line begins.
-/
def scan (fuel : Nat) (margins : List Margin) (brackets : List Mark) (fresh : Bool) (text : Text) :
    Option (List Token) :=
  match fuel with
  | 0 => none
  | fuel + 1 =>
    if fresh then
      match margin? ⟨0, 0⟩ 0 text with
      | none => none
      | some (_, []) => some (List.replicate (margins.length - 1) .dedent)
      | some (_, '\n' :: rest) => scan fuel margins brackets true rest
      | some (_, '#' :: rest) =>
        scan fuel margins brackets true ((rest.dropWhile (· != '\n')).drop 1)
      | some (margin, rest) => do
        let (changes, margins) ← indentation? margins margin
        let tokens ← scan fuel margins brackets false rest
        some (changes ++ tokens)
    else
      match text with
      | [] => none
      | '\n' :: rest =>
        if brackets.isEmpty then (scan fuel margins brackets true rest).map (.newline :: ·)
        else scan fuel margins brackets false rest
      | '#' :: rest => scan fuel margins brackets false (rest.dropWhile (· != '\n'))
      | ['\\', '\n'] => none
      | '\\' :: '\n' :: rest => scan fuel margins brackets false rest
      | c :: rest =>
        if isBlank c then scan fuel margins brackets false rest
        else do
          let (token, rest) ← token? (c :: rest)
          let brackets ← match token with
            | .mark mark => brackets? brackets mark
            | _ => some brackets
          (scan fuel margins brackets false rest).map (token :: ·)

def tokens? (text : Text) : Option (List Token) :=
  let lines := withLineFeeds text
  scan (2 * lines.length + 2) [⟨0, 0⟩] [] true lines

end ControllerClient.Source.Lexer
