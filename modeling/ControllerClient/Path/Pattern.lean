import ControllerClient.Failure
import ControllerClient.Path

/-!
Patterns for file names and for paths. In a component `*` stands for any run of
characters, `?` for one character and brackets for one character out of a set;
a component `**` stands for any number of directories.
-/

namespace ControllerClient.Pattern

/-- Characters between brackets: single ones and inclusive ranges. -/
structure CharacterSet where
  negated : Bool
  single : Text
  ranges : List (Char × Char)
deriving DecidableEq, Repr

inductive Element where
  | run
  | anyone
  | exactly (c : Char)
  | oneOf (characters : CharacterSet)
deriving DecidableEq, Repr

namespace CharacterSet

def contains (characters : CharacterSet) (c : Char) : Bool :=
  let isThere := characters.single.contains c
    || characters.ranges.any fun (first, last) => first ≤ c && c ≤ last
  isThere != characters.negated

/--
What stands between brackets cut into its chunks at the hyphens that may be
ranges: a hyphen counts from the second character on, and after one hyphen the
next two characters are no hyphens of ranges. `wait` counts the characters to
pass over and `chunk` is the current chunk, last character first.
-/
def chunks (wait : Nat) (chunk : Text) : Text → List Text
  | [] => [chunk.reverse]
  | c :: rest =>
    match wait with
    | wait + 1 => chunks wait (c :: chunk) rest
    | 0 => if c = '-' then chunk.reverse :: chunks 2 [] rest else chunks 0 (c :: chunk) rest

def withFinalHyphen : List Text → List Text
  | [chunk, []] => [chunk ++ ['-']]
  | chunk :: later => chunk :: withFinalHyphen later
  | [] => []

/-- Chunks without the ranges that hold nothing, looked at from the last to the first. -/
def withoutEmptyRanges : List Text → List Text
  | [] => []
  | chunk :: later =>
    match withoutEmptyRanges later with
    | [] => [chunk]
    | next :: more =>
      match chunk.getLast?, next.head? with
      | some first, some last =>
        if last < first then (chunk.dropLast ++ next.tail) :: more else chunk :: next :: more
      | _, _ => chunk :: next :: more

def ofChunks (negated : Bool) : List Text → CharacterSet
  | [] => ⟨negated, [], []⟩
  | [chunk] => ⟨negated, chunk, []⟩
  | chunk :: next :: more =>
    let later := ofChunks negated (next :: more)
    match chunk.getLast?, next.head? with
    | some first, some last =>
      { later with single := chunk ++ later.single, ranges := (first, last) :: later.ranges }
    | _, _ => { later with single := chunk ++ later.single }

def ofText : Text → CharacterSet
  | '!' :: rest => ofChunks true (withoutEmptyRanges (withFinalHyphen (chunks 1 [] rest)))
  | text => ofChunks false (withoutEmptyRanges (withFinalHyphen (chunks 1 [] text)))

end CharacterSet

/--
What stands before the closing bracket and what follows it; a bracket right at the beginning
closes nothing.
-/
def bracketed? (text : Text) : Option (Text × Text) :=
  let (opening, rest) := match text with
    | '!' :: ']' :: rest => (['!', ']'], rest)
    | '!' :: rest => (['!'], rest)
    | ']' :: rest => ([']'], rest)
    | rest => ([], rest)
  match rest.dropWhile (· != ']') with
  | [] => none
  | _ :: behind => some (opening ++ rest.takeWhile (· != ']'), behind)

/-- The elements of a pattern; a bracket that is not closed stands for itself. -/
def elementsFrom (fuel : Nat) (pattern : Text) : List Element :=
  match fuel, pattern with
  | 0, _ | _, [] => []
  | fuel + 1, '*' :: rest => .run :: elementsFrom fuel rest
  | fuel + 1, '?' :: rest => .anyone :: elementsFrom fuel rest
  | fuel + 1, '[' :: rest =>
    match bracketed? rest with
    | some (inside, behind) => .oneOf (.ofText inside) :: elementsFrom fuel behind
    | none => .exactly '[' :: elementsFrom fuel rest
  | fuel + 1, c :: rest => .exactly c :: elementsFrom fuel rest

def elements (pattern : Text) : List Element := elementsFrom pattern.length pattern

def endings : Text → List Text
  | [] => [[]]
  | c :: rest => (c :: rest) :: endings rest

def describes : List Element → Text → Bool
  | [], text => text.isEmpty
  | .run :: later, text => (endings text).any fun rest => describes later rest
  | .anyone :: later, text => match text with
    | [] => false
    | _ :: rest => describes later rest
  | .exactly c :: later, text => match text with
    | [] => false
    | d :: rest => c == d && describes later rest
  | .oneOf characters :: later, text => match text with
    | [] => false
    | d :: rest => characters.contains d && describes later rest

inductive Component where
  | precisely (name : Text)
  | matching (pattern : List Element)
  | anyDepth
deriving DecidableEq, Repr

def hasDoubledAsterisk : Text → Bool
  | '*' :: '*' :: _ => true
  | _ :: rest => hasDoubledAsterisk rest
  | [] => false

def Component.ofText (text : Text) : Except Failure Component :=
  if text = "**".toList then .ok .anyDepth
  else if hasDoubledAsterisk text then .error (.shape .partialRecursiveWildcard)
  else if text.any (fun c => c = '*' || c = '?' || c = '[') then .ok (.matching (elements text))
  else .ok (.precisely text)

def componentsOf (pattern : Text) : Except Failure (List Component) :=
  let path := Path.ofText pattern
  if path.rooted then .error .unsupportedPattern
  else path.parts.mapM Component.ofText

end ControllerClient.Pattern
