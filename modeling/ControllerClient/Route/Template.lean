import ControllerClient.Value.Written

/-!
Path templates. A template is cut into literal segments and parameters; filling
it writes literals as they are and looks every parameter up in the data, which
loses the entries that were used. A value that cannot be written fills nothing.
-/

namespace ControllerClient.Route

inductive Segment where
  | literal (text : Text)
  | parameter (name : Text)
deriving DecidableEq, Repr

/-- The name and what follows it, if a text begins with a parameter `/:name`. -/
def parameter? : Text → Option (Text × Text)
  | '/' :: ':' :: rest =>
    match rest.takeWhile (· != '/') with
    | [] => none
    | name => some (name, rest.dropWhile (· != '/'))
  | _ => none

theorem length_of_parameter? {text name rest : Text} (h : parameter? text = some (name, rest)) :
    rest.length < text.length := by
  unfold parameter? at h
  split at h
  · next behind =>
      have shorter := (List.dropWhile_sublist (l := behind) (fun c : Char => c != '/')).length_le
      split at h
      · cases h
      · cases h
        simp only [List.length_cons]
        omega
  · cases h

/--
The parts of a template: what stands between the parameters and the parameters
themselves, in turn. `pending` is what has been read since the last parameter,
last character first.
-/
def parts (pending : Text) (url : Text) : List Text :=
  match _found : parameter? url with
  | some (name, rest) => pending.reverse :: ('/' :: ':' :: name) :: parts [] rest
  | none =>
    match url with
    | [] => [pending.reverse]
    | c :: rest => parts (c :: pending) rest
termination_by url.length
decreasing_by
  · exact length_of_parameter? _found
  · simp

/--
A part that begins with `/:` is a slash and a parameter; any other part is a literal, and an
empty one nothing.
-/
def Segment.ofPart : Text → List Segment
  | '/' :: ':' :: name => [.literal ['/'], .parameter name]
  | [] => []
  | text => [.literal text]

def Segment.split (url : Text) : List Segment := (parts [] url).flatMap Segment.ofPart

def Segment.written : Segment → Text
  | literal text => text
  | parameter name => ':' :: name

def Segment.join (segments : List Segment) : Text := segments.flatMap Segment.written

theorem join_ofPart (part : Text) : Segment.join (Segment.ofPart part) = part := by
  unfold Segment.ofPart
  split <;> simp [Segment.join, Segment.written]

/-- The text of a value in an address: nothing and truth values as in JSON. -/
def textOf : Value → Text
  | .null => "null".toList
  | .bool b => if b then "true".toList else "false".toList
  | value => value.asText

def filling (value : Option Value) : Text :=
  match value with
  | none | some .null => []
  | some value => textOf value

def Segment.use : Segment → Entries → Except Failure (Text × Entries)
  | literal text, data => .ok (text, data)
  | parameter name, data =>
    let value := data.field? name
    (value.getD .null).limited (filling value, data.erase (.str name))

/-- Fills the segments, and gives the entries that no parameter used. -/
def fill : List Segment → Entries → Except Failure (Text × Entries)
  | [], data => .ok ([], data)
  | segment :: later, data => do
    let (text, rest) ← segment.use data
    let (url, rest) ← fill later rest
    .ok (text ++ url, rest)

end ControllerClient.Route
