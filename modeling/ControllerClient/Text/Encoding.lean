import ControllerClient.Failure

/-!
Encodings that do not have every character. A text that one of them cannot
write fails with the first run of characters that it lacks.
-/

namespace ControllerClient.Text

def encodable (encoding reason : String) (has : Char → Bool) (text : Text) : Except Failure Text :=
  match text.dropWhile has with
  | [] => .ok text
  | rest => .error (.unencodable
      { encoding := encoding.toList
        characters := rest.takeWhile fun c => !has c
        first := text.length - rest.length
        reason := reason.toList })

def ascii : Text → Except Failure Text :=
  encodable "ascii" "ordinal not in range(128)" fun c => c.toNat < 128

def latin : Text → Except Failure Text :=
  encodable "latin-1" "ordinal not in range(256)" fun c => c.toNat < 256

def utf8 (text : Text) : Except Failure (List UInt8) :=
  (encodable "utf-8" "surrogates not allowed" (fun c => !isSurrogate c) text).map Utf8.encode

/-- Whether a character stands for an octet that is no character in the name of a file. -/
def isOctet (c : Char) : Bool := 0xdc80 ≤ codeOf c && codeOf c ≤ 0xdcff

/-- A text as the name of a file, in which some halves of surrogate pairs stand for octets. -/
def fileName : Text → Except Failure Text :=
  encodable "utf-8" "surrogates not allowed" fun c => !isSurrogate c || isOctet c

end ControllerClient.Text
