import ControllerClient.Json.Reader
import ControllerClient.Text.Wide

/-!
JSON documents as octets. The encoding shows itself: by a byte order mark, or by
where the zeros among the first four octets are.
-/

namespace ControllerClient.Json

def decodeUtf8 (octets : List UInt8) : Except Failure Text :=
  match Utf8.decodeWithSurrogates octets with
  | .ok text => .ok text
  | .error fault => .error (.undecodable (.ofUtf8 fault))

def decodeMarked? : List UInt8 → Option (Except Failure Text)
  | 0x00 :: 0x00 :: 0xfe :: 0xff :: rest => some (Wide.decode32 .big 4 rest)
  | 0xff :: 0xfe :: 0x00 :: 0x00 :: rest => some (Wide.decode32 .little 4 rest)
  | 0xfe :: 0xff :: rest => some (Wide.decode16 .big 2 rest)
  | 0xff :: 0xfe :: rest => some (Wide.decode16 .little 2 rest)
  | 0xef :: 0xbb :: 0xbf :: rest => some (decodeUtf8 rest)
  | _ => none

def decodeUnmarked (octets : List UInt8) : Except Failure Text :=
  match octets with
  | a :: b :: c :: d :: _ =>
    if a = 0 then
      if b = 0 then Wide.decode32 .big 0 octets else Wide.decode16 .big 0 octets
    else if b = 0 then
      if c = 0 ∧ d = 0 then Wide.decode32 .little 0 octets else Wide.decode16 .little 0 octets
    else decodeUtf8 octets
  | [a, b] =>
    if a = 0 then Wide.decode16 .big 0 octets
    else if b = 0 then Wide.decode16 .little 0 octets
    else decodeUtf8 octets
  | _ => decodeUtf8 octets

def decode (octets : List UInt8) : Except Failure Text :=
  match decodeMarked? octets with
  | some result => result
  | none => decodeUnmarked octets

def readOctets (octets : List UInt8) : Except Failure Value := do
  readDocument (← decode octets)

end ControllerClient.Json
