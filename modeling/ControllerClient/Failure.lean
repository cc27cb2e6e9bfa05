import ControllerClient.Text.Utf8
import ControllerClient.Value

/-!
Everything that can go wrong, by cause, and the wording of each cause.
-/

namespace ControllerClient

inductive JsonProblem where
  | value | propertyName | colon | comma | extraData
  | controlCharacter | escape | unicodeEscape | unterminatedString | byteOrderMark
deriving DecidableEq, Repr

structure JsonFault where
  problem : JsonProblem
  line : Nat
  column : Nat
  offset : Nat
deriving DecidableEq, Repr

structure DecodeFault where
  encoding : Text
  octet : UInt8
  first : Nat
  last : Nat
  reason : Text
deriving DecidableEq, Repr

structure EncodeFault where
  encoding : Text
  characters : Text
  first : Nat
  reason : Text
deriving DecidableEq, Repr

/-- A value whose kind an operation does not accept. -/
inductive KindFault where
  | notSerializable (kind : Text)
  | keyNotSerializable (kind : Text)
  | operands (operator left right : Text)
  | concatenation (left right : Text)
  | octetConcatenation (right : Text)
  | notUnpackable (kind : Text)
  | notIterable (kind : Text)
  | elementNotSequence (position : Nat)
  | replaceArgument (kind : Text)
  | joinedItem (position : Nat) (kind : Text)
  | notText (kind : Text)
  | mixedPattern
  | requestContent (kind : Text)
  | requestArgument (name : Text)
  | repeatedArgument (name : Text)
  | repeatedContent
  | addressKind (kind shown : Text)
  | headerValue (kind : Text)
  | authorization (shown : Text)
  | notCallable (kind : Text)
  | keywordNotText
  | unhashable (kind : Text)
  | relativeImport (name : Text)
  | pathArgument (kind : Text)
deriving DecidableEq, Repr

/-- A value of an accepted kind whose shape or content does not fit. -/
inductive ShapeFault where
  | tooFewValues (got : Nat)
  | tooManyValues
  | elementLength (position length : Nat)
  | partialRecursiveWildcard
  /-- A whole number that is too long; its digits are counted where it is read. -/
  | digitLimit (digits : Option Nat)
  | emptyModuleName
  | nullInPath
  | nullInFileName
  | schemeMissing (address : Text)
deriving DecidableEq, Repr

inductive FileProblem where
  | missing | isDirectory | notDirectory | alreadyThere | linkLoop
deriving DecidableEq, Repr

inductive RequestProblem where
  | missingProtocol
  | unsupportedProtocol (scheme : Text)
  | malformedAddress (message : Text)
  | synchronousBody
deriving DecidableEq, Repr

inductive Failure where
  | configNotFound (directory : Text)
  | noControllerFound (file : Text)
  /-- A call of an endpoint whose path is not a plain template. -/
  | unsupportedRoute (url : Text)
  | unresolvableModule (name searchRoot : Text)
  | unknownVariant (variant : Value)
  | malformedSource
  /-- Source text whose reading goes down further than is provided for. -/
  | descendsTooFar
  /-- Source text, or a document, whose tree is higher than is provided for. -/
  | nestedTooDeeply
  | nullInSource
  | json (fault : JsonFault)
  | undecodable (fault : DecodeFault)
  | unencodable (fault : EncodeFault)
  | file (problem : FileProblem) (path : Text)
  /-- A path that cannot be made canonical, since a link leads back to itself. -/
  | circularLink (path : Text)
  | missingKey (key : Value)
  | kind (fault : KindFault)
  | shape (fault : ShapeFault)
  | noMember (kind member : Text)
  | noModuleMember (module member : Text)
  /-- A name that no finder knows; `parent` is given when it is a module without submodules. -/
  | noModule (name : Text) (parent : Option Text)
  | unsupportedPattern
  | request (problem : RequestProblem)
  | raised (failure : Raised)
deriving Repr

def JsonProblem.message : JsonProblem → Text
  | value => "Expecting value".toList
  | propertyName => "Expecting property name enclosed in double quotes".toList
  | colon => "Expecting ':' delimiter".toList
  | comma => "Expecting ',' delimiter".toList
  | extraData => "Extra data".toList
  | controlCharacter => "Invalid control character at".toList
  | escape => "Invalid \\escape".toList
  | unicodeEscape => "Invalid \\uXXXX escape".toList
  | unterminatedString => "Unterminated string starting at".toList
  | byteOrderMark => "Unexpected UTF-8 BOM (decode using utf-8-sig)".toList

def JsonFault.message (fault : JsonFault) : Text :=
  fault.problem.message ++ ": line ".toList ++ Text.ofNat fault.line ++ " column ".toList
    ++ Text.ofNat fault.column ++ " (char ".toList ++ Text.ofNat fault.offset ++ ")".toList

def DecodeFault.message (fault : DecodeFault) : Text :=
  "'".toList ++ fault.encoding ++ "' codec can't decode ".toList
    ++ (if fault.first = fault.last then
          "byte 0x".toList ++ Text.hexDigits 2 fault.octet.toNat ++ " in position ".toList
            ++ Text.ofNat fault.first
        else
          "bytes in position ".toList ++ Text.ofNat fault.first ++ "-".toList
            ++ Text.ofNat fault.last)
    ++ ": ".toList ++ fault.reason

private def singleQuoted (text : Text) : Text := "'".toList ++ text ++ "'".toList

def KindFault.message : KindFault → Text
  | notSerializable kind => "Object of type ".toList ++ kind ++ " is not JSON serializable".toList
  | keyNotSerializable kind =>
    "keys must be str, int, float, bool or None, not ".toList ++ kind
  | operands operator left right =>
    "unsupported operand type(s) for ".toList ++ operator ++ ": ".toList ++ singleQuoted left
      ++ " and ".toList ++ singleQuoted right
  | concatenation left right =>
    "can only concatenate ".toList ++ left ++ " (not \"".toList ++ right ++ "\") to ".toList ++ left
  | octetConcatenation right => "can't concat ".toList ++ right ++ " to bytes".toList
  | notUnpackable kind => "cannot unpack non-iterable ".toList ++ kind ++ " object".toList
  | notIterable kind => singleQuoted kind ++ " object is not iterable".toList
  | elementNotSequence position =>
    "cannot convert dictionary update sequence element #".toList ++ Text.ofNat position
      ++ " to a sequence".toList
  | replaceArgument kind => "replace() argument 1 must be str, not ".toList ++ kind
  | joinedItem position kind =>
    "sequence item ".toList ++ Text.ofNat position ++ ": expected str instance, ".toList ++ kind
      ++ " found".toList
  | notText kind => "expected string or bytes-like object, got ".toList ++ singleQuoted kind
  | mixedPattern => "cannot use a string pattern on a bytes-like object".toList
  | requestContent kind =>
    "Unexpected type for 'content', <class ".toList ++ singleQuoted kind ++ ">".toList
  | requestArgument name =>
    "AsyncClient.request() got an unexpected keyword argument ".toList ++ singleQuoted name
  | repeatedArgument name =>
    "AsyncClient.request() got multiple values for argument ".toList ++ singleQuoted name
  | repeatedContent =>
    "httpx._client.AsyncClient.request() got multiple values for keyword argument 'content'".toList
  | addressKind kind shown =>
    "Invalid type for url.  Expected str or httpx.URL, got <class ".toList ++ singleQuoted kind
      ++ ">: ".toList ++ shown
  | authorization shown => "Invalid \"auth\" argument: ".toList ++ shown
  | headerValue kind => "Header value must be str or bytes, not <class ".toList ++ singleQuoted kind
      ++ ">".toList
  | notCallable kind => singleQuoted kind ++ " object is not callable".toList
  | keywordNotText => "keywords must be strings".toList
  | unhashable kind => "unhashable type: ".toList ++ singleQuoted kind
  | relativeImport name =>
    "the 'package' argument is required to perform a relative import for ".toList
      ++ Text.quoted name
  | pathArgument kind =>
    "expected str, bytes or os.PathLike object, not ".toList ++ kind

def ShapeFault.message : ShapeFault → Text
  | tooFewValues got =>
    "not enough values to unpack (expected 2, got ".toList ++ Text.ofNat got ++ ")".toList
  | tooManyValues => "too many values to unpack (expected 2)".toList
  | elementLength position length =>
    "dictionary update sequence element #".toList ++ Text.ofNat position ++ " has length ".toList
      ++ Text.ofNat length ++ "; 2 is required".toList
  | partialRecursiveWildcard =>
    "Invalid pattern: '**' can only be an entire path component".toList
  | digitLimit digits =>
    "Exceeds the limit (".toList ++ Text.ofNat Text.digitLimit
      ++ " digits) for integer string conversion".toList
      ++ (match digits with
          | some digits => ": value has ".toList ++ Text.ofNat digits ++ " digits".toList
          | none => [])
      ++ "; use sys.set_int_max_str_digits() to increase the limit".toList
  | emptyModuleName => "Empty module name".toList
  | nullInPath => "embedded null byte".toList
  | nullInFileName => "embedded null character".toList
  | schemeMissing address => "unknown url type: ".toList ++ Text.quoted address

def FileProblem.message (path : Text) : FileProblem → Text
  | missing => "[Errno 2] No such file or directory: ".toList ++ Text.quoted path
  | alreadyThere => "[Errno 17] File exists: ".toList ++ Text.quoted path
  | notDirectory => "[Errno 20] Not a directory: ".toList ++ Text.quoted path
  | isDirectory => "[Errno 21] Is a directory: ".toList ++ Text.quoted path
  | linkLoop => "[Errno 40] Too many levels of symbolic links: ".toList ++ Text.quoted path

def RequestProblem.message : RequestProblem → Text
  | missingProtocol => "Request URL is missing an 'http://' or 'https://' protocol.".toList
  | unsupportedProtocol scheme =>
    "Request URL has an unsupported protocol '".toList ++ scheme ++ "://'.".toList
  | malformedAddress message => message
  | synchronousBody =>
    "Attempted to send an sync request with an AsyncClient instance.".toList

/--
A failure to find a key is worded by the key as it is shown; any other raised failure by its
message.
-/
def Raised.text (raised : Raised) : Text :=
  if raised.kind = .key then Text.quoted raised.message else raised.message

private def codeEscape (c : Char) : Text :=
  let n := Text.codeOf c
  singleQuoted ('\\' :: if n < 0x100 then 'x' :: Text.hexDigits 2 n
    else if n < 0x10000 then 'u' :: Text.hexDigits 4 n
    else 'U' :: Text.hexDigits 8 n)

def EncodeFault.message (fault : EncodeFault) : Text :=
  singleQuoted fault.encoding ++ " codec can't encode ".toList
    ++ (match fault.characters with
        | [c] =>
          "character ".toList ++ codeEscape c ++ " in position ".toList ++ Text.ofNat fault.first
        | characters =>
          "characters in position ".toList ++ Text.ofNat fault.first ++ "-".toList
            ++ Text.ofNat (fault.first + (characters.length - 1)))
    ++ ": ".toList ++ fault.reason

namespace Failure

/-- The wording of a failure; faults of source text have none. -/
def message? : Failure → Option Text
  | configNotFound directory =>
    some ("cannot find a valid config file from ".toList ++ Text.quoted directory)
  | noControllerFound path => some ("cannot find a valid controller in ".toList ++ path)
  | unsupportedRoute url =>
    some ("route ".toList ++ Text.quoted url
      ++ " contains a wildcard and cannot be requested".toList)
  | unresolvableModule name searchRoot =>
    some ("cannot resolve ".toList ++ Text.quoted name ++ " under ".toList ++ searchRoot)
  | unknownVariant variant => some ("unknown route variant ".toList ++ variant.shown)
  | malformedSource | descendsTooFar | nestedTooDeeply => none
  | nullInSource => some "source code string cannot contain null bytes".toList
  | json fault => some fault.message
  | undecodable fault => some fault.message
  | unencodable fault => some fault.message
  | file problem path => some (problem.message path)
  | circularLink path => some ("Symlink loop from ".toList ++ Text.quoted path)
  | missingKey key => some key.shown
  | kind fault => some fault.message
  | shape fault => some fault.message
  | noMember owner member =>
    some (singleQuoted owner ++ " object has no attribute ".toList ++ singleQuoted member)
  | noModuleMember module member =>
    some ("module ".toList ++ singleQuoted module ++ " has no attribute ".toList
      ++ singleQuoted member)
  | noModule name none => some ("No module named ".toList ++ Text.quoted name)
  | noModule name (some parent) =>
    some ("No module named ".toList ++ Text.quoted name ++ "; ".toList ++ Text.quoted parent
      ++ " is not a package".toList)
  | unsupportedPattern => some "Non-relative patterns are unsupported".toList
  | request problem => some problem.message
  | raised failure => some failure.text

def text (failure : Failure) : Text := failure.message?.getD []

/-- Whether a failure is handed to a hook for failures; only a cancellation is not. -/
def isHandled : Failure → Bool
  | raised ⟨.cancellation, _⟩ => false
  | _ => true

end Failure

def DecodeFault.ofUtf8 (fault : Utf8.Fault) : DecodeFault :=
  { encoding := "utf-8".toList
    octet := fault.octets.headD 0
    first := fault.position
    last := fault.position + (fault.octets.length - 1)
    reason := match fault.problem with
      | .invalidStart => "invalid start byte".toList
      | .invalidContinuation => "invalid continuation byte".toList
      | .unexpectedEnd => "unexpected end of data".toList }

end ControllerClient
