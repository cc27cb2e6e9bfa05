import ControllerClient.Http.Host

/-!
Addresses of requests. An address is cut into its components, each component
is written with the characters that are safe in it, and a relative address
continues a base address.
-/

namespace ControllerClient.Http

structure Address where
  scheme : Text
  userinfo : Text
  host : Text
  port : Option Int
  path : Text
  query : Option Text
  fragment : Option Text
deriving DecidableEq, Repr

namespace Address

def percentOctet (octet : UInt8) : Text :=
  '%' :: (Text.hexDigits 2 octet.toNat).map fun c =>
    if 'a' ≤ c ∧ c ≤ 'f' then Char.ofNat (c.toNat - 32) else c

def isSafeBut (unsafeOnes : String) (c : Char) : Bool :=
  ' ' ≤ c && c ≤ '~' && !unsafeOnes.toList.contains c

def quotedCharacter (isSafe : Char → Bool) (c : Char) : Except Failure Text :=
  if isSafe c then .ok [c] else (Text.utf8 [c]).map (·.flatMap percentOctet)

def quotedBy (isSafe : Char → Bool) (component : Text) : Except Failure Text :=
  (component.mapM (quotedCharacter isSafe)).map List.flatten

def isQuerySafe : Char → Bool := isSafeBut " \"#<>"

def isFragmentSafe : Char → Bool := isSafeBut " \"<>\x60"

def isPathSafe : Char → Bool := isSafeBut " \"#<>?\x60\x7b\x7d"

def isUserinfoSafe : Char → Bool := isSafeBut " \"#<>?\x60\x7b\x7d/;=@[\\]^|"

def isHostSafe (c : Char) : Bool :=
  Text.isLetter c || Text.isDigit c || "-._~!$&'()*+,;=\"\x60\x7b\x7d%|\\".toList.contains c

def malformed (message : Text) : Failure := .request (.malformedAddress message)

def isSchemeCharacter (c : Char) : Bool :=
  Text.isLetter c || Text.isDigit c || c = '+' || c = '.' || c = '-'

def cutScheme (text : Text) : Text × Text :=
  match text with
  | ':' :: rest => ([], rest)
  | c :: _ =>
    if Text.isLetter c then
      match text.dropWhile isSchemeCharacter with
      | ':' :: rest => (text.takeWhile isSchemeCharacter, rest)
      | _ => ([], text)
    else ([], text)
  | [] => ([], [])

def cutAuthority : Text → Text × Text
  | '/' :: '/' :: rest =>
    let ends (c : Char) : Bool := c = '/' || c = '?' || c = '#'
    (rest.takeWhile fun c => !ends c, rest.dropWhile fun c => !ends c)
  | text => ([], text)

/-- The host at the beginning of an authority without user, and the port behind it. -/
def cutHost (text : Text) : Text × Text :=
  let plain :=
    (text.takeWhile fun c => c != ':' && c != '@', text.dropWhile fun c => c != ':' && c != '@')
  let (host, rest) := match text with
    | '[' :: _ =>
      match Text.cutLast? ']' text with
      | some (before, behind) => (before ++ [']'], behind)
      | none => plain
    | _ => plain
  match rest with
  | ':' :: port => (host, port)
  | port => (host, port)

def defaultPort? (scheme : Text) : Option Int :=
  [("ftp", 21), ("http", 80), ("https", 443), ("ws", 80), ("wss", 443)].findSome?
    fun (name, port) => if name.toList = scheme then some port else none

/-- The port that a text gives, unless it is the one that the scheme has anyway. -/
def portOf (text scheme : Text) : Except Failure (Option Int) :=
  if text.isEmpty then .ok none
  else
    let (negative, digits) := match text with
      | '-' :: digits => (true, digits)
      | '+' :: digits => (false, digits)
      | digits => (false, digits)
    if digits.isEmpty || digits.any (fun c => !Text.isDigit c) then
      .error (malformed ("Invalid port: ".toList ++ Text.quoted text))
    else
      let port : Int := Text.digitsValue digits
      let port := if negative then -port else port
      .ok (if defaultPort? scheme = some port then none else some port)

def hostOf (host : Text) : Except Failure Text :=
  if Host.looksNumeric host then
    if Host.isFourOctets host then .ok host
    else .error (malformed ("Invalid IPv4 address: ".toList ++ Text.quoted host))
  else if host.head? = some '[' && host.getLast? = some ']' then
    let inside := host.tail.dropLast
    if Host.isSixteenOctets inside then .ok inside
    else .error (malformed ("Invalid IPv6 address: ".toList ++ Text.quoted host))
  else if host.all fun c => c.toNat < 128 then quotedBy isHostSafe (host.map Char.toLower)
  else match Host.writtenLabels? host with
    | some written => .ok written
    | none => .error (malformed ("Invalid IDNA hostname: ".toList ++ Text.quoted host))

/--
One component of a path further: a dot stands still, two dots go back unless nothing is
there.
-/
def stepPath (walked : List Text) (component : Text) : List Text :=
  if component = ['.'] then walked
  else if component = ['.', '.'] then
    if walked = [] ∨ walked = [[]] then walked else walked.tail
  else component :: walked

def withoutDots (path : Text) : Text :=
  Text.joined ['/'] ((Text.pieces '/' path).foldl stepPath []).reverse

/-- Why a path cannot stand behind its scheme and authority. -/
def pathFault? (path : Text) (hasScheme hasAuthority : Bool) : Option Text :=
  if hasAuthority && !path.isEmpty && path.head? != some '/' then
    some "For absolute URLs, path must be empty or begin with '/'".toList
  else if hasScheme || hasAuthority then none
  else match path with
    | '/' :: '/' :: _ => some "Relative URLs cannot have a path starting with '//'".toList
    | ':' :: _ => some "Relative URLs cannot have a path starting with ':'".toList
    | _ => none

def assemble (scheme authority path : Text) (query fragment : Option Text) :
    Except Failure Address := do
  let (userinfo, place) := match Text.cutLast? '@' authority with
    | some (userinfo, place) => (userinfo, place)
    | none => ([], authority)
  let (hostText, portText) := cutHost place
  let userinfo ← quotedBy isUserinfoSafe userinfo
  let host ← hostOf hostText
  let port ← portOf portText scheme
  let hasScheme := !scheme.isEmpty
  let hasAuthority := !userinfo.isEmpty || !host.isEmpty || port.isSome
  match pathFault? path hasScheme hasAuthority with
  | some message => .error (malformed message)
  | none =>
    let path := if hasScheme || hasAuthority then withoutDots path else path
    .ok { scheme := scheme.map Char.toLower
          userinfo, host, port
          path := ← quotedBy isPathSafe path
          query := ← query.mapM (quotedBy isQuerySafe)
          fragment := ← fragment.mapM (quotedBy isFragmentSafe) }

def namesType (address : Text) : Bool :=
  let beginning := address.takeWhile fun c => c != '/' && c != ':'
  !beginning.isEmpty && (address.drop beginning.length).head? = some ':'

def checkType (address : Text) : Except Failure Unit :=
  let (place, shown) := match Text.cutLast? '#' address with
    | some (place, fragment) => (place, if fragment.isEmpty then place else address)
    | none => (address, address)
  if namesType place then .ok () else .error (.shape (.schemeMissing shown))

def lengthLimit : Nat := 65536

def isControl (c : Char) : Bool := c < ' ' || c = '\x7f'

def cutAt (separator : Char) (text : Text) : Text × Option Text :=
  match text.dropWhile (· != separator) with
  | [] => (text, none)
  | _ :: behind => (text.takeWhile (· != separator), some behind)

def ofText (text : Text) (parameters : Option (Option Text)) : Except Failure Address := do
  if lengthLimit < text.length then .error (malformed "URL too long".toList)
  else match text.find? isControl with
    | some c =>
      let position := (text.takeWhile fun d => !isControl d).length
      .error (malformed ("Invalid non-printable ASCII character in URL, ".toList
        ++ Text.quoted [c] ++ " at position ".toList ++ Text.ofNat position ++ ['.']))
    | none =>
      let (scheme, rest) := cutScheme text
      let (authority, rest) := cutAuthority rest
      let (rest, fragment) := cutAt '#' rest
      let (path, query) := cutAt '?' rest
      assemble scheme authority path (parameters.getD query) fragment

def netloc (address : Address) : Text :=
  (if address.host.contains ':' then '[' :: address.host ++ [']'] else address.host)
    ++ match address.port with
      | some port => ':' :: Text.ofInt port
      | none => []

def authority (address : Address) : Text :=
  (if address.userinfo.isEmpty then [] else address.userinfo ++ ['@']) ++ address.netloc

def text (address : Address) : Text :=
  (if address.scheme.isEmpty then [] else address.scheme ++ [':'])
    ++ (if address.authority.isEmpty then [] else '/' :: '/' :: address.authority)
    ++ address.path
    ++ (match address.query with
      | some query => '?' :: query
      | none => [])
    ++ match address.fragment with
      | some fragment => '#' :: fragment
      | none => []

def target (address : Address) : Text :=
  (if address.path.isEmpty then ['/'] else address.path)
    ++ match address.query with
      | some query => '?' :: query
      | none => []

def withTarget (address : Address) (target : Text) : Except Failure Address :=
  let (path, query) := cutAt '?' target
  assemble address.scheme address.authority path query address.fragment

def withQuery (address : Address) (query : Option Text) : Except Failure Address :=
  assemble address.scheme address.authority address.path query address.fragment

def isAbsolute (address : Address) : Bool := !address.scheme.isEmpty && !address.host.isEmpty

def asBase (address : Address) : Except Failure Address :=
  if address.target.getLast? = some '/' then .ok address
  else address.withTarget (address.target ++ ['/'])

def continuing (base address : Address) : Except Failure Address :=
  if address.isAbsolute then .ok address
  else base.withTarget (base.target ++ address.target.dropWhile (· = '/'))

end Address

end ControllerClient.Http
