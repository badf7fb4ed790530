import TelemetryRelay.Http.Host
import TelemetryRelay.Http.Target

/-! # Addresses

    Addresses come from settings and are brought into one form before they are
    used: scheme and host in lower case, no standard port, a path that starts
    with a slash, and octets that may not stand in an address percent-encoded.
    An address of a scheme that is not known keeps more of what was written.
-/

namespace TelemetryRelay

namespace Http

/-- A login in an address, with both parts encoded. -/
structure Login where
  user : String
  password : String
deriving DecidableEq, Repr

/-- Whom an address names: a login, a host and a port. A standard port is left
    out. -/
structure Authority where
  login : Login
  host : String
  port : Option Nat
deriving DecidableEq, Repr

/-- An address. -/
structure Url where
  scheme : String
  authority : Option Authority
  path : String
  query : Option String
  fragment : Option String
deriving DecidableEq, Repr

/-- Why a text is not an address. -/
inductive UrlError where
  | noScheme
  | malformed
deriving DecidableEq, Repr

/-! ## Section 1: Characters -/

/-- Whether a character may stand in an address at all. -/
def isPlain (c : Char) : Bool := 32 < c.toNat && c.toNat < 127

/-- Whether a character may stand in a path that is not one of segments. -/
def isOpaqueChar (c : Char) : Bool := c = ' ' || isPlain c

/-- Whether a character may stand in a fragment. -/
def isFragmentChar (c : Char) : Bool :=
  isPlain c && !(['"', '<', '>', '\x60'].contains c)

/-- Whether a character may stand in a path. -/
def isPathChar (c : Char) : Bool :=
  isFragmentChar c && !(['#', '?', '\x7b', '\x7d'].contains c)

/-- Whether a character may stand in a login. -/
def isLoginChar (c : Char) : Bool :=
  isPathChar c && !("/:;=@[\\]^|".toList.contains c)

/-- Whether a character may stand in a query. -/
def isQueryChar (isKnown : Bool) (c : Char) : Bool :=
  isPlain c && !(['"', '<', '>', '#'].contains c) && !(isKnown && c = '\'')

/-- A value in a query, as forms encode it. -/
def formEncode (value : String) : String :=
  String.ofList (value.toList.flatMap fun c =>
    if c = ' ' then ['+']
    else percentEncode (fun c => c.isAlphanum || ['*', '-', '.', '_'].contains c) [c])

/-! ## Section 2: Paths -/

/-- Cuts characters at those that `isCut` accepts. -/
def cutAt (isCut : Char → Bool) (chars : List Char) : List (List Char) :=
  chars.foldr
    (fun c parts =>
      if isCut c then [] :: parts
      else match parts with
        | part :: rest => (c :: part) :: rest
        | [] => [[c]])
    [[]]

/-- Whether a segment stands for its own directory. -/
def isSingleDot (segment : List Char) : Bool :=
  segment == ['.'] || segment.map Char.toLower == ['%', '2', 'e']

/-- Whether a segment stands for the directory above. -/
def isDoubleDot (segment : List Char) : Bool :=
  [['.', '.'], ['.', '%', '2', 'e'], ['%', '2', 'e', '.'],
    ['%', '2', 'e', '%', '2', 'e']].contains (segment.map Char.toLower)

/-- Whether a segment names a drive, which nothing is above. -/
def isDrive : List Char → Bool
  | [letter, mark] => letter.isAlpha && (mark = ':' || mark = '|')
  | _ => false

/-- The segments passed, last first, without the last one unless it is a drive. -/
def leave : List (List Char) → List (List Char)
  | [] => []
  | last :: before => if isDrive last then last :: before else before

/-- Resolves segments that stand for directories; `before` holds those passed,
    last first. -/
def resolveSegments : List (List Char) → List (List Char) → List (List Char)
  | [], before => before.reverse
  | segment :: rest, before =>
    if isDoubleDot segment then
      resolveSegments rest (if rest.isEmpty then [] :: leave before else leave before)
    else if isSingleDot segment then
      resolveSegments rest (if rest.isEmpty then [] :: before else before)
    else resolveSegments rest (percentEncode isPathChar segment :: before)

/-- Whether a character ends a segment. -/
def isSlash (isKnown : Bool) (c : Char) : Bool := c = '/' || (isKnown && c = '\\')

/-- The path of the characters after its first slash. -/
def pathOf (isKnown : Bool) (chars : List Char) : List Char :=
  (resolveSegments (cutAt (isSlash isKnown) chars) []).flatMap fun segment => '/' :: segment

/-- A path with one slash at its start. -/
def withOneSlash (path : List Char) : List Char := '/' :: path.dropWhile fun c => c = '/'

/-- The characters after a first slash, if there is one. -/
def afterSlash (chars : List Char) : List Char :=
  match chars with
  | c :: rest => if isSlash true c then rest else chars
  | [] => []

/-! ## Section 3: Logins, hosts and ports -/

/-- The port that is standard for a scheme, for those that name a host. -/
def standardPort? : String → Option Nat
  | "http" | "ws" => some 80
  | "https" | "wss" => some 443
  | "ftp" => some 21
  | _ => none

/-- Reads a login. -/
def Login.parse (chars : List Char) : Login :=
  let user := chars.takeWhile fun c => c != ':'
  let encoded := fun part => String.ofList (percentEncode isLoginChar part)
  ⟨encoded user, encoded ((chars.drop user.length).drop 1)⟩

/-- No login. -/
def Login.none : Login := ⟨"", ""⟩

/-- The length of the host at the start of an authority: up to a colon that is
    not between brackets. -/
def hostLength : Bool → List Char → Nat
  | _, [] => 0
  | isInside, c :: rest =>
    if c = ':' ∧ !isInside then 0
    else hostLength (if c = '[' then true else if c = ']' then false else isInside) rest + 1

/-- The number of decimal digits. -/
def decimal? (chars : List Char) : Option Nat :=
  if chars.all Char.isDigit then
    some (chars.foldl (fun n c => n * 10 + (c.toNat - 48)) 0)
  else Option.none

/-- Reads a port, which is left out if it is the standard one. -/
def port? (standard : Option Nat) (chars : List Char) : Option (Option Nat) :=
  (decimal? chars).bind fun n =>
    if 65535 < n then Option.none
    else if chars.isEmpty || some n = standard then some Option.none
    else some (some n)

/-- Reads the host and the port after a login. -/
def hostAndPort? (standard : Option Nat) (chars : List Char) :
    Option (String × Option Nat) := do
  let host := chars.take (hostLength false chars)
  let port := chars.drop host.length
  let name ← if standard.isSome then knownHost? host else otherHost? host
  if name = "" ∧ (standard.isSome ∨ !port.isEmpty) then Option.none
  else return (name, ← port? standard (port.drop 1))

/-- Reads whom an address names. `endsThere` says that nothing follows. -/
def Authority.parse? (standard : Option Nat) (endsThere : Bool) (chars : List Char) :
    Option Authority := do
  let after := (chars.reverse.takeWhile fun c => c != '@').reverse
  let before := chars.take (chars.length - after.length - 1)
  let login := Login.parse before
  let (host, port) ← hostAndPort? standard after
  if after.length < chars.length ∧ host = "" ∧
      (login ≠ Login.none ∨ (before.isEmpty ∧ !endsThere)) then Option.none
  else some ⟨login, host, port⟩

/-! ## Section 4: Reading addresses -/

/-- Whether a character may stand in a scheme. -/
def isSchemeChar (c : Char) : Bool := c.isAlphanum || ['+', '-', '.'].contains c

/-- A text without what an address may be wrapped in. -/
def unwrapped (text : String) : List Char :=
  let isEdge := fun (c : Char) => c.toNat ≤ 32
  let chars := ((text.toList.dropWhile isEdge).reverse.dropWhile isEdge).reverse
  chars.filter fun c => !(['\t', '\n', '\r'].contains c)

/-- Cuts characters at the end of a scheme, which comes in lower case. -/
def cutScheme (chars : List Char) : Option (String × List Char) :=
  let scheme := chars.takeWhile isSchemeChar
  match scheme, chars.drop scheme.length with
  | c :: _, ':' :: rest =>
    if c.isAlpha then some (String.ofList (scheme.map Char.toLower), rest) else none
  | _, _ => none

/-- Whom an address names, with its path. -/
abbrev Place := Option Authority × List Char

/-- Reads the place in an address that names a host and whose scheme is known. -/
def webPlace? (standard : Nat) (endsThere : Bool) (chars : List Char) : Option Place := do
  let chars := chars.dropWhile (isSlash true)
  let authority := chars.takeWhile fun c => !isSlash true c
  let path := chars.drop authority.length
  let named ← Authority.parse? (some standard) (endsThere && path.isEmpty) authority
  return (some named, pathOf true (afterSlash path))

/-- Reads the place in the address of a file. The host of this computer is left
    out. -/
def filePlace? (chars : List Char) : Option Place :=
  let place := fun (host : String) (path : List Char) =>
    ((some ⟨Login.none, host, Option.none⟩, withOneSlash path) : Place)
  match chars with
  | a :: b :: rest =>
    if isSlash true a ∧ isSlash true b then
      let host := rest.takeWhile fun c => !isSlash true c
      if isDrive host then some (place "" (pathOf true rest))
      else
        let path := pathOf true (afterSlash (rest.drop host.length))
        if host.isEmpty then some (place "" path)
        else (knownHost? host).map fun host => place (if host = "localhost" then "" else host) path
    else some (place "" (pathOf true (afterSlash chars)))
  | _ => some (place "" (pathOf true (afterSlash chars)))

/-- Reads the place in an address whose scheme is not known. -/
def otherPlace? (endsThere : Bool) (chars : List Char) : Option Place :=
  match chars with
  | '/' :: '/' :: rest => do
    let before := rest.takeWhile fun c => c != '/'
    let after := (before.reverse.takeWhile fun c => c != '@').reverse
    let beyond := (after.drop (hostLength false after)).dropWhile fun c => c != '\\'
    let authority := before.take (before.length - beyond.length)
    let path := rest.drop authority.length
    let named ← Authority.parse? Option.none (endsThere && path.isEmpty) authority
    return (some named, match path with
      | [] => []
      | '/' :: segments => pathOf false segments
      | segments => pathOf false segments)
  | '/' :: segments =>
    let path := pathOf false segments
    some (Option.none, if path.take 2 = ['/', '/'] then '/' :: '.' :: path else path)
  | _ => some (Option.none, percentEncode isOpaqueChar chars)

/-- Reads a text as an address. -/
def Url.parse (text : String) : Except UrlError Url :=
  match cutScheme (unwrapped text) with
  | none => .error .noScheme
  | some (scheme, rest) =>
    let body := rest.takeWhile fun c => c != '#' && c != '?'
    let query := (rest.drop body.length).takeWhile fun c => c != '#'
    let fragment := rest.drop (body.length + query.length)
    let endsThere := body.length = rest.length
    let isFile := scheme = "file"
    let place := match standardPort? scheme with
      | some standard => webPlace? standard endsThere body
      | none => if isFile then filePlace? body else otherPlace? endsThere body
    let isKnown := isFile || (standardPort? scheme).isSome
    let encoded := fun isKept (part : List Char) =>
      if part.isEmpty then none
      else some (String.ofList (percentEncode isKept (part.drop 1)))
    match place with
    | none => .error .malformed
    | some (authority, path) =>
      .ok ⟨scheme, authority, String.ofList path, encoded (isQueryChar isKnown) query,
        encoded isFragmentChar fragment⟩

/-! ## Section 5: Writing addresses -/

/-- The text of a login with the sign that ends it. -/
def Login.text (login : Login) : String :=
  if login = Login.none then ""
  else login.user ++ (if login.password = "" then "" else ":" ++ login.password) ++ "@"

/-- The host with the port if it is not the standard one. -/
def Authority.place (authority : Authority) : String :=
  authority.host ++ (authority.port.map fun port => ":" ++ toString port).getD ""

namespace Url

/-- The host an address names. -/
def host (url : Url) : String := (url.authority.map Authority.host).getD ""

/-- Whether an address names a host. -/
def namesHost (url : Url) : Bool := url.host != ""

/-- Whether an address is one on the web. -/
def isWeb (url : Url) : Bool := url.scheme = "http" || url.scheme = "https"

/-- Whether what is sent to an address is kept secret. -/
def isSecure (url : Url) : Bool := url.scheme = "https"

/-- The text of an address as a request names it, without the fragment. -/
def requestText (url : Url) : String :=
  url.scheme ++ ":"
    ++ (url.authority.map fun authority =>
        "//" ++ authority.login.text ++ authority.place).getD ""
    ++ url.path ++ (url.query.map fun query => "?" ++ query).getD ""

/-- The text of an address. -/
def text (url : Url) : String :=
  url.requestText ++ (url.fragment.map fun fragment => "#" ++ fragment).getD ""

/-- The host with the port. -/
def endpoint (url : Url) : String :=
  url.host ++ ":"
    ++ toString (((url.authority.bind Authority.port).or (standardPort? url.scheme)).getD 0)

/-- Whether a login is understood: it is encoded text. -/
def hasLogin (login : Login) : Bool :=
  match decodedText? login.user.toList with
  | none => false
  | some user => user != "" || (login.password != "" && (decodedText? login.password.toList).isSome)

/-- An address without its login, if that is understood. -/
def withoutLogin (url : Url) : Url :=
  { url with authority := url.authority.map fun authority =>
      if hasLogin authority.login then { authority with login := Login.none } else authority }

/-! ## Section 6: Addresses beside others -/

/-- The directory of a path: what it holds up to its last slash. -/
def directory (path : String) : String :=
  String.ofList ((path.toList.reverse.dropWhile fun c => c != '/').reverse)

/-- The text of the address that characters without a scheme stand for beside another one.
    They replace its end: the fragment, the query, the last segment of the path, the whole
    path, or everything after the scheme. -/
def beside (url : Url) (chars : List Char) : String :=
  let text := String.ofList chars
  let after := fun path => { url with path := path, query := none }.requestText ++ text
  match chars with
  | [] => url.requestText
  | c :: rest =>
    if c = '#' then url.requestText ++ text
    else if c = '?' then after url.path
    else if !isSlash true c then after (directory url.path)
    else if rest.head?.any (isSlash true) then url.scheme ++ ":" ++ text
    else after ""

/-- Reads a text as an address beside one on the web. Even with the scheme of that one in
    front, a text that has no two slashes then goes on from there. -/
def join? (url : Url) (text : String) : Option Url :=
  let chars := unwrapped text
  match cutScheme chars with
  | none => (parse (url.beside chars)).toOption
  | some (scheme, rest) =>
    if scheme = url.scheme ∧ (rest.takeWhile (isSlash true)).length < 2 then
      (parse (url.beside rest)).toOption
    else (parse text).toOption

/-- The text of an address as others may see it, without its login and its fragment. -/
def publicText (url : Url) : String :=
  let bare := url.authority.map fun authority => { authority with login := Login.none }
  { url with authority := bare }.requestText

end Url

/-- The text of an address with one more value in its query. -/
def withQuery (text name value : String) : String :=
  text ++ "?" ++ formEncode name ++ "=" ++ formEncode value

end Http

end TelemetryRelay
