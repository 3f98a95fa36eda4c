import Isochrone.Http.Host
import Isochrone.Http.Path

/-!
# Web addresses

An absolute address in its normal form: scheme and host in lower case, a default port left
out, dot segments of the path resolved, and every character that an address cannot hold
percent-encoded. A text without a scheme, or with a host or port that cannot be, has none.
-/

namespace Isochrone.Http

open Text (percentEncode)

/-- The name and the secret under which a host is to be asked, percent-encoded. -/
structure Credentials where
  name : String
  secret : Option String
  deriving DecidableEq, Repr

/-- Which machine an address names, and how it is to be asked. -/
structure Authority where
  credentials : Option Credentials
  host : Host
  /-- The port, where it is not that of the scheme. -/
  port : Option Nat
  deriving DecidableEq, Repr

/-- An absolute address in normal form. -/
structure Address where
  scheme : String
  authority : Option Authority
  path : String
  query : Option String
  fragment : Option String
  deriving DecidableEq, Repr

/-- The text of credentials. -/
def Credentials.text (credentials : Credentials) : String :=
  credentials.name ++ credentials.secret.elim "" (":" ++ ·) ++ "@"

/-- Whether a client can take credentials out of an address: what they encode must be text,
and a secret that is not counts as absent. -/
def Credentials.areReadable (credentials : Credentials) : Bool :=
  let isText (s : String) : Bool :=
    (String.fromUTF8? (Text.percentDecode s.toList).toByteArray).isSome
  isText credentials.name && (credentials.name ≠ "" || (credentials.secret.map isText).getD false)

/-- The text of an authority. -/
def Authority.text (authority : Authority) : String :=
  authority.credentials.elim "" (·.text) ++ authority.host.text ++
    authority.port.elim "" (fun port => ":" ++ port.repr)

/-- An authority without credentials that a client can take out of it. -/
def Authority.anonymous (authority : Authority) : Authority :=
  { authority with credentials := authority.credentials.filter fun c => !c.areReadable }

namespace Address

/-- The address as it is asked and as reports show it. -/
def anonymous (a : Address) : Address := { a with authority := a.authority.map (·.anonymous) }

/-- What a request line names. -/
def target (a : Address) : String := a.path ++ a.query.elim "" ("?" ++ ·)

/-- The text of an address. -/
def text (a : Address) : String :=
  a.scheme ++ ":" ++ a.authority.elim "" ("//" ++ ·.text) ++ a.target ++
    a.fragment.elim "" ("#" ++ ·)

/-- The longest text of an address that can be asked, in bytes. -/
def maxLength : Nat := 65534

/-- Whether an HTTP client can send to the address: its host has a name of characters that a
request can hold, and its text is not too long. -/
def isSendable (a : Address) : Bool :=
  (a.scheme = "http" || a.scheme = "https") && a.text.utf8ByteSize ≤ maxLength &&
    (a.authority.map fun authority =>
      authority.host.text.toList.all fun c => !"\"`\x7b\x7d".toList.contains c).getD false

/-- A character that a fragment cannot hold. -/
def notInFragment (c : Char) : Bool := Host.isInvisible c || " \"<>`".toList.contains c

/-- A character that a path cannot hold. -/
def notInPath (c : Char) : Bool := notInFragment c || "#?\x7b\x7d".toList.contains c

/-- A character that a query cannot hold; on the web the apostrophe is one. -/
def notInQuery (web : Bool) (c : Char) : Bool :=
  Host.isInvisible c || " \"#<>".toList.contains c || (web && c = '\'')

/-- A character that credentials cannot hold. -/
def notInUser (c : Char) : Bool := notInPath c || "/:;=@[\\]^|".toList.contains c

/-- The text without control characters and blanks at its ends, and without line breaks. -/
def prepare (cs : List Char) : List Char :=
  let inner := ((cs.dropWhile (· ≤ ' ')).reverse.dropWhile (· ≤ ' ')).reverse
  inner.filter fun c => c ≠ '\t' && c ≠ '\n' && c ≠ '\r'

/-- The scheme in lower case, and what follows its colon. -/
def scheme? (cs : List Char) : Option (String × List Char) :=
  let isPart (c : Char) : Bool := c.isAlphanum || c = '+' || c = '-' || c = '.'
  match cs.takeWhile isPart, cs.dropWhile isPart with
  | first :: name, ':' :: rest =>
    if first.isAlpha then some (String.ofList ((first :: name).map Char.toLower), rest) else none
  | _, _ => none

/-- A text up to the first of some characters, and from it on. -/
def breakAt (marks : List Char) (cs : List Char) : List Char × List Char :=
  (cs.takeWhile fun c => !marks.contains c, cs.dropWhile fun c => !marks.contains c)

/-- The credentials of a text, and what follows their at sign, which is the last one. -/
def splitUser (cs : List Char) : Option Credentials × List Char :=
  let rest := (cs.reverse.takeWhile (· ≠ '@')).reverse
  let user := (cs.take (cs.length - rest.length)).dropLast
  let (name, secret) := Text.splitFirst ':' user
  let encoded (part : List Char) : String := String.ofList (percentEncode notInUser part)
  let credentials := ⟨encoded name, if secret.isEmpty then none else some (encoded secret)⟩
  (if name.isEmpty && secret.isEmpty then none else some credentials, rest)

/-- The host of a text up to the colon of a port, and the text from there on; colons between
brackets belong to the host. -/
def splitHost (bracketed : Bool) : List Char → List Char × List Char
  | [] => ([], [])
  | c :: rest =>
    if c = ':' && !bracketed then ([], c :: rest)
    else
      let inside := if c = '[' then true else if c = ']' then false else bracketed
      let (host, port) := splitHost inside rest
      (c :: host, port)

/-- A port, if it is written and not the default. -/
def port? (default : Option Nat) (digits : List Char) : Option (Option Nat) :=
  if digits.isEmpty then some none
  else if !digits.all Char.isDigit then none
  else
    let n := Nat.ofDigitChars 10 digits 0
    if 65535 < n then none else some (if default = some n then none else some n)

/-- The authority of an address that is not a file's, and the text that a backslash behind its
port leaves to the path. -/
def authority? (host? : List Char → Option Host) (default : Option Nat) (cs : List Char) :
    Option (Authority × List Char) := do
  let (credentials, rest) := splitUser cs
  let (name, port) := splitHost false rest
  let (digits, rest) := breakAt ['\\'] (port.drop 1)
  let host ← host? name
  if host = Host.absent && (credentials.isSome || !port.isEmpty) then none
  else return (⟨credentials, host, ← port? default digits⟩, rest)

/-- The query and the fragment of a text that begins with either. -/
def tail (web : Bool) (cs : List Char) : Option String × Option String :=
  let fragment : List Char → Option String
    | '#' :: rest => some (String.ofList (percentEncode notInFragment rest))
    | _ => none
  match cs with
  | '?' :: rest =>
    let (query, rest) := breakAt ['#'] rest
    (some (String.ofList (percentEncode (notInQuery web) query)), fragment rest)
  | cs => (none, fragment cs)

/-- The text of a path of segments. -/
def pathText (segments : List (List Char)) : String :=
  "/" ++ "/".intercalate (segments.map fun part => String.ofList (percentEncode notInPath part))

/-- A text without a slash at its beginning. -/
def withoutSlash (isSlash : Char → Bool) : List Char → List Char
  | [] => []
  | c :: rest => if isSlash c then rest else c :: rest

/-- The schemes of the web, whose addresses name a host, with their default ports. -/
def webSchemes : List (String × Nat) :=
  [("http", 80), ("https", 443), ("ws", 80), ("wss", 443), ("ftp", 21)]

/-- What parts slashes on the web and in file addresses. -/
def isWebSlash (c : Char) : Bool := c = '/' || c = '\\'

/-- The address on the web that follows a scheme; slashes before the authority do not count. -/
def ofWeb? (scheme : String) (port : Nat) (cs : List Char) : Option Address := do
  let (authority, rest) := breakAt ['/', '\\', '?', '#'] (cs.dropWhile isWebSlash)
  let (inner, rest) := breakAt ['?', '#'] rest
  let (query, fragment) := tail true rest
  let segments := Path.segments isWebSlash (withoutSlash isWebSlash inner)
  let (authority, _) ← authority? Host.ofWeb? (some port) authority
  return {
    scheme := scheme
    authority := some authority
    path := pathText (Path.resolve false [] segments)
    query := query
    fragment := fragment }

/-- The host of a file address and the text of its path, after two slashes. A drive in the
place of the host belongs to the path, and this machine needs no name. -/
def fileHost? (cs : List Char) : Option (Host × List Char) :=
  let (name, rest) := breakAt ['/', '\\', '?', '#'] cs
  if Path.isDrive name then some (Host.absent, cs)
  else if name.isEmpty then some (Host.absent, rest)
  else do
    let host ← Host.ofWeb? name
    if host = .name "localhost" then return (Host.absent, rest)
    else return (host, withoutSlash isWebSlash rest)

/-- The address of a file that follows its scheme. A drive at the root needs no host, and no
path begins with an empty segment. -/
def ofFile? (scheme : String) (cs : List Char) : Option Address := do
  let (host, rest) ← match cs with
    | a :: b :: rest =>
      if isWebSlash a && isWebSlash b then fileHost? rest
      else some (Host.absent, withoutSlash isWebSlash cs)
    | _ => some (Host.absent, withoutSlash isWebSlash cs)
  let (inner, rest) := breakAt ['?', '#'] rest
  let (query, fragment) := tail true rest
  let segments := Path.resolve true [] (Path.segments isWebSlash inner)
  let drive := (segments.head?.map Path.isDrive).getD false
  return {
    scheme := scheme
    authority := some ⟨none, if drive then Host.absent else host, none⟩
    path := pathText (segments.dropWhile (·.isEmpty))
    query := query
    fragment := fragment }

/-- The address of another kind that follows its scheme: with an authority after two slashes,
with a path after one, and otherwise a text that only its scheme understands. A path that
begins with an empty segment is kept from looking like an authority. -/
def ofOther? (scheme : String) (cs : List Char) : Option Address := do
  let isSlash (c : Char) : Bool := c = '/'
  let resolved (path : List Char) : String :=
    pathText (Path.resolve false [] (Path.segments isSlash path))
  let (inner, rest) := breakAt ['?', '#'] cs
  let (query, fragment) := tail false rest
  match inner with
  | '/' :: '/' :: inner =>
    let (authority, path) := breakAt ['/'] inner
    if authority = ['@'] && !(path.isEmpty && rest.isEmpty) then none
    else
      let (authority, left) ← authority? Host.ofPlain? none authority
      let path := left ++ path
      let path := if path.isEmpty then "" else resolved (withoutSlash isSlash path)
      return ⟨scheme, some authority, path, query, fragment⟩
  | '/' :: path =>
    let path := resolved path
    let guard := if path.toList.take 2 = ['/', '/'] then "/." else ""
    return ⟨scheme, none, guard ++ path, query, fragment⟩
  | inner =>
    let path := String.ofList (percentEncode Host.isInvisible inner)
    return ⟨scheme, none, path, query, fragment⟩

/-- The normal form of an absolute address. -/
def parse? (s : String) : Option Address := do
  let (scheme, rest) ← scheme? (prepare s.toList)
  if scheme = "file" then ofFile? scheme rest
  else match webSchemes.find? fun web => web.1 = scheme with
    | some (_, port) => ofWeb? scheme port rest
    | none => ofOther? scheme rest

end Address

end Isochrone.Http
