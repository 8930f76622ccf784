import Stowage.Http.Host

/-!
URLs in normal form.

`Url.parse` takes a text apart, checks its parts and codes what they cannot hold. `Url.ofParts` does
the same for parts that are given; building a URL anew from its own parts, with some exchanged, goes
through it too. `Url.resolve` appends a relative URL to a base.
-/

namespace Stowage.Http

/-- A URL. A path or a scheme that is not there is empty; so is a host. -/
structure Url where
  scheme : String := ""
  userInfo : String := ""
  host : String := ""
  port : Option Int := none
  path : String := ""
  query : Option String := none
  fragment : Option String := none
  deriving DecidableEq, Repr, Inhabited

namespace Url

/-! ## Taking apart -/

/-- The scheme at the front and the rest. -/
def cutScheme : List Char → List Char × List Char
  | ':' :: r => ([], r)
  | c :: r =>
    let (run, rest) := (c :: r).span fun c => c.isAlphanum || ['+', '.', '-'].contains c
    match c.isAlpha, rest with
    | true, ':' :: rest => (run, rest)
    | _, _ => ([], c :: r)
  | [] => ([], [])

/-- The authority at the front and the rest. -/
def cutAuthority : List Char → List Char × List Char
  | '/' :: '/' :: r => r.span fun c => c != '/' && c != '?' && c != '#'
  | r => ([], r)

/-- What follows a mark at the front, up to the end of the component. -/
def cutComponent (mark : Char) (inside : Char → Bool) : List Char →
    Option (List Char) × List Char
  | c :: r => if c = mark then let (part, rest) := r.span inside; (some part, rest)
    else (none, c :: r)
  | [] => (none, [])

/-- User, host and port of an authority; a port that is not given is empty. -/
def cutHost (authority : List Char) : List Char × List Char × List Char :=
  let (user, rest) :=
    if authority.contains '@' then
      let back := authority.reverse
      ((back.dropWhile (· != '@')).drop 1 |>.reverse, (back.takeWhile (· != '@')).reverse)
    else ([], authority)
  let (host, rest) :=
    if rest.head? == some '[' && rest.contains ']' then
      let back := rest.reverse
      ((back.dropWhile (· != ']')).reverse, (back.takeWhile (· != ']')).reverse)
    else rest.span (· != ':')
  (user, host, match rest with | ':' :: r => r | r => r)

/-! ## Parts in normal form -/

/-- The port that a scheme has when none is given. -/
def defaultPort? (scheme : String) : Option Int :=
  [("ftp", 21), ("http", 80), ("https", 443), ("ws", 80), ("wss", 443)].lookup scheme

/-- A port as a number, unless it is the one of the scheme anyhow. -/
def port? (scheme : String) (port : List Char) : Except Failure (Option Int) :=
  if port.isEmpty then .ok none
  else match Decimal.integer? (String.ofList port) with
    | none => .error (.badUrl ("Invalid port: " ++ Text.quoted (String.ofList port)))
    | some n => .ok (if defaultPort? scheme = some n then none else some n)

/-- Segments without those that stand for this place and for the place above. -/
def resolveSegments (done : List (List Char)) : List (List Char) → List (List Char)
  | [] => done.reverse
  | segment :: r =>
    if segment = ['.'] then resolveSegments done r
    else if segment = ['.', '.'] then
      resolveSegments (if done = [[]] then done else done.drop 1) r
    else resolveSegments (segment :: done) r

/-- A path without segments that stand for this place and for the place above. -/
def normalizePath (path : List Char) : List Char :=
  let segments := Text.splitAt (· == '/') path
  if segments.contains ['.'] || segments.contains ['.', '.'] then
    ['/'].intercalate (resolveSegments [] segments)
  else path

/-- Why a path does not go with the other parts. -/
def pathFault? (hasScheme hasAuthority : Bool) (path : List Char) : Option String :=
  if hasAuthority then
    if path.isEmpty || path.head? == some '/' then none
    else some "For absolute URLs, path must be empty or begin with '/'"
  else if hasScheme then none
  else if path.take 2 = ['/', '/'] then
    some "Relative URLs cannot have a path starting with '//'"
  else if path.head? == some ':' then
    some "Relative URLs cannot have a path starting with ':'"
  else none

/-- The URL of parts that may still need coding. -/
def ofParts (scheme authority path : List Char) (query fragment : Option (List Char)) :
    Except Failure Url := do
  let (user, host, port) := cutHost authority
  let coded (allowed : Char → Bool) (cs : List Char) : String :=
    String.ofList (Percent.encode allowed cs)
  let host ← Host.normalize host
  let port ← port? (String.ofList scheme) port
  let user := coded Percent.inUserInfo user
  let hasScheme := !scheme.isEmpty
  let hasAuthority := user != "" || !host.isEmpty || port.isSome
  match pathFault? hasScheme hasAuthority path with
  | some fault => .error (.badUrl fault)
  | none =>
    .ok {
      scheme := String.ofList (scheme.map Char.toLower)
      userInfo := user
      host := String.ofList host
      port := port
      path := coded Percent.inPath (if hasScheme || hasAuthority then normalizePath path else path)
      query := query.map (coded Percent.inQuery)
      fragment := fragment.map (coded Percent.inFragment) }

/-- The most characters that a URL may have. -/
def maxLength : Nat := 65536

/-- A control character of ASCII. -/
def isControl (c : Char) : Bool := c.toNat < 0x20 || c.toNat = 0x7f

/-- The URL that a text spells. -/
def parse (s : String) : Except Failure Url :=
  let cs := s.toList
  if maxLength < cs.length then .error (.badUrl "URL too long")
  else match cs.find? isControl with
    | some c => .error (.badUrl ("Invalid non-printable ASCII character in URL, " ++
        Text.quoted (String.singleton c) ++ " at position " ++
        Decimal.naturalText (cs.takeWhile (· != c)).length ++ "."))
    | none =>
      let (scheme, rest) := cutScheme cs
      let (authority, rest) := cutAuthority rest
      let (path, rest) := rest.span fun c => c != '?' && c != '#'
      let (query, rest) := cutComponent '?' (· != '#') rest
      let (fragment, _) := cutComponent '#' (fun _ => true) rest
      ofParts scheme authority path query fragment

/-! ## Text -/

/-- Host and port with the user in front, as they stand in a text. -/
def authority (url : Url) : String :=
  (if url.userInfo = "" then "" else url.userInfo ++ "@") ++
    (if url.host.toList.contains ':' then "[" ++ url.host ++ "]" else url.host) ++
    (match url.port with
    | some n => ":" ++ Decimal.integerText n
    | none => "")

/-- A URL as text. -/
def text (url : Url) : String :=
  (if url.scheme = "" then "" else url.scheme ++ ":") ++
    (if url.authority = "" then "" else "//" ++ url.authority) ++ url.path ++
    (match url.query with | some q => "?" ++ q | none => "") ++
    (match url.fragment with | some f => "#" ++ f | none => "")

/-- Path and query, as a request line has them. -/
def target (url : Url) : String :=
  (if url.path = "" then "/" else url.path) ++
    (match url.query with | some q => "?" ++ q | none => "")

/-- Whether the text of a URL begins with a word and a colon, and so says by which protocol the URL
is meant. The word may hold anything but slashes; what follows the last number sign is not looked
at. -/
def namesProtocol (url : Url) : Bool :=
  let cs := url.text.toList
  let cs := if cs.contains '#' then ((cs.reverse.dropWhile (· != '#')).drop 1).reverse else cs
  let word := cs.takeWhile fun c => c != '/' && c != ':'
  !word.isEmpty && cs[word.length]? == some ':'

/-! ## Building anew -/

/-- A URL with another path and query. No part may be longer than a whole URL may be. -/
def rebuild (url : Url) (path : List Char) (query : Option (List Char)) : Except Failure Url :=
  let authority := url.authority.toList
  let fragment := url.fragment.map String.toList
  let parts := [("authority", authority), ("path", path), ("query", query.getD []),
    ("fragment", fragment.getD [])]
  match parts.find? fun part => maxLength < part.2.length with
  | some (name, _) => .error (.badUrl ("URL component '" ++ name ++ "' too long"))
  | none => ofParts url.scheme.toList authority path query fragment

/-- A URL with another path and query, as a request line has them. -/
def withTarget (url : Url) (target : List Char) : Except Failure Url :=
  let (path, query) := Text.cut '?' target
  url.rebuild path query

/-- A URL with another query. -/
def withQuery (url : Url) (query : Option (List Char)) : Except Failure Url :=
  url.rebuild url.path.toList query

/-- A URL with another host; user and port stay. -/
def withHost (url : Url) (host : String) : Except Failure Url :=
  { url with host }.rebuild url.path.toList (url.query.map String.toList)

/-- A URL as the base of others: its target ends in a slash. -/
def asBase (url : Url) : Except Failure Url :=
  if url.target.toList.getLast? == some '/' then .ok url
  else url.withTarget (url.target ++ "/").toList

/-- Whether a URL stands on its own. -/
def isAbsolute (url : Url) : Bool := url.scheme != "" && url.host != ""

/-- The URL that a text means beside a base: itself when it stands on its own, else the target of
the base followed by its own. -/
def resolve (base : Url) (s : String) : Except Failure Url := do
  let url ← parse s
  if url.isAbsolute then .ok url
  else base.withTarget (base.target.toList ++ url.target.toList.dropWhile (· == '/'))

end Url

end Stowage.Http
