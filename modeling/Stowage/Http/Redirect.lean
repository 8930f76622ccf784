import Stowage.Http.Url

/-!
Redirects: where a response to a request sends on to.

A location without a host gets the host of the request, one that does not stand on its own is joined
with the URL of the request, and one without a fragment gets the fragment of the request
(`Url.onward`). Joining works on texts and takes them apart by rules of its own (`Reference.read`).
-/

namespace Stowage.Http

/-- The parts of a URL as joining sees them. A part that is not there is empty; parameters stand
behind a semicolon in the last segment of a path. -/
structure Reference where
  scheme : List Char := []
  authority : List Char := []
  path : List Char := []
  params : List Char := []
  query : List Char := []
  fragment : List Char := []
  deriving DecidableEq, Repr

namespace Reference

/-- The protocols that can be joined. -/
def joinable : List String := [
  "", "ftp", "http", "gopher", "nntp", "imap", "wais", "file", "https", "shttp", "mms", "prospero",
  "rtsp", "rtsps", "rtspu", "sftp", "svn", "svn+ssh", "ws", "wss"]

/-- The protocols whose paths have parameters. -/
def parametric : List String := [
  "", "ftp", "hdl", "prospero", "http", "imap", "https", "shttp", "rtsp", "rtsps", "rtspu", "sip",
  "sips", "mms", "sftp", "tel"]

/-! ## Taking apart and putting together -/

/-- A path without the parameters of its last segment, and these. -/
def cutParams (path : List Char) : List Char × List Char :=
  let back := path.reverse
  let (segment, params) := Text.cut ';' (back.takeWhile (· != '/')).reverse
  ((back.dropWhile (· != '/')).reverse ++ segment, params.getD [])

/-- The parts of a text. It has the given scheme when none stands in front. -/
def read (scheme cs : List Char) : Reference :=
  let (scheme, rest) := match Url.cutScheme cs with
    | ([], _) => (scheme, cs)
    | (word, rest) => (word.map Char.toLower, rest)
  let (authority, rest) := Url.cutAuthority rest
  let (rest, fragment) := Text.cut '#' rest
  let (path, query) := Text.cut '?' rest
  let (path, params) :=
    if parametric.contains (String.ofList scheme) then cutParams path else (path, [])
  { scheme, authority, path, params, query := query.getD [], fragment := fragment.getD [] }

/-- The parts as a text, for protocols that can be joined: these have an authority. -/
def text (r : Reference) : List Char :=
  let path := if r.params.isEmpty then r.path else r.path ++ ';' :: r.params
  let hierarchy :=
    if r.authority.isEmpty && r.scheme.isEmpty && path.take 2 != ['/', '/'] then path
    else
      let path := if path.isEmpty || path.head? == some '/' then path else '/' :: path
      '/' :: '/' :: r.authority ++ path
  (if r.scheme.isEmpty then [] else r.scheme ++ [':']) ++ hierarchy ++
    (if r.query.isEmpty then [] else '?' :: r.query) ++
    (if r.fragment.isEmpty then [] else '#' :: r.fragment)

/-! ## Joining -/

/-- Segments without those that stand for this place and for the place above; there is no place
above the topmost one. -/
def climb (done : List (List Char)) : List (List Char) → List (List Char)
  | [] => done.reverse
  | segment :: r =>
    if segment = ['.', '.'] then climb (done.drop 1) r
    else if segment = ['.'] then climb done r
    else climb (segment :: done) r

/-- Segments of which only the first and the last may be empty. -/
def squeeze : List (List Char) → List (List Char)
  | [] => []
  | first :: r => first :: (r.dropLast.filter (· != []) ++ r.getLast?.toList)

/-- A path beside another one: from the top, or in the place of the last segment of the other. -/
def besidePath (base path : List Char) : List Char :=
  let segments := Text.splitAt (· == '/') path
  let segments :=
    if path.head? == some '/' then segments
    else
      let places := Text.splitAt (· == '/') base
      squeeze ((if places.getLast? == some [] then places else places.dropLast) ++ segments)
  let resolved := climb [] segments
  let resolved :=
    if segments.getLast? == some ['.'] || segments.getLast? == some ['.', '.'] then resolved ++ [[]]
    else resolved
  let joined := ['/'].intercalate resolved
  if joined.isEmpty then ['/'] else joined

/-- The text of a reference beside a base. -/
def beside (base cs : List Char) : List Char :=
  if base.isEmpty then cs
  else if cs.isEmpty then base
  else
    let b := read [] base
    let r := read b.scheme cs
    if r.scheme != b.scheme || !joinable.contains (String.ofList r.scheme) then cs
    else if !r.authority.isEmpty then r.text
    else if r.path.isEmpty && r.params.isEmpty then
      let query := if r.query.isEmpty then b.query else r.query
      { r with authority := b.authority, path := b.path, params := b.params, query }.text
    else { r with authority := b.authority, path := besidePath b.path r.path }.text

end Reference

namespace Url

/-- The URL that another one means beside this one. -/
def join (base url : Url) : Except Failure Url :=
  parse (String.ofList (Reference.beside base.text.toList url.text.toList))

/-- A URL with another fragment. -/
def withFragment (url : Url) (fragment : List Char) : Except Failure Url := do
  let other ← { url with fragment := some (String.ofList fragment) }.rebuild url.path.toList
    (url.query.map String.toList)
  match fragment.find? isControl with
  | some c => .error (.badUrl ("Invalid non-printable ASCII character in URL " ++
      "fragment component, " ++ Text.quoted (String.singleton c) ++ " at position " ++
      Decimal.naturalText (fragment.takeWhile (· != c)).length ++ "."))
  | none => .ok other

/-- A location with a host: that of a URL if it has none. -/
def lendHost (url location : Url) : Except Failure Url :=
  if location.scheme != "" && location.host == "" then location.withHost url.host else .ok location

/-- A location that stands on its own: what it means beside a URL if it does not. -/
def lendPlace (url location : Url) : Except Failure Url :=
  if location.isAbsolute then .ok location else url.join location

/-- A location with a fragment: that of a URL if it has none. -/
def lendFragment (url location : Url) : Except Failure Url :=
  let fragment := url.fragment.getD ""
  if fragment != "" && location.fragment.getD "" == "" then
    location.withFragment (Percent.decoded fragment.toList)
  else .ok location

/-- Where a response to a request for a URL sends on to by a location. -/
def onward (url location : Url) : Except Failure Url := do
  let location ← url.lendHost location
  let location ← url.lendPlace location
  url.lendFragment location

end Url

end Stowage.Http
