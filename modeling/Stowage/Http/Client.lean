import Stowage.Http.ContentEncoding
import Stowage.Http.Network
import Stowage.Http.Query
import Stowage.Http.Redirect

/-!
Clients: requests that are made out, sent, and whose failures are told apart.

A request fails when it is not answered, when the answer has an error status, or when a document is
expected and the body is none. What is wrong with the request itself is found out before anything
is sent.
-/

namespace Stowage.Http

variable {σ : Type}

/-- What carries the requests of a client. -/
inductive Carrier where
  | connection (number : Nat)
  /-- A carrier that fails, in this way, before a request is made out. -/
  | broken (kind message : String)
  deriving DecidableEq, Repr

/-- A client: its carrier, the URL that relative ones are appended to, the time that a request may
take, the headers of every request, and whether closing the client closes the carrier. -/
structure Client where
  carrier : Carrier
  base : Url := {}
  timeout : Double
  headers : Headers := []
  owner : Bool := true
  deriving Repr

/-- What is asked of a client. -/
structure Ask where
  method : String
  url : String
  trace : Option String := none
  checkStatus : Bool := true
  document : Value := .null
  query : Value := .null
  headers : Value := .null
  deriving Repr

namespace Client

/-- A client over a new connection. Nothing is opened when the URL is none. -/
def connect (net : Slot σ Network) (baseUrl : String) (timeout : Double) (headers : Headers) :
    Flow σ Client := do
  let base ← Flow.ofExcept ((Url.parse baseUrl).bind Url.asBase)
  let number ← Network.connect net
  pure { carrier := .connection number, base, timeout, headers }

/-- The URL that relative ones are appended to, as text. -/
def baseText (client : Client) : String := client.base.text

/-- Close a client. -/
def close (net : Slot σ Network) (client : Client) : Flow σ Unit :=
  match client.carrier, client.owner with
  | .connection number, true => Network.disconnect net number
  | _, _ => pure ()

/-! ## Making a request out -/

/-- A character that headers cannot hold, and how many of them follow one another. -/
def foreignRun? (cs : List Char) : Option (Nat × Char × Nat) :=
  let before := cs.takeWhile fun c => c.toNat < 0x80
  match cs.drop before.length with
  | [] => none
  | c :: r => some (before.length, c, 1 + (r.takeWhile fun c => 0x80 ≤ c.toNat).length)

/-- A character as an escape. -/
def escaped (c : Char) : String :=
  let n := c.toNat
  String.ofList (if n < 0x100 then '\\' :: 'x' :: Text.hexDigits 2 n
    else if n < 0x10000 then '\\' :: 'u' :: Text.hexDigits 4 n
    else '\\' :: 'U' :: Text.hexDigits 8 n)

/-- Text that headers can hold. -/
def headerText (s : String) : Except Failure String :=
  match foreignRun? s.toList with
  | none => .ok s
  | some (start, c, count) =>
    let position := if count = 1 then
        " '" ++ escaped c ++ "' in position " ++ Decimal.naturalText start
      else "s in position " ++ Decimal.naturalText start ++ "-" ++
        Decimal.naturalText (start + count - 1)
    .error (.fault .unicodeEncodeError (some (.text
      ("'ascii' codec can't encode character" ++ position ++ ": ordinal not in range(128)"))))

/-- A header out of values. -/
def header (entry : Value × Value) : Except Failure (String × String) := do
  let name ← match entry.1.text? with
    | some s => headerText s
    | none => .error (.fault .attributeError (some (.text
        ("'" ++ entry.1.kindName ++ "' object has no attribute 'encode'"))))
  match entry.2.text? with
  | some s => .ok (name, ← headerText s)
  | none => .error (.badType ("Header value must be str or bytes, not <class '" ++
      entry.2.origin ++ entry.2.kindName ++ "'>"))

/-- Headers out of any value: a mapping, or pairs one after another. -/
def headersOf : Value → Except Failure Headers
  | .null => .ok []
  | .mapping es => es.mapM header
  | v => match v.parts? with
    | none => .error v.notIterable
    | some parts => parts.mapM fun part => do header (← part.pair)

/-- The headers that are asked for. With a trace identifier in its place they are made a mapping
first, and then whatever counts as false stands for none. -/
def givenHeaders (ask : Ask) : Except Failure Headers :=
  match ask.trace with
  | none => headersOf ask.headers
  | some trace => do
    let es ← if ask.headers.isTrue then ask.headers.entries else .ok []
    (es.put (.text traceHeader) (.text trace)).mapM header

/-- A URL with the query that is asked for. What counts as false and a query without names take the
query away; null leaves it. -/
def withQuery (url : Url) : Value → Except Failure Url
  | .null => .ok url
  | v =>
    if v.isTrue then do
      let query ← Query.ofValue v
      url.withQuery (if query.isEmpty then none else some query.text)
    else url.withQuery none

/-- The document of a request; null is none. -/
def bodyOf : Value → Except Failure (Option Json)
  | .null => .ok none
  | v => v.document.map some

/-- The request that a client makes of what it is asked. -/
def request (client : Client) (number : Nat) (ask : Ask) : Except Failure Request := do
  let url ← client.base.resolve ask.url
  let headers := client.headers.override (← givenHeaders ask)
  let url ← withQuery url ask.query
  let body ← bodyOf ask.document
  .ok {
    connection := number
    timeout := client.timeout
    method := Text.upper ask.method
    url
    headers := if body.isSome then headers.setDefault "Content-Type" "application/json" else headers
    body }

/-! ## Sending -/

/-- The failure of a request that was not answered. -/
def unanswered (method url kind message : String) : Failure :=
  .http {
    message := "HTTP request failed for " ++ method ++ " " ++ url ++ ": " ++ message
    method
    url
    retryable := true
    fault := .request kind }

/-- Where a response to a request sends on to. It is found out, though nothing is sent there. -/
def follow (request : Request) (location : String) : Except Failure Url :=
  match Url.parse location with
  | .error f => .error (unanswered request.method request.url.text "RemoteProtocolError"
      ("Invalid URL in location header: " ++ f.words ++ "."))
  | .ok url => request.url.onward url

/-- The failure that follows from a response, whatever its status is for: the URL of the request
names no protocol, or where the response sends on to is no URL. -/
def aftermath (request : Request) (response : Response) : Except Failure Unit :=
  let text := request.url.text
  if !request.url.namesProtocol then
    let shown := if text.endsWith "#" then (text.dropEnd 1).toString else text
    .error (.badValue ("unknown url type: " ++ Text.quoted shown))
  else if response.isRedirect then
    match Headers.get? response.headers "Location" with
    | some location => (follow request location).map fun _ => ()
    | none => .ok ()
  else .ok ()

/-- A response with its body unpacked. One whose body cannot be is none. -/
def unpacked (request : Request) (response : Response) : Except Failure Response :=
  match response.unpacked with
  | .ok unpacked => .ok unpacked
  | .error fault =>
    .error (unanswered request.method request.url.text "DecodingError" fault.message)

/-- Ask for a response. It comes with the request that it answers. Its body is read when it has been
found out where it sends on to. -/
def exchange (net : Slot σ Network) (client : Client) (ask : Ask) :
    Flow σ (Request × Response) := do
  match client.carrier with
  | .broken kind message => throw (unanswered (Text.upper ask.method) ask.url kind message)
  | .connection number =>
    let request ← Flow.ofExcept (client.request number ask)
    match ← Network.send net request with
    | .unanswered kind message => throw (unanswered request.method request.url.text kind message)
    | .badUrl message => throw (.badUrl message)
    | .response packed => do
      Flow.ofExcept (aftermath request packed)
      let response ← Flow.ofExcept (unpacked request packed)
      if ask.checkStatus && response.isError then
        throw (.http (response.statusFailure request.method request.url.text))
      else pure (request, response)

/-- Ask for a response. -/
def ask (net : Slot σ Network) (client : Client) (ask : Ask) : Flow σ Response := do
  let (_, response) ← exchange net client ask
  pure response

/-- The document of a response; an empty body is null. -/
def documentOf (request : Request) (response : Response) : Except Failure Json :=
  if response.body.isEmpty then .ok .null
  else match Body.json response.body with
    | .ok j => .ok j
    | .error fault => .error (.http {
        message := "Invalid JSON response for " ++ request.method ++ " " ++ request.url.text
        method := request.method
        url := request.url.text
        retryable := false
        fault := .body response.status response.shownText fault.kind })

/-- Ask for a document. -/
def askJson (net : Slot σ Network) (client : Client) (ask : Ask) : Flow σ Json := do
  let (request, response) ← exchange net client ask
  Flow.ofExcept (documentOf request response)

end Client

end Stowage.Http
