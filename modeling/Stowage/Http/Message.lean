import Stowage.Http.Body
import Stowage.Http.Url

/-!
Requests and the answers to them.

The names of headers are compared without regard to case; a header that is given several times reads
as its values joined by commas.
-/

namespace Stowage.Http

/-- Headers in the order in which they are sent. -/
abbrev Headers := List (String × String)

namespace Headers

/-- The form in which names are compared. -/
def plain (name : String) : String := String.ofList (name.toList.map Char.toLower)

/-- The value of a header. -/
def get? (headers : Headers) (name : String) : Option String :=
  match (headers.filter fun h => plain h.1 == plain name).map Prod.snd with
  | [] => none
  | values => some (Text.join ", " values)

/-- Headers with those of `more` in the place of all that bear their names. -/
def override (headers more : Headers) : Headers :=
  (headers.filter fun h => !(more.any fun o => plain o.1 == plain h.1)) ++ more

/-- A header that counts only when none of its name is there. -/
def setDefault (headers : Headers) (name value : String) : Headers :=
  if (headers.get? name).isSome then headers else headers ++ [(name, value)]

/-- Each header once, its name in lower case. -/
def joined (headers : Headers) : List (String × String) :=
  ((headers.map fun h => plain h.1).eraseDups).filterMap fun name =>
    (headers.get? name).map (name, ·)

end Headers

/-- A request: the connection that carries it and how long it may take, what is asked for, and a
document. -/
structure Request where
  connection : Nat
  timeout : Double
  method : String
  url : Url
  headers : Headers
  body : Option Json
  deriving Repr, Inhabited

/-- The header that carries trace identifiers. -/
def traceHeader : String := "X-Trace-Id"

/-- The trace identifier of a request. -/
def Request.trace? (request : Request) : Option String := request.headers.get? traceHeader

/-- What the body of a request is said to be. -/
def Request.contentType? (request : Request) : Option String := request.headers.get? "Content-Type"

/-- A response. -/
structure Response where
  status : Int
  headers : Headers := []
  body : List Nat := []
  deriving Repr, Inhabited

/-- What becomes of a request. -/
inductive Answer where
  | response (response : Response)
  /-- The transport fails; the kind of the failure and its words. -/
  | unanswered (kind message : String)
  /-- The URL turns out to be none. -/
  | badUrl (message : String)
  deriving Repr, Inhabited

namespace Response

/-- The answer when there is nothing to tell. -/
def empty : Response := { status := 204 }

/-- Whether the status stands for an error. -/
def isError (r : Response) : Bool := 400 ≤ r.status && r.status ≤ 599

/-- Whether the status sends on to another URL. -/
def isRedirect (r : Response) : Bool := [301, 302, 303, 307, 308].contains r.status

/-- Headers as they are reported, with the length of a body that is not empty. -/
def allHeaders (r : Response) : Headers :=
  if r.body.isEmpty then r.headers
  else Headers.setDefault r.headers "Content-Length" (Decimal.naturalText r.body.length)

/-- The body as text. -/
def text (r : Response) : Except Failure String :=
  Body.text (Headers.get? r.headers "Content-Type") r.body

/-- The body as reports of failures show it: nothing when it cannot be read. -/
def shownText (r : Response) : String := r.text.toOption.getD ""

/-- The body as a document; null when it is none. -/
def document (r : Response) : Json :=
  match Body.json r.body with
  | .ok j => j
  | .error _ => .null

/-- The failure of a request that was answered with an error status. It may be worth another try
when the other side is at fault or overloaded. -/
def statusFailure (r : Response) (method url : String) : HttpFailure where
  message := "HTTP " ++ Decimal.integerText r.status ++ " for " ++ method ++ " " ++ url
  method := method
  url := url
  retryable := 500 ≤ r.status || r.status = 429
  fault := .status r.status r.shownText r.document r.allHeaders.joined

end Response

end Stowage.Http
