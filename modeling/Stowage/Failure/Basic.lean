import Stowage.Failure.Detail
import Stowage.Failure.Fault
import Stowage.Json.Basic
import Stowage.Validation.Issue
import Stowage.Value.Text

/-!
Failures: every way in which an operation of this program ends without a result.

A failure is the cause; its wording is `Failure.text` and its kind word `Failure.kind`.
`Failure.normalized` gives the error detail in which a failure is reported: failures of storage
calls and of preconditions carry theirs, all others are mapped by kind. A platform failure that was
given a number of too many digits has neither a text nor a detail.

`Failure.words`, `Failure.brief` and `Failure.detail` are the same for failures that are known to
have a text. They are what is told beside the work itself, in log records and in completion events,
where the failures of clients that are closed and of methods that are observed are taken to have one.
-/

namespace Stowage

/-- Which precondition of an operation does not hold. -/
inductive Precondition where
  | unnamed
  | illegalPipelineState
  | missingPipelineName
  deriving DecidableEq, Repr

namespace Precondition

def code : Precondition → String
  | unnamed => ErrorDetail.internalError
  | illegalPipelineState => ErrorDetail.illegalPipelineState
  | missingPipelineName => ErrorDetail.missingPipelineName

def kind : Precondition → String
  | unnamed => "PreconditionError"
  | illegalPipelineState => "IllegalPipelineStateError"
  | missingPipelineName => "MissingPipelineNameError"

end Precondition

/-- How a request over the network failed. -/
inductive HttpFault where
  /-- No more is known. -/
  | unspecified
  /-- The request was not answered; the kind of the transport failure. -/
  | request (cause : String)
  /-- The answer has an error status. Its body is given as text and, if it is one, as a JSON
  document. -/
  | status (code : Int) (body : String) (json : Json) (headers : List (String × String))
  /-- The answer has a body that is no JSON document; the kind of the reader's failure. -/
  | body (code : Int) (body : String) (cause : String)
  deriving Repr

/-- A failed request. -/
structure HttpFailure where
  message : String
  method : String
  url : String
  retryable : Bool
  fault : HttpFault
  deriving Repr

/-- Why an operation ended without a result. -/
inductive Failure where
  /-- A call to the placement service or to a datanode failed or could not be made. -/
  | storage (message operation : String) (detail : ErrorDetail)
  /-- The capacity of containers is not configured. -/
  | sizeUnknown (message : String)
  | precondition (which : Precondition) (message : String)
  | http (failure : HttpFailure)
  /-- A value does not fit the model of this name. -/
  | invalid (model : String) (issues : List Issue)
  /-- A text is no JSON document: the complaint, the text and the place in it, which is counted from
  the end when it is negative. -/
  | badJson (complaint document : String) (position : Int)
  | badUrl (message : String)
  /-- A value inside an instance of a model has no form in JSON; the name of its type. -/
  | unserializable (type : String)
  /-- A text is no YAML document, or not one that is understood. -/
  | badYaml
  /-- A platform failure and what it was given to tell, if anything. -/
  | fault (kind : Fault) (argument : Option Value)
  deriving Repr

namespace Failure

/-- A value that is not acceptable, in the words of the rule that refuses it. -/
def badValue (message : String) : Failure := .fault .valueError (some (.text message))

/-- A value of a kind that does not go with the operation. -/
def badType (message : String) : Failure := .fault .typeError (some (.text message))

/-- An integer with too many digits was to be written. -/
def overlongInteger : Failure :=
  badValue ("Exceeds the limit (4300 digits) for integer string conversion; " ++
    "use sys.set_int_max_str_digits() to increase the limit")

/-- An integer literal has this many digits, too many to be read. -/
def overlongLiteral (digits : Nat) : Failure :=
  badValue ("Exceeds the limit (4300 digits) for integer string conversion: value has " ++
    Decimal.naturalText digits ++
    " digits; use sys.set_int_max_str_digits() to increase the limit")

/-- Going down from mapping to mapping comes to no end. -/
def endless : Failure :=
  .fault .recursionError (some (.text "maximum recursion depth exceeded in comparison"))

/-- Where a position lies in a text: its line, from one, and its column. The column is the distance
to the last line break before the position, or else to the place before the text, also when the
position itself is counted from the end of the text. -/
def lineAndColumn (document : String) (position : Int) : Nat × Int :=
  let cs := document.toList
  let before := cs.take (if position < 0 then (cs.length + position).toNat else position.toNat)
  let lastLine := (before.reverse.takeWhile (· != '\n')).length
  let start : Int := before.length - lastLine
  (before.count '\n' + 1, position - (start - 1))

/-- Whether a failure has no text: it was given a number of too many digits. -/
def isOverlong : Failure → Bool
  | fault _ (some argument) => argument.isOverlong
  | _ => false

/-- The words of a failure. -/
def words : Failure → String
  | storage message _ _ => message
  | sizeUnknown message => message
  | precondition _ message => message
  | http failure => failure.message
  | invalid model issues => Issue.report model issues
  | badJson complaint document position =>
    let (line, column) := lineAndColumn document position
    complaint ++ ": line " ++ Decimal.naturalText line ++ " column " ++
      Decimal.integerText column ++ " (char " ++ Decimal.integerText position ++ ")"
  | badUrl message => message
  | unserializable type => "Unable to serialize unknown type: <class '" ++ type ++ "'>"
  | badYaml => ""
  | fault _ none => ""
  | fault .keyError (some argument) => argument.literal
  | fault _ (some argument) => argument.display

/-- The words of a failure that has a text. -/
def text (failure : Failure) : Except Failure String :=
  if failure.isOverlong then .error .overlongInteger else .ok failure.words

/-- The kind of a failure, as reports name it. -/
def kind : Failure → String
  | storage .. => "StorageIOError"
  | sizeUnknown _ => "ContainerSizeUnknownError"
  | precondition which _ => which.kind
  | http failure => match failure.fault with
    | .unspecified => "HttpClientError"
    | .request _ => "HttpRequestError"
    | .status .. => "HttpStatusError"
    | .body .. => "HttpJsonDecodeError"
  | invalid .. => "ValidationError"
  | badJson .. => "JSONDecodeError"
  | badUrl _ => "InvalidURL"
  | unserializable _ => "PydanticSerializationError"
  | badYaml => "YAMLError"
  | fault kind _ => kind.name

/-- The component that a kind of failure belongs to, with the dots that lead to it; platform
failures belong to none. -/
def origin : Failure → String
  | storage .. | sizeUnknown _ | precondition .. => "packages.stowage_shared.errors.exceptions."
  | http _ => "packages.stowage_shared.http.errors."
  | invalid .. | unserializable _ => "pydantic_core._pydantic_core."
  | badJson .. => "json.decoder."
  | badUrl _ => "httpx."
  | badYaml => "yaml.error."
  | fault .. => ""

/-- Kind and words, as completion events carry them. -/
def brief (failure : Failure) : String := failure.kind ++ ": " ++ failure.words

/-- Whether a failure is a case of a kind of platform failures. -/
def isA (failure : Failure) (ancestor : Fault) : Bool :=
  match failure with
  | storage .. | sizeUnknown _ => Fault.osError.isA ancestor
  | precondition .. => Fault.runtimeError.isA ancestor
  | invalid .. | badJson .. | unserializable _ => Fault.valueError.isA ancestor
  | http _ | badUrl _ | badYaml => Fault.failure.isA ancestor
  | fault kind _ => kind.isA ancestor

/-- Kind and words in one line, as a log record carries them. That there is no text is said. When
there are no words they are left out; only a failure to read program text says so. -/
def summary (failure : Failure) : String :=
  let name := failure.origin ++ failure.kind
  if failure.isOverlong then name ++ ": <exception str() failed>"
  else if failure.words ≠ "" then name ++ ": " ++ failure.words
  else if failure.isA .syntaxError then name ++ ": <no detail available>"
  else name

/-- A failure of a storage call. -/
def isStorage : Failure → Bool
  | storage .. | sizeUnknown _ => true
  | _ => false

/-- A precondition that does not hold. -/
def isPrecondition : Failure → Bool
  | precondition .. => true
  | _ => false

/-- An interruption of the program rather than a failure of the operation. Interruptions pass by
everything that handles failures. -/
def isInterrupt (failure : Failure) : Bool := !failure.isA .failure

/-- Text, or other words when there is none. -/
def orElse (s other : String) : String := if s = "" then other else s

/-- The error detail that the kind and the words of a failure make. -/
def detail (failure : Failure) : ErrorDetail :=
  let metadata := Labels.ofList [("exception_type", failure.kind)]
  match failure with
  | storage _ _ detail => detail
  | sizeUnknown message => .dependency message ErrorDetail.containerSizeUnknown false
  | precondition which message => .precondition message which.code
  | _ =>
    if failure.isA .valueError then
      .validation failure.words ErrorDetail.invalidArgument metadata
    else if failure.isA .keyError then .notFound failure.words ErrorDetail.notFoundCode metadata
    else if failure.isA .timeoutError then
      .dependency (orElse failure.words "dependency timeout") ErrorDetail.dependencyTimeout true
        metadata
    else if failure.isA .connectionError then
      .dependency (orElse failure.words "dependency unavailable")
        ErrorDetail.dependencyUnavailable true metadata
    else
      .internal (orElse failure.words "unexpected exception") ErrorDetail.unexpectedException
        metadata

/-- The error detail in which a failure is reported. -/
def normalized (failure : Failure) : Except Failure ErrorDetail :=
  if failure.isOverlong then .error .overlongInteger else .ok failure.detail

/-- A failed storage call whose detail says only that a dependency failed. -/
def plainStorage (message operation : String) : Failure :=
  .storage message operation (.dependency message)

/-- The operation that a failed storage call belongs to. -/
def operation : Failure → String
  | storage _ operation _ => operation
  | sizeUnknown _ => "get_container_size"
  | _ => ""

end Failure

end Stowage
