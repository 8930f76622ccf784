import Stowage.Failure.Basic

/-!
Failed requests as failures of storage calls.

The other side may say what went wrong in an envelope: an object under the key `error` with a
message. Then its words count; else the kind of the failure and the status do.
-/

namespace Stowage.HttpFailure

/-- The member of an object. -/
def member? (key : String) : Json → Option Json
  | .object members => members.lookup key
  | _ => none

/-- The envelope in a document: its members, if it has a message. -/
def envelope? (body : Json) : Option (List (String × Json)) :=
  match member? "error" body with
  | some (.object members) =>
    match members.lookup "message" with
    | some message => if message.toValue.isTrue then some members else none
    | none => none
  | _ => none

/-- A member of an envelope as text, when there is one that counts as true. -/
def wordOf? (members : List (String × Json)) (key : String) : Option String :=
  match members.lookup key with
  | some j => if j.toValue.isTrue then some j.toValue.display else none
  | none => none

/-- The detail that an envelope gives. -/
def envelopeDetail (members : List (String × Json)) (metadata : Labels) : ErrorDetail where
  code := (wordOf? members "code").getD ErrorDetail.dependencyFailure
  message := (wordOf? members "message").getD ""
  category := match members.lookup "category" with
    | some j => ErrorCategory.parse j.toValue.display
    | none => .dependency
  retryable := match members.lookup "retryable" with
    | some j => j.toValue.isTrue
    | none => false
  metadata := metadata

/-- Whether an envelope holds an integer that is too long to be written where text is made of it. -/
def isOverlong (members : List (String × Json)) : Bool :=
  ["code", "message", "category"].any fun key =>
    match members.lookup key with
    | some j => j.isOverlong
    | none => false

/-- What a failed request is reported as. -/
def detail (failure : HttpFailure) : ErrorDetail :=
  let metadata := Labels.ofList [("method", failure.method), ("url", failure.url)]
  match failure.fault with
  | .status code _ body _ =>
    match envelope? body with
    | some members => envelopeDetail members metadata
    | none =>
      let metadata := metadata.insert "status_code" (Decimal.integerText code)
      if code = 404 then .notFound failure.message ErrorDetail.notFoundCode metadata
      else .dependency failure.message ErrorDetail.dependencyFailure failure.retryable metadata
  | .body .. => .dependency failure.message ErrorDetail.invalidResponse false metadata
  | .request _ => .dependency failure.message ErrorDetail.dependencyUnavailable true metadata
  | .unspecified =>
    .dependency failure.message ErrorDetail.dependencyFailure failure.retryable metadata

/-- Whether the report of a failed request cannot be written. -/
def isUnwritable (failure : HttpFailure) : Bool :=
  match failure.fault with
  | .status _ _ body _ => ((envelope? body).map isOverlong).getD false
  | _ => false

/-- A failed request as the failure of a storage call. -/
def toStorage (failure : HttpFailure) (operation : String) : Failure :=
  if failure.isUnwritable then .overlongInteger
  else
    let detail := failure.detail
    .storage (operation ++ " failed: " ++ detail.message) operation detail

end Stowage.HttpFailure
