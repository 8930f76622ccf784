import Stowage.Failure.Remote
import Stowage.Http.Client
import Stowage.Validation.Model

/-!
Storage calls: requests whose failures are those of a named operation.

Whatever goes wrong with the request or the answer becomes a failure of a storage call, with the
operation in its text. An answer that does not fit is one too.
-/

namespace Stowage.Http.Storage

variable {σ : Type}

/-- Failed requests as failures of an operation; all other failures as they are. -/
def explain (operation : String) : Failure → Failure
  | .http failure => failure.toStorage operation
  | f => f

/-- The document that answers a request of an operation. -/
def call (net : Slot σ Network) (client : Client) (operation : String) (ask : Ask) : Flow σ Json :=
  Flow.ofStep fun s =>
    let (outcome, after) := (client.askJson net ask).runFrom s
    (outcome.mapError (explain operation), after)

/-- The failure of an operation whose answer does not fit. `side` names who answered. -/
def invalidResponse (side operation reason : String) : Failure :=
  let message := operation ++ " failed: invalid " ++ side ++ " response: " ++ reason
  .storage message operation (.dependency message ErrorDetail.invalidResponse false)

/-- The instance of a model that a document describes. -/
def decode (α : Type) [Model α] (side operation : String) (j : Json) : Except Failure α :=
  match (Model.check j.toValue : Checked α) with
  | .fits a => .ok a
  | .faulty issues =>
    .error (invalidResponse side operation (Issue.report (Model.title α) issues))

/-- The place of a container. -/
def containerPath (containerId : Int) (rest : String) : Except Failure String :=
  if Decimal.isOverlong containerId then .error .overlongInteger
  else .ok ("/containers/" ++ Decimal.integerText containerId ++ rest)

end Stowage.Http.Storage
