import Stowage.Http.Client
import Stowage.Placement
import Stowage.Pool.Connector
import Stowage.Settings.Component

/-!
The clients that pools keep: requests over the network to the node that leads a pipeline, or the
clients of a rehearsal, which only write into the journal.
-/

namespace Stowage.Pool

variable {σ : Type}

/-- The failure when a pipeline has no node to speak to. -/
def noNodes : Failure := .badValue "pipeline has no datanodes"

/-- The URL of the node that requests to a pipeline go to. -/
def targetUrl (settings : DatanodeSettings) (pipeline : Pipeline) : Except Failure String :=
  match pipeline.target? with
  | none => .error noNodes
  | some target => .ok (Vocabulary.value settings.scheme ++ "://" ++ target)

/-- A pool of clients over the network. -/
def overNetwork (slot : Slot σ (Pool Http.Client)) (net : Slot σ Http.Network)
    (settings : DatanodeSettings) : Connector σ Http.Client where
  slot := slot
  openClient pipeline := do
    let url ← Flow.ofExcept (targetUrl settings pipeline)
    Http.Client.connect net url settings.timeoutSeconds Placement.jsonHeaders
  closeClient client := client.close net
  maxIdle := settings.maxIdleHandles

/-! ## Rehearsal -/

/-- A client of a rehearsal: its number in order of opening and the key of its pipeline. -/
structure TrialClient where
  number : Nat
  key : String
  deriving DecidableEq, Repr

/-- A rehearsal of a pool: its state, how many clients have been opened, and the pipeline keys for
which opening or closing a client fails. -/
structure Trial where
  pool : Pool TrialClient := {}
  opened : Nat := 0
  failOpen : List (String × Failure) := []
  failClose : List (String × Failure) := []

/-- The pool of a rehearsal. -/
def Trial.connector (maxIdle : Nat) : Connector Trial TrialClient where
  slot := ⟨Trial.pool, fun pool trial => { trial with pool }⟩
  openClient pipeline := do
    let trial ← Flow.ofStep fun s => (.ok s.world, s)
    match trial.failOpen.lookup pipeline.key with
    | some f => throw f
    | none =>
      Flow.ofStep fun s => (.ok (), { s with world := { trial with opened := trial.opened + 1 } })
      Flow.record (.clientOpened trial.opened pipeline.leader)
      pure ⟨trial.opened, pipeline.key⟩
  closeClient client := do
    let trial ← Flow.ofStep fun s => (.ok s.world, s)
    Flow.record (.clientClosed client.number)
    match trial.failClose.lookup client.key with
    | some f => throw f
    | none => pure ()
  maxIdle := maxIdle

end Stowage.Pool
