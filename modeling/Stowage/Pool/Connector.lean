import Stowage.Log.Logger
import Stowage.Pool.Basic

/-!
Pools at work: clients are opened and closed as handles come and go, and what happens is logged.

A client is opened before the pool changes, so that a pool is left as it was when that fails.
Clients are closed after the pool has changed; a client that fails to close is only reported.
-/

namespace Stowage.Pool

variable {σ κ : Type}

/-- What a pool works with: its place in the world, how clients are opened and closed, and how many
idle handles it keeps. -/
structure Connector (σ κ : Type) where
  slot : Slot σ (Pool κ)
  openClient : Pipeline → Flow σ κ
  closeClient : κ → Flow σ Unit
  maxIdle : Nat

/-- The logger of pools. -/
def logger : String := "resources.adapters.datanode.pool"

namespace Connector

/-- The failure to acquire a handle for a pipeline without identity. -/
def noKey : Failure :=
  let message := "pipeline has neither a name nor a leader"
  .storage message "acquire" (.validation message ErrorDetail.invalidArgument)

/-- The failure to open a client: of a storage call when the address is at fault. -/
def openFailure (pipeline : Pipeline) (failure : Failure) : Failure :=
  let isAddress := match failure with
    | .badUrl _ => true
    | f => f.isA .valueError
  if isAddress then
    .plainStorage ("cannot connect to pipeline " ++ pipeline.key ++ ": " ++ failure.words) "acquire"
  else failure

/-- Open a client for a pipeline. -/
def connect (c : Connector σ κ) (pipeline : Pipeline) : Flow σ κ := do
  match ← (c.openClient pipeline).attempt with
  | .ok client => pure client
  | .error f => throw (openFailure pipeline f)

/-- Close the client of a handle that is dropped. -/
def closeQuietly (c : Connector σ κ) (h : Handle κ) : Flow σ Unit :=
  Flow.handling (c.closeClient h.client) fun f =>
    Log.logWith logger Log.warning "datanode handle close failed"
      [("pipeline", .text h.key), ("errors", .text f.brief)]

/-- Close the clients of handles that are dropped, in order. -/
def closeAll (c : Connector σ κ) : List (Handle κ) → Flow σ Unit
  | [] => pure ()
  | h :: r => do
    c.closeQuietly h
    closeAll c r

/-- Say that a handle has been given out. -/
def logAcquired (h : Handle κ) (containerId : Int) : Flow σ Unit :=
  Log.logWith logger Log.debug "datanode handle acquired" [
    ("container_id", .int containerId), ("pipeline", .text h.key),
    ("ref_count", .int h.holders)]

/-- A new handle for a pipeline. -/
def openHandle (c : Connector σ κ) (pool : Pool κ) (pipeline : Pipeline) : Flow σ (Handle κ) := do
  let client ← c.connect pipeline
  let (h, pool') := pool.enrol pipeline client
  Flow.put c.slot pool'
  match pool.find? pipeline.key with
  | none => pure h
  | some old =>
    Log.logWith logger Log.info "datanode handle reopened for new pipeline leader"
      [("pipeline", .text pipeline.key), ("leader", .text pipeline.leader)]
    if old.isIdle then c.closeQuietly old
    pure h

/-- Acquire a handle for a pipeline, on behalf of a container. -/
def acquire (c : Connector σ κ) (pipeline : Pipeline) (containerId : Int) :
    Flow σ (Handle κ) := do
  if pipeline.key = "" then throw noKey
  let pool ← Flow.look c.slot
  let h ← match pool.current? pipeline with
    | some h => do
      let (h, pool) := pool.reuse h
      Flow.put c.slot pool
      pure h
    | none => c.openHandle pool pipeline
  logAcquired h containerId
  pure h

/-- Release the handle with a number, which is or was cached under a key. A handle that is not held,
or that this pool does not keep, is only reported. -/
def releaseNumber (c : Connector σ κ) (number : Nat) (key : String) : Flow σ Unit := do
  let pool ← Flow.look c.slot
  match pool.release? c.maxIdle number with
  | none =>
    Log.logWith logger Log.warning "release of untracked datanode handle ignored"
      [("pipeline", .text key)]
  | some (dropped, pool) => do
    Flow.put c.slot pool
    c.closeAll dropped

/-- Release a handle. -/
def release (c : Connector σ κ) (h : Handle κ) : Flow σ Unit := c.releaseNumber h.number h.key

/-- Close all clients and forget all handles, held or not. -/
def close (c : Connector σ κ) : Flow σ Unit := do
  let pool ← Flow.look c.slot
  let (dropped, pool) := pool.clear
  Flow.put c.slot pool
  c.closeAll dropped

end Connector

end Stowage.Pool
