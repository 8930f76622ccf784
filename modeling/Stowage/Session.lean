import Stowage.Container.Node
import Stowage.Container.Record
import Stowage.Container.Stage
import Stowage.Http.Message
import Stowage.Instrument.Basic
import Stowage.Log.Record

/-!
Sessions: the state that operations run in, and the events that they cause.

Everything that the program does to the outside is an event. The journal of a session lists them in
the order in which they happen; what an operation says, sends and opens can be read off it.

A session holds the bound logging context, the logging set-up, the spans that are open, the journal
of events, and a world of which each kind of operation knows its part. A `Flow` is a computation
over a session that ends with a result or a failure; its effects stay in either case.
-/

namespace Stowage

/-! ## Events -/

namespace Service

/-- A call that the container operations make of a collaborator, with all that it is given: of the
placement service, of the datanodes of a pipeline or of the pool of connections to them. -/
inductive Call where
  | allocate (type : ReplicationType) (factor : ReplicationFactor) (owner : String)
  | acquire (key : String) (containerId : Int)
  | release (key : String)
  | createPipeline (name : String) (members : List String)
  | notify (event : StageEvent)
  | createData (containerId : Int) (trace : String)
  | closeData (containerId : Int) (trace : String)
  | readData (containerId : Int) (trace : String)
  | deleteData (containerId : Int) (force : Bool) (trace : String)
  | deleteRecord (containerId : Int)
  | getRecord (containerId : Int)
  | listRecords (start count : Int)
  | queryNodes (states : List NodeState) (scope : QueryScope) (pool : String)
  | replicate (type : ReplicationType) (factor : ReplicationFactor) (nodes : NodePool)
  | closePlacement
  deriving DecidableEq, Repr

end Service

/-- One thing that happened. -/
inductive Event where
  /-- A record was handed to a handler that writes in a format. -/
  | line (format : Log.Format) (record : Log.Record)
  | request (request : Http.Request)
  | connectionClosed (number : Nat)
  /-- A client of a rehearsal was opened for a pipeline with a leader. -/
  | clientOpened (number : Nat) (leader : String)
  | clientClosed (number : Nat)
  /-- A collaborator of a rehearsal was called. -/
  | called (call : Service.Call) (failed : Bool)
  | invoked (invocation : Instrument.Invocation)
  | completed (completion : Instrument.Completion)
  | spanStarted (span : Instrument.Span)
  | spanAttribute (span : Instrument.Span) (key : String) (value : Value)
  | spanFailed (span : Instrument.Span) (reason : String)
  | spanEnded (span : Instrument.Span)
  | measured (measure : Instrument.Measure) (attributes : Labels)
  /-- The body of a rehearsed call ran. -/
  | body
  /-- A call inside the body of another ended. -/
  | nested (outcome : Except Failure String)
  /-- Text was written to standard output. -/
  | printed (text : String)
  /-- Text was written to standard error. -/
  | complained (text : String)

/-! ## Sessions -/

/-- Where log records go: those of a level and above, in a format. -/
structure Log.Handler where
  level : Nat
  format : Log.Format
  deriving DecidableEq, Repr

/-- How logging is set up: the level below which nothing is logged, and the handlers. -/
structure Log.Setup where
  level : Nat := 30
  handlers : List Log.Handler := []
  deriving DecidableEq, Repr, Inhabited

/-- The state that operations run in. `spans` has, for every tracing observer, the spans that it has
open, innermost first; `elapsed` is what the stopwatch of every call shows. -/
structure Session (σ : Type) where
  context : Labels := {}
  logging : Log.Setup := {}
  spans : Nat → List Instrument.Span := fun _ => []
  spanCount : Nat := 0
  elapsed : Double := .zero false
  journal : List Event := []
  world : σ

/-- A computation over a session. -/
abbrev Flow (σ α : Type) : Type := ExceptT Failure (StateM (Session σ)) α

/-- A part of a world. -/
structure Slot (σ τ : Type) where
  get : σ → τ
  set : τ → σ → σ

namespace Flow

variable {σ τ α β : Type}

/-- Run a computation from a session. -/
def runFrom (s : Session σ) (body : Flow σ α) : Except Failure α × Session σ := (body.run).run s

/-- A computation from what it does to a session. -/
def ofStep (step : Session σ → Except Failure α × Session σ) : Flow σ α :=
  ExceptT.mk (fun s => step s)

/-- The outcome of something that has no effects. -/
def ofExcept (outcome : Except Failure α) : Flow σ α := ofStep fun s => (outcome, s)

/-- Write an event into the journal. -/
def record (event : Event) : Flow σ Unit :=
  ofStep fun s => (.ok (), { s with journal := s.journal ++ [event] })

/-- A part of the world. -/
def look (slot : Slot σ τ) : Flow σ τ := ofStep fun s => (.ok (slot.get s.world), s)

/-- Put a part of the world in place of what it is. -/
def put (slot : Slot σ τ) (part : τ) : Flow σ Unit :=
  ofStep fun s => (.ok (), { s with world := slot.set part s.world })

/-- The outcome of a computation, be it a result or a failure. -/
def attempt (body : Flow σ α) : Flow σ (Except Failure α) :=
  ofStep fun s => let (outcome, s) := body.runFrom s; (.ok outcome, s)

/-- A computation, and after it another one however the first has ended. A failure of the second
takes the place of the first one's outcome. -/
def andFinally (body : Flow σ α) (last : Flow σ Unit) : Flow σ α := do
  let outcome ← body.attempt
  last
  ofExcept outcome

/-- A computation whose failures, interruptions aside, are dealt with by another one. -/
def handling (body : Flow σ α) (deal : Failure → Flow σ α) : Flow σ α := do
  match ← body.attempt with
  | .ok a => pure a
  | .error f => if f.isInterrupt then throw f else deal f

end Flow

end Stowage
