import Stowage.Container.Node
import Stowage.Container.Record
import Stowage.Container.Stage
import Stowage.Instrument.Operation
import Stowage.Settings.Component

/-!
Container operations: what can be done with containers.

The service asks the placement service what it knows and the datanodes of a pipeline to act. Every
call of a datanode runs on a handle that is acquired for the pipeline and released again however the
operation ends, and with a trace identifier of its own. Nothing is tried twice. The datanodes come
first: no completion is reported and no record is removed unless they have done their part.
-/

namespace Stowage

/-- Those that the service works with: the placement service, the pool of handles, the datanodes at
the other end of a handle, and the source of trace identifiers. -/
structure Collaborators (σ η : Type) where
  allocate : ReplicationType → ReplicationFactor → String → Flow σ ContainerRecord
  notify : StageEvent → Flow σ Unit
  deleteRecord : Int → Flow σ Unit
  getRecord : Int → Flow σ ContainerRecord
  listRecords : Int → Int → Flow σ (List ContainerRecord)
  queryNodes : List NodeState → QueryScope → String → Flow σ NodePool
  replicate : ReplicationType → ReplicationFactor → NodePool → Flow σ Pipeline
  closePlacement : Flow σ Unit
  acquire : Pipeline → Int → Flow σ η
  release : η → Flow σ Unit
  closePool : Flow σ Unit
  createPipeline : η → String → List String → Flow σ Unit
  createData : η → Int → String → Flow σ Unit
  closeData : η → Int → String → Flow σ Unit
  readData : η → Int → String → Flow σ ContainerData
  deleteData : η → Int → Bool → String → Flow σ Unit
  newTrace : Flow σ String

/-- The service: its settings, those that it works with, and the telemetry of its operations. -/
structure Service (σ η : Type) where
  settings : ContainerOperationsSettings
  parts : Collaborators σ η
  telemetry : List (Instrument.Concern σ) := []

namespace Service

variable {σ η α : Type}

/-- The logger of the service. -/
def logger : String := "services.storage.container_operations.implementation"

/-- The service as a component. -/
def component (s : Service σ η) : Instrument.Component σ where
  id := ContainerOperationsSettings.componentId
  logger := logger
  telemetry := s.telemetry

/-- The fields that say which container on which pipeline is meant. -/
def pipelineFields (containerId : Int) (pipeline : Pipeline) : List (String × Value) := [
  ("container_id", .int containerId),
  ("leader", .text pipeline.leader),
  ("members", .text (Text.join "," pipeline.members))]

/-! ## Handles -/

/-- The end of an iteration cannot leave the bookkeeping of a scope as such; there it is a fault of
the program. -/
def outOfScope (f : Failure) : Failure :=
  if f.isA .stopIteration then
    .fault .runtimeError (some (.text "generator raised StopIteration"))
  else f

/-- A step of the bookkeeping of a scope. -/
def bookkeeping (step : Flow σ α) : Flow σ α := do
  match ← step.attempt with
  | .ok a => pure a
  | .error f => throw (outOfScope f)

/-- Run an operation on a handle for a pipeline. The handle is released however that ends. -/
def holding (s : Service σ η) (pipeline : Pipeline) (containerId : Int) (body : η → Flow σ α) :
    Flow σ α := do
  let handle ← bookkeeping (s.parts.acquire pipeline containerId)
  Flow.andFinally (body handle) (bookkeeping (s.parts.release handle))

/-! ## Steps -/

/-- Report the beginning or the end of an operation on a container. -/
def notify (s : Service σ η) (containerId : Int) (operation : StageOperation)
    (phase : StagePhase) : Flow σ Unit := do
  if Decimal.isOverlong containerId then throw .overlongInteger
  s.parts.notify ⟨.container, Decimal.integerText containerId, operation, phase⟩

/-- Make a pipeline real on its members. -/
def materialize (s : Service σ η) (handle : η) (pipeline : Pipeline) : Flow σ Unit := do
  match pipeline.name with
  | none | some "" => throw (.precondition .missingPipelineName
      "pipeline name cannot be empty when the client materializes a pipeline")
  | some name =>
    s.parts.createPipeline handle name pipeline.members
    Log.logWith logger Log.debug "pipeline materialized" [
      ("pipeline", .text name), ("leader", .text pipeline.leader),
      ("members", .text (Text.join "," pipeline.members))]

/-- Make sure that a pipeline is real: one that is only allocated is made so now, any other has to
be open. -/
def prepare (s : Service σ η) (handle : η) (pipeline : Pipeline) : Flow σ Unit :=
  match pipeline.state with
  | .allocated => s.materialize handle pipeline
  | .opened => pure ()
  | state => throw (.precondition .illegalPipelineState
      ("unexpected state " ++ Vocabulary.value state ++ " for pipeline " ++ pipeline.key ++
        ", expected ALLOCATED or OPEN"))

/-! ## Operations -/

/-- Allocate a container and create it on its pipeline. The record returned is the one that was
allocated. -/
def create (s : Service σ η) (owner : String) (type : Option ReplicationType)
    (factor : Option ReplicationFactor) : Flow σ ContainerRecord :=
  s.component.call "create_container" [("owner", .text owner)] do
    let record ← s.parts.allocate (type.getD s.settings.defaultReplicationType)
      (factor.getD s.settings.defaultReplicationFactor) owner
    s.holding record.pipeline record.containerId fun handle => do
      s.prepare handle record.pipeline
      s.notify record.containerId .create .begun
      let trace ← s.parts.newTrace
      s.parts.createData handle record.containerId trace
      s.notify record.containerId .create .complete
      Log.logWith logger Log.debug "container created"
        (pipelineFields record.containerId record.pipeline)
    pure record

/-- Delete a container: its data first, and only then its record. Unless it is forced, only the data
of a closed container is deleted. -/
def delete (s : Service σ η) (containerId : Int) (pipeline : Pipeline) (force : Option Bool) :
    Flow σ Unit :=
  s.component.call "delete_container"
      ([("container_id", .int containerId)] ++
        (force.map fun f => ("force", Value.bool f)).toList) do
    s.holding pipeline containerId fun handle => do
      let trace ← s.parts.newTrace
      s.parts.deleteData handle containerId (force.getD false) trace
      s.parts.deleteRecord containerId
      Log.logWith logger Log.debug "container deleted"
        (pipelineFields containerId pipeline ++ [("force", .bool (force.getD false))])

/-- Close a container to further writes, the datanodes first. -/
def close (s : Service σ η) (containerId : Int) (pipeline : Pipeline) : Flow σ Unit :=
  s.component.call "close_container" [("container_id", .int containerId)] do
    s.holding pipeline containerId fun handle => do
      s.notify containerId .close .begun
      let trace ← s.parts.newTrace
      s.parts.closeData handle containerId trace
      s.notify containerId .close .complete
      Log.logWith logger Log.debug "container closed" (pipelineFields containerId pipeline)

/-- A datanode's snapshot of a container. -/
def read (s : Service σ η) (containerId : Int) (pipeline : Pipeline) : Flow σ ContainerData :=
  s.component.call "read_container" [("container_id", .int containerId)] do
    s.holding pipeline containerId fun handle => do
      let trace ← s.parts.newTrace
      let data ← s.parts.readData handle containerId trace
      Log.logWith logger Log.debug "container read" (pipelineFields containerId pipeline)
      pure data

/-- The record of a container. -/
def get (s : Service σ η) (containerId : Int) : Flow σ ContainerRecord :=
  s.component.call "get_container" [("container_id", .int containerId)]
    (s.parts.getRecord containerId)

/-- Up to `count` records from the container `start` on. -/
def list (s : Service σ η) (start count : Int) : Flow σ (List ContainerRecord) :=
  s.component.call "list_container" [("start_container_id", .int start), ("count", .int count)] do
    if start < 0 then throw (.badValue "start_container_id must be >= 0")
    if count ≤ 0 then throw (.badValue "count must be > 0")
    s.parts.listRecords start count

/-- The nodes in any of some states. -/
def queryNodes (s : Service σ η) (states : List NodeState) (scope : QueryScope) (pool : String) :
    Flow σ NodePool :=
  s.component.call "query_node" [("pool_name", .text pool)]
    (s.parts.queryNodes states scope pool)

/-- A pipeline over the nodes of a pool. -/
def replicate (s : Service σ η) (type : ReplicationType) (factor : ReplicationFactor)
    (nodes : NodePool) : Flow σ Pipeline :=
  s.component.call "create_replication_pipeline" [] (s.parts.replicate type factor nodes)

/-- The capacity that containers are created with, in bytes. -/
def size (s : Service σ η) (containerId : Int) : Flow σ Int :=
  s.component.call "get_container_size" [("container_id", .int containerId)] do
    if s.settings.containerSizeBytes = unknownSize then
      throw (.sizeUnknown "container size unknown")
    pure s.settings.containerSizeBytes

/-- Let go of everything that holds network resources: the pool first. -/
def shutDown (s : Service σ η) : Flow σ Unit := do
  s.parts.closePool
  s.parts.closePlacement

end Service

end Stowage
