import Stowage.Container.Node
import Stowage.Container.Record
import Stowage.Container.Stage
import Stowage.Http.Storage
import Stowage.Instrument.Operation
import Stowage.Settings.Component

/-!
The placement service: the authority on containers, their pipelines and the nodes.

It is spoken to in JSON. Every operation either gives what the answer describes or fails as a
storage call of its name; arguments alone make no operation fail.
-/

namespace Stowage

/-- The placement service as reached through a client. -/
structure Placement (σ : Type) where
  net : Slot σ Http.Network
  client : Http.Client
  telemetry : List (Instrument.Concern σ) := []

namespace Placement

variable {σ α : Type}

/-- The headers of every request to a service that speaks JSON. -/
def jsonHeaders : Http.Headers := [("Content-Type", "application/json")]

/-- Reach the placement service as settings say. -/
def connect (net : Slot σ Http.Network) (settings : PlacementSettings)
    (telemetry : List (Instrument.Concern σ)) : Flow σ (Placement σ) := do
  let client ← Http.Client.connect net settings.baseUrl settings.timeoutSeconds jsonHeaders
  pure { net, client, telemetry }

/-- Close the client. -/
def close (p : Placement σ) : Flow σ Unit := p.client.close p.net

/-- The placement service as a component. -/
def component (p : Placement σ) : Instrument.Component σ where
  id := PlacementSettings.componentId
  logger := "resources.adapters.placement.placement_adapter"
  telemetry := p.telemetry

/-- The document that answers a request. -/
def call (p : Placement σ) (operation : String) (ask : Http.Ask) : Flow σ Json :=
  Http.Storage.call p.net p.client operation ask

/-- What the answer to a request describes. -/
def fetch (p : Placement σ) (α : Type) [Model α] (operation : String) (ask : Http.Ask) :
    Flow σ α := do
  let j ← p.call operation ask
  Flow.ofExcept (Http.Storage.decode α "placement" operation j)

/-- A word of a vocabulary as a value. -/
def wordValue {α : Type} [Vocabulary α] (a : α) : Value := .text (Vocabulary.value a)

/-- A mapping with text keys. -/
def mapping (fields : List (String × Value)) : Value := .mapping (Model.entries fields)

/-- Allocate a container with a pipeline. -/
def allocate (p : Placement σ) (type : ReplicationType) (factor : ReplicationFactor)
    (owner : String) : Flow σ ContainerRecord :=
  p.component.call "allocate_container" [("owner", .text owner)] <|
    p.fetch ContainerRecord "allocate_container" {
      method := "POST"
      url := "/containers"
      document := mapping [
        ("replication_type", wordValue type),
        ("replication_factor", wordValue factor),
        ("owner", .text owner)] }

/-- Report a stage change, which has to fit its model. -/
def notify (p : Placement σ) (subject subjectId operation phase : Value) : Flow σ Unit :=
  p.component.call "notify_stage_change" [("subject_id", subjectId)] do
    let event ← Flow.ofExcept (Model.validate StageEvent (mapping [
      ("subject", subject), ("subject_id", subjectId), ("operation", operation),
      ("phase", phase)]))
    let _ ← p.call "notify_stage_change" {
      method := "POST"
      url := "/stage-changes"
      document := (Model.toValue event).dump }

/-- Remove the record of a container. -/
def deleteRecord (p : Placement σ) (containerId : Int) : Flow σ Unit :=
  p.component.call "delete_container" [("container_id", .int containerId)] do
    let url ← Flow.ofExcept (Http.Storage.containerPath containerId "")
    let _ ← p.call "delete_container" { method := "DELETE", url }

/-- The record of a container. -/
def getRecord (p : Placement σ) (containerId : Int) : Flow σ ContainerRecord :=
  p.component.call "get_container" [("container_id", .int containerId)] do
    let url ← Flow.ofExcept (Http.Storage.containerPath containerId "")
    p.fetch ContainerRecord "get_container" { method := "GET", url }

/-- The records in a document. -/
def recordsOf (j : Json) : Except Failure (List ContainerRecord) :=
  match HttpFailure.member? "containers" j with
  | some (.list items) =>
    items.mapM (Http.Storage.decode ContainerRecord "placement" "list_container")
  | _ => .error (Http.Storage.invalidResponse "placement" "list_container"
      "missing containers list")

/-- Up to `count` records from the container `start` on. -/
def listRecords (p : Placement σ) (start count : Int) : Flow σ (List ContainerRecord) :=
  p.component.call "list_container" [("start_container_id", .int start), ("count", .int count)] do
    let j ← p.call "list_container" {
      method := "GET"
      url := "/containers"
      query := mapping [("start", .int start), ("count", .int count)] }
    Flow.ofExcept (recordsOf j)

/-- The nodes in any of some states. -/
def queryNodes (p : Placement σ) (states : List NodeState) (scope : QueryScope) (pool : String) :
    Flow σ NodePool :=
  p.component.call "query_node" [("pool_name", .text pool)] <|
    p.fetch NodePool "query_node" {
      method := "POST"
      url := "/nodes/query"
      document := mapping [
        ("node_states", .list (states.map wordValue)),
        ("query_scope", wordValue scope),
        ("pool_name", .text pool)] }

/-- A pipeline over the nodes of a pool. -/
def replicate (p : Placement σ) (type : ReplicationType) (factor : ReplicationFactor)
    (nodes : NodePool) : Flow σ Pipeline :=
  p.component.call "create_replication_pipeline" [] <|
    p.fetch Pipeline "create_replication_pipeline" {
      method := "POST"
      url := "/pipelines"
      document := mapping [
        ("replication_type", wordValue type),
        ("replication_factor", wordValue factor),
        ("node_pool", (Model.toValue nodes).dump)] }

end Placement

end Stowage
