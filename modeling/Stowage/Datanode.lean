import Stowage.Container.Record
import Stowage.Http.Storage
import Stowage.Instrument.Operation
import Stowage.Settings.Component

/-!
Datanodes: the nodes that keep the copies of containers.

The node that leads a pipeline is spoken to in JSON, over a client that is given with every call.
Every request that concerns a container carries a trace identifier.
-/

namespace Stowage

/-- How datanodes are spoken to. -/
structure Datanode (σ : Type) where
  net : Slot σ Http.Network
  telemetry : List (Instrument.Concern σ) := []

namespace Datanode

variable {σ : Type}

/-- The datanodes as a component. -/
def component (d : Datanode σ) : Instrument.Component σ where
  id := DatanodeSettings.componentId
  logger := "resources.adapters.datanode.datanode_adapter"
  telemetry := d.telemetry

/-- The document that answers a request which concerns a container. -/
def containerCall (d : Datanode σ) (client : Http.Client) (operation method rest : String)
    (containerId : Int) (trace : String) (query : Value := .null) : Flow σ Json := do
  let url ← Flow.ofExcept (Http.Storage.containerPath containerId rest)
  Http.Storage.call d.net client operation { method, url, trace := some trace, query }

/-- What identifies a request which concerns a container. -/
def subject (containerId : Int) (trace : String) : List (String × Value) :=
  [("container_id", .int containerId), ("trace_id", .text trace)]

/-- Create the data of a container. -/
def create (d : Datanode σ) (client : Http.Client) (containerId : Int) (trace : String) :
    Flow σ Unit :=
  d.component.call "create_container" (subject containerId trace) do
    let _ ← d.containerCall client "create_container" "PUT" "" containerId trace

/-- Delete the data of a container. Unless `force` counts as true, only a closed one is deleted. -/
def delete (d : Datanode σ) (client : Http.Client) (containerId : Int) (force : Value)
    (trace : String) : Flow σ Unit :=
  d.component.call "delete_container"
      [("container_id", .int containerId), ("force", force), ("trace_id", .text trace)] do
    let word := if force.isTrue then "true" else "false"
    let _ ← d.containerCall client "delete_container" "DELETE" "" containerId trace
      (.mapping [(.text "force", .text word)])

/-- Close a container to further writes. -/
def close (d : Datanode σ) (client : Http.Client) (containerId : Int) (trace : String) :
    Flow σ Unit :=
  d.component.call "close_container" (subject containerId trace) do
    let _ ← d.containerCall client "close_container" "POST" "/close" containerId trace

/-- The snapshot in a document. -/
def dataOf (j : Json) : Except Failure ContainerData :=
  match HttpFailure.member? "container_data" j with
  | some found => Http.Storage.decode ContainerData "datanode" "read_container" found
  | none => .error (Http.Storage.invalidResponse "datanode" "read_container"
      "missing container_data")

/-- A node's snapshot of a container. -/
def read (d : Datanode σ) (client : Http.Client) (containerId : Int) (trace : String) :
    Flow σ ContainerData :=
  d.component.call "read_container" (subject containerId trace) do
    let j ← d.containerCall client "read_container" "GET" "" containerId trace
    Flow.ofExcept (dataOf j)

/-- Make a pipeline real on its members. -/
def createPipeline (d : Datanode σ) (client : Http.Client) (name : String)
    (members : List String) : Flow σ Unit :=
  d.component.call "create_pipeline" [("pipeline_name", .text name)] do
    let _ ← Http.Storage.call d.net client "create_pipeline" {
      method := "POST"
      url := "/pipelines"
      document := .mapping [
        (.text "pipeline_name", .text name), (.text "members", .list (members.map .text))] }

end Datanode

end Stowage
