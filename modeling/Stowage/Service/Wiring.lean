import Stowage.Datanode
import Stowage.Placement
import Stowage.Pool.Clients
import Stowage.Service.Operations

/-!
The service over the network: placement service, datanodes and pool as settings describe them.
-/

namespace Stowage

/-- The world that the service lives in: the network, its pool, and the source of trace identifiers
with the number of those already given out. -/
structure World where
  network : Http.Network := {}
  pool : Pool Http.Client := {}
  traceOf : Nat → String
  traces : Nat := 0

namespace World

def networkSlot : Slot World Http.Network := ⟨network, fun network w => { w with network }⟩

def poolSlot : Slot World (Pool Http.Client) := ⟨pool, fun pool w => { w with pool }⟩

def tracesSlot : Slot World Nat := ⟨traces, fun traces w => { w with traces }⟩

/-- The next trace identifier. -/
def newTrace : Flow World String := do
  let n ← Flow.look tracesSlot
  Flow.put tracesSlot (n + 1)
  Flow.look ⟨fun w => w.traceOf n, fun _ w => w⟩

end World

/-- A handle of the pool over the network. -/
abbrev NetworkHandle : Type := Handle Http.Client

/-- The service over the network. -/
abbrev NetworkService : Type := Service World NetworkHandle

namespace Service

/-- Those that the service works with over the network. -/
def partsOver (placement : Placement World) (datanode : Datanode World)
    (pool : Pool.Connector World Http.Client) : Collaborators World NetworkHandle where
  allocate := placement.allocate
  notify event :=
    placement.notify (.ofMember event.subject) (.text event.subjectId) (.ofMember event.operation)
      (.ofMember event.phase)
  deleteRecord := placement.deleteRecord
  getRecord := placement.getRecord
  listRecords := placement.listRecords
  queryNodes := placement.queryNodes
  replicate := placement.replicate
  closePlacement := placement.close
  acquire := pool.acquire
  release := pool.release
  closePool := pool.close
  createPipeline handle := datanode.createPipeline handle.client
  createData handle := datanode.create handle.client
  closeData handle := datanode.close handle.client
  readData handle := datanode.read handle.client
  deleteData handle id force := datanode.delete handle.client id (.bool force)
  newTrace := World.newTrace

/-- The service that settings describe. -/
def connect (settings : Settings) (telemetry : List (Instrument.Concern World)) :
    Flow World NetworkService := do
  let own ← Flow.ofExcept (ContainerOperationsSettings.resolve settings)
  let placementSettings ← Flow.ofExcept (PlacementSettings.resolve settings)
  let placement ← Placement.connect World.networkSlot placementSettings telemetry
  let nodeSettings ← Flow.ofExcept (DatanodeSettings.resolve settings)
  let datanode : Datanode World := ⟨World.networkSlot, telemetry⟩
  let pool := Pool.overNetwork World.poolSlot World.networkSlot nodeSettings
  pure ⟨own, partsOver placement datanode pool, telemetry⟩

end Service

end Stowage
