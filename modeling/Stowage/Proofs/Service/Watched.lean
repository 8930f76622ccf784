import Stowage.Proofs.Instrument.Mirror
import Stowage.Service.Operations

/-!
A service that is watched: every call of a collaborator is written down with what came of it.

`Service.watched` is the same service in a world that keeps the list of these calls beside the world
of the collaborators. The collaborators may be any; they do not see that they are watched, and
neither does anyone who uses the service: every operation mirrors that of the service itself.
-/

namespace Stowage

namespace Service

variable {σ η α : Type}

/-- A call of a collaborator, with the handle that it runs on. -/
inductive Step (η : Type) where
  | allocate (type : ReplicationType) (factor : ReplicationFactor) (owner : String)
  | notify (event : StageEvent)
  | deleteRecord (containerId : Int)
  | getRecord (containerId : Int)
  | listRecords (start count : Int)
  | queryNodes (states : List NodeState) (scope : QueryScope) (pool : String)
  | replicate (type : ReplicationType) (factor : ReplicationFactor) (nodes : NodePool)
  | closePlacement
  | acquire (pipeline : Pipeline) (containerId : Int)
  | release (handle : η)
  | closePool
  | createPipeline (handle : η) (name : String) (members : List String)
  | createData (handle : η) (containerId : Int) (trace : String)
  | closeData (handle : η) (containerId : Int) (trace : String)
  | readData (handle : η) (containerId : Int) (trace : String)
  | deleteData (handle : η) (containerId : Int) (force : Bool) (trace : String)

/-- What a call gives when it succeeds. -/
def Step.Result : Step η → Type
  | .allocate .. | .getRecord _ => ContainerRecord
  | .listRecords .. => List ContainerRecord
  | .queryNodes .. => NodePool
  | .replicate .. => Pipeline
  | .acquire .. => η
  | .readData .. => ContainerData
  | _ => Unit

/-- A call and what came of it. -/
structure Exchange (η : Type) where
  step : Step η
  result : Except Failure step.Result

/-- A world in which the calls that have been made are known. -/
structure Watched (σ η : Type) where
  inner : σ
  calls : List (Exchange η) := []

/-- The world that the collaborators see. -/
def Watched.slot : Slot (Watched σ η) σ := ⟨inner, fun inner w => { w with inner }⟩

end Service

open Service

/-- A call of a collaborator, made. -/
def Collaborators.perform {σ η : Type} (parts : Collaborators σ η) :
    (step : Step η) → Flow σ step.Result
  | .allocate type factor owner => parts.allocate type factor owner
  | .notify event => parts.notify event
  | .deleteRecord id => parts.deleteRecord id
  | .getRecord id => parts.getRecord id
  | .listRecords start count => parts.listRecords start count
  | .queryNodes states scope pool => parts.queryNodes states scope pool
  | .replicate type factor nodes => parts.replicate type factor nodes
  | .closePlacement => parts.closePlacement
  | .acquire pipeline id => parts.acquire pipeline id
  | .release handle => parts.release handle
  | .closePool => parts.closePool
  | .createPipeline handle name members => parts.createPipeline handle name members
  | .createData handle id trace => parts.createData handle id trace
  | .closeData handle id trace => parts.closeData handle id trace
  | .readData handle id trace => parts.readData handle id trace
  | .deleteData handle id force trace => parts.deleteData handle id force trace

namespace Collaborators

variable {σ η : Type}

/-- Make a call and write down what came of it. -/
def watch (parts : Collaborators σ η) (step : Step η) : Flow (Watched σ η) step.Result :=
  Flow.ofStep fun s =>
    let (result, after) := ((parts.perform step).zoom Watched.slot).runFrom s
    (result, { after with
      world := { after.world with calls := after.world.calls ++ [⟨step, result⟩] } })

/-- Collaborators that are watched. -/
def watched (parts : Collaborators σ η) : Collaborators (Watched σ η) η where
  allocate type factor owner := parts.watch (.allocate type factor owner)
  notify event := parts.watch (.notify event)
  deleteRecord id := parts.watch (.deleteRecord id)
  getRecord id := parts.watch (.getRecord id)
  listRecords start count := parts.watch (.listRecords start count)
  queryNodes states scope pool := parts.watch (.queryNodes states scope pool)
  replicate type factor nodes := parts.watch (.replicate type factor nodes)
  closePlacement := parts.watch .closePlacement
  acquire pipeline id := parts.watch (.acquire pipeline id)
  release handle := parts.watch (.release handle)
  closePool := parts.watch .closePool
  createPipeline handle name members := parts.watch (.createPipeline handle name members)
  createData handle id trace := parts.watch (.createData handle id trace)
  closeData handle id trace := parts.watch (.closeData handle id trace)
  readData handle id trace := parts.watch (.readData handle id trace)
  deleteData handle id force trace := parts.watch (.deleteData handle id force trace)
  newTrace := parts.newTrace.zoom Watched.slot

/-- What is taken for granted of collaborators: a handle can always be released, there is always
another trace identifier, and after no call log records are refused that were not before. -/
structure Dependable (parts : Collaborators σ η) : Prop where
  release : ∀ handle s, ((parts.release handle).runFrom s).1 = .ok ()
  newTrace : ∀ s, ∃ trace, (parts.newTrace.runFrom s).1 = .ok trace
  writable : ∀ step s, Log.Writable s → Log.Writable ((parts.perform step).runFrom s).2
  writable_newTrace : ∀ s, Log.Writable s → Log.Writable (parts.newTrace.runFrom s).2

end Collaborators

namespace Service

variable {σ η : Type}

/-- A service whose collaborators are watched. -/
def watched (s : Service σ η) : Service (Watched σ η) η where
  settings := s.settings
  parts := s.parts.watched
  telemetry := s.telemetry.map (·.zoom Watched.slot)

/-- The calls that have been made, in sessions that log records can be written in. -/
def calls (σ η : Type) : Gauge (Watched σ η) (Exchange η) where
  holds := Log.Writable
  list s := s.world.calls
  writable := True
  holds_alike h hs := hs.alike h
  list_alike h := by rw [h.world]
  log_writable _ _ hs := hs

theorem discreet_telemetry_watched {s : Service σ η} (h : ∀ c ∈ s.telemetry, c.Discreet) :
    ∀ c ∈ s.watched.component.telemetry, c.Discreet := by
  intro c hc
  obtain ⟨d, hd, rfl⟩ := List.mem_map.1 hc
  exact (h d hd).zoom fun _ => rfl

variable {parts : Collaborators σ η}

/-- A watched call is written down. -/
theorem adds_watch (h : parts.Dependable) (step : Step η) :
    (calls σ η).Adds (parts.watch step) fun o more => more = [⟨step, o⟩] := by
  intro s hs
  exact ⟨h.writable step (s.withWorld s.world.inner) hs, _, rfl, rfl⟩

theorem adds_watch_release (h : parts.Dependable) (handle : η) :
    (calls σ η).Adds (parts.watch (.release handle)) fun o more =>
      o = .ok () ∧ more = [⟨.release handle, .ok ()⟩] := by
  intro s hs
  have hok : ((parts.watch (.release handle)).runFrom s).1 = .ok () :=
    h.release handle (s.withWorld s.world.inner)
  obtain ⟨ht, more, hl, hm⟩ := adds_watch h (.release handle) s hs
  exact ⟨ht, more, hl, hok, by rw [hm, hok]⟩

theorem adds_newTrace (h : parts.Dependable) :
    (calls σ η).Adds parts.watched.newTrace fun o more => (∃ trace, o = .ok trace) ∧ more = [] :=
  fun s hs => ⟨h.writable_newTrace (s.withWorld s.world.inner) hs, [], (List.append_nil _).symm,
    h.newTrace (s.withWorld s.world.inner), rfl⟩

/-! ## Watching is not seen -/

theorem mirrors_watch (parts : Collaborators σ η) (step : Step η) :
    Flow.Mirrors Watched.slot (parts.watch step) (parts.perform step) := fun _ => rfl

theorem mirrors_bookkeeping {τ α : Type} {slot : Slot τ σ} {large : Flow τ α} {small : Flow σ α}
    (h : Flow.Mirrors slot large small) :
    Flow.Mirrors slot (bookkeeping large) (bookkeeping small) := by
  refine h.attempt.bind fun outcome => ?_
  cases outcome with
  | ok a => exact .pure a
  | error f => exact .throw _

variable {α : Type} (s : Service σ η)

theorem mirrors_call (name : String) (supplied : List (String × Value))
    {large : Flow (Watched σ η) α} {small : Flow σ α}
    (h : Flow.Mirrors Watched.slot large small) :
    Flow.Mirrors Watched.slot (s.watched.component.call name supplied large)
      (s.component.call name supplied small) :=
  s.component.mirrors_call (fun _ _ => rfl) name supplied h

theorem mirrors_holding (pipeline : Pipeline) (containerId : Int)
    {large : η → Flow (Watched σ η) α} {small : η → Flow σ α}
    (h : ∀ handle, Flow.Mirrors Watched.slot (large handle) (small handle)) :
    Flow.Mirrors Watched.slot (s.watched.holding pipeline containerId large)
      (s.holding pipeline containerId small) :=
  .bind (mirrors_bookkeeping (mirrors_watch s.parts (.acquire pipeline containerId)))
    fun handle => .andFinally (h handle)
      (mirrors_bookkeeping (mirrors_watch s.parts (.release handle)))

theorem mirrors_newTrace :
    Flow.Mirrors Watched.slot s.watched.parts.newTrace s.parts.newTrace :=
  .zoom (fun _ _ => rfl) s.parts.newTrace

theorem mirrors_notify (containerId : Int) (operation : StageOperation) (phase : StagePhase) :
    Flow.Mirrors Watched.slot (s.watched.notify containerId operation phase)
      (s.notify containerId operation phase) := by
  unfold notify
  split
  · exact .bind (.throw _) fun _ => mirrors_watch s.parts (.notify _)
  · exact mirrors_watch s.parts (.notify _)

theorem mirrors_prepare (handle : η) (pipeline : Pipeline) :
    Flow.Mirrors Watched.slot (s.watched.prepare handle pipeline) (s.prepare handle pipeline) := by
  unfold prepare materialize
  split
  · split
    · exact .throw _
    · exact .throw _
    · exact .bind (mirrors_watch s.parts (.createPipeline handle _ pipeline.members)) fun _ =>
        Log.mirrors_logWith _ _ _ _
  · exact .pure ()
  · exact .throw _

theorem mirrors_create (owner : String) (type : Option ReplicationType)
    (factor : Option ReplicationFactor) :
    Flow.Mirrors Watched.slot (s.watched.create owner type factor) (s.create owner type factor) := by
  refine s.mirrors_call _ _ ?_
  refine .bind (mirrors_watch s.parts (.allocate _ _ owner)) fun record => ?_
  refine .bind (s.mirrors_holding record.pipeline record.containerId fun handle => ?_)
    fun _ => .pure record
  refine .bind (s.mirrors_prepare handle record.pipeline) fun _ => ?_
  refine .bind (s.mirrors_notify record.containerId .create .begun) fun _ => ?_
  refine .bind s.mirrors_newTrace fun trace => ?_
  refine .bind (mirrors_watch s.parts (.createData handle record.containerId trace)) fun _ => ?_
  exact .bind (s.mirrors_notify record.containerId .create .complete) fun _ =>
    Log.mirrors_logWith _ _ _ _

theorem mirrors_close (containerId : Int) (pipeline : Pipeline) :
    Flow.Mirrors Watched.slot (s.watched.close containerId pipeline)
      (s.close containerId pipeline) := by
  refine s.mirrors_call _ _ (s.mirrors_holding pipeline containerId fun handle => ?_)
  refine .bind (s.mirrors_notify containerId .close .begun) fun _ => ?_
  refine .bind s.mirrors_newTrace fun trace => ?_
  refine .bind (mirrors_watch s.parts (.closeData handle containerId trace)) fun _ => ?_
  exact .bind (s.mirrors_notify containerId .close .complete) fun _ =>
    Log.mirrors_logWith _ _ _ _

theorem mirrors_delete (containerId : Int) (pipeline : Pipeline) (force : Option Bool) :
    Flow.Mirrors Watched.slot (s.watched.delete containerId pipeline force)
      (s.delete containerId pipeline force) := by
  refine s.mirrors_call _ _ (s.mirrors_holding pipeline containerId fun handle => ?_)
  refine .bind s.mirrors_newTrace fun trace => ?_
  refine .bind (mirrors_watch s.parts (.deleteData handle containerId _ trace)) fun _ => ?_
  exact .bind (mirrors_watch s.parts (.deleteRecord containerId)) fun _ =>
    Log.mirrors_logWith _ _ _ _

theorem mirrors_read (containerId : Int) (pipeline : Pipeline) :
    Flow.Mirrors Watched.slot (s.watched.read containerId pipeline)
      (s.read containerId pipeline) := by
  refine s.mirrors_call _ _ (s.mirrors_holding pipeline containerId fun handle => ?_)
  refine .bind s.mirrors_newTrace fun trace => ?_
  refine .bind (mirrors_watch s.parts (.readData handle containerId trace)) fun data => ?_
  exact .bind (Log.mirrors_logWith _ _ _ _) fun _ => .pure data

theorem mirrors_get (containerId : Int) :
    Flow.Mirrors Watched.slot (s.watched.get containerId) (s.get containerId) :=
  s.mirrors_call _ _ (mirrors_watch s.parts (.getRecord containerId))

theorem mirrors_list (start count : Int) :
    Flow.Mirrors Watched.slot (s.watched.list start count) (s.list start count) := by
  refine s.mirrors_call _ _ ?_
  by_cases hstart : start < 0
  · simp only [hstart, if_true]
    exact .throw _
  · by_cases hcount : count ≤ 0
    · simp only [hstart, hcount, if_true, if_false]
      exact .throw _
    · simp only [hstart, hcount, if_false]
      exact mirrors_watch s.parts (.listRecords start count)

theorem mirrors_queryNodes (states : List NodeState) (scope : QueryScope) (pool : String) :
    Flow.Mirrors Watched.slot (s.watched.queryNodes states scope pool)
      (s.queryNodes states scope pool) :=
  s.mirrors_call _ _ (mirrors_watch s.parts (.queryNodes states scope pool))

theorem mirrors_replicate (type : ReplicationType) (factor : ReplicationFactor) (nodes : NodePool) :
    Flow.Mirrors Watched.slot (s.watched.replicate type factor nodes)
      (s.replicate type factor nodes) :=
  s.mirrors_call _ _ (mirrors_watch s.parts (.replicate type factor nodes))

theorem mirrors_size (containerId : Int) :
    Flow.Mirrors Watched.slot (s.watched.size containerId) (s.size containerId) := by
  refine s.mirrors_call _ _ ?_
  change Flow.Mirrors Watched.slot (if s.settings.containerSizeBytes = unknownSize then _ else _) _
  split
  · exact .throw _
  · exact .pure _

theorem mirrors_shutDown : Flow.Mirrors Watched.slot s.watched.shutDown s.shutDown :=
  .bind (mirrors_watch s.parts .closePool) fun _ => mirrors_watch s.parts .closePlacement

end Service

end Stowage
