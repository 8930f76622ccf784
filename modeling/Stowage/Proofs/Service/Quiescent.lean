import Stowage.Proofs.Pool.Quiescent
import Stowage.Proofs.Service.FailStop

/-!
The service leaves its pool at rest.

`Service.pooled` is a service that takes its handles from a pool of which books are kept; the other
collaborators may be any. No operation but those that run on a handle touches the pool. An operation
that does acquires one handle from a pool at rest and releases it however it ends, so that after any
operations, whatever fails in them, the pool is at rest again (`leaves_quiescent`).
-/

namespace Stowage

open Pool

variable {σ κ α : Type}

namespace Collaborators

/-- Collaborators whose handles come from a pool of which books are kept. They know of no books. -/
def pooled (parts : Collaborators σ (Handle (Numbered κ))) (source : Source σ κ) (maxIdle : Nat) :
    Collaborators (Ledger σ κ) (Handle (Numbered κ)) where
  allocate type factor owner := (parts.allocate type factor owner).zoom Ledger.side
  notify event := (parts.notify event).zoom Ledger.side
  deleteRecord id := (parts.deleteRecord id).zoom Ledger.side
  getRecord id := (parts.getRecord id).zoom Ledger.side
  listRecords start count := (parts.listRecords start count).zoom Ledger.side
  queryNodes states scope pool := (parts.queryNodes states scope pool).zoom Ledger.side
  replicate type factor nodes := (parts.replicate type factor nodes).zoom Ledger.side
  closePlacement := parts.closePlacement.zoom Ledger.side
  acquire := (source.connector maxIdle).acquire
  release := (source.connector maxIdle).release
  closePool := (source.connector maxIdle).close
  createPipeline handle name members := (parts.createPipeline handle name members).zoom Ledger.side
  createData handle id trace := (parts.createData handle id trace).zoom Ledger.side
  closeData handle id trace := (parts.closeData handle id trace).zoom Ledger.side
  readData handle id trace := (parts.readData handle id trace).zoom Ledger.side
  deleteData handle id force trace := (parts.deleteData handle id force trace).zoom Ledger.side
  newTrace := parts.newTrace.zoom Ledger.side

/-- What is taken for granted of collaborators, which may fail in any way: after no call log records
are refused that were not before, and containers are allocated under identifiers that can be
written. -/
structure Orderly {η : Type} (parts : Collaborators σ η) : Prop where
  writable : ∀ step s, Log.Writable s → Log.Writable ((parts.perform step).runFrom s).2
  writable_newTrace : ∀ s, Log.Writable s → Log.Writable (parts.newTrace.runFrom s).2
  allocated : ∀ type factor owner s record,
    ((parts.allocate type factor owner).runFrom s).1 = .ok record →
      Decimal.isOverlong record.containerId = false

end Collaborators

namespace Service

/-- A service over a pool of which books are kept. -/
def pooled (s : Service σ (Handle (Numbered κ))) (source : Source σ κ) (maxIdle : Nat) :
    Service (Ledger σ κ) (Handle (Numbered κ)) where
  settings := s.settings
  parts := s.parts.pooled source maxIdle
  telemetry := s.telemetry.map (·.zoom Ledger.side)

theorem discreet_telemetry_pooled {s : Service σ (Handle (Numbered κ))}
    (h : ∀ c ∈ s.telemetry, c.Discreet) (source : Source σ κ) (maxIdle : Nat) :
    ∀ c ∈ (s.pooled source maxIdle).component.telemetry, c.Discreet := by
  intro c hc
  obtain ⟨d, hd, rfl⟩ := List.mem_map.1 hc
  exact (h d hd).zoom fun _ => rfl

/-! ## Any operation -/

/-- An operation of the service, with its arguments; also that it shuts down. -/
inductive Operation where
  | container (op : ContainerOperation)
  | get (containerId : Int)
  | list (start count : Int)
  | queryNodes (states : List NodeState) (scope : QueryScope) (pool : String)
  | replicate (type : ReplicationType) (factor : ReplicationFactor) (nodes : NodePool)
  | size (containerId : Int)
  | shutDown

/-- Carry an operation out, and drop its result. -/
def Operation.run {η : Type} (s : Service σ η) : Operation → Flow σ Unit
  | container op => op.run s
  | get containerId => do let _ ← s.get containerId
  | list start count => do let _ ← s.list start count
  | queryNodes states scope pool => do let _ ← s.queryNodes states scope pool
  | replicate type factor nodes => do let _ ← s.replicate type factor nodes
  | size containerId => do let _ ← s.size containerId
  | shutDown => s.shutDown

/-- The session after operations that are carried out one after the other, however each of them
ends. -/
def after {η : Type} (s : Service σ η) (ops : List Operation) (x : Session σ) : Session σ :=
  ops.foldl (fun x op => ((op.run s).runFrom x).2) x

end Service

/-! ## Flows that leave the books alone -/

namespace Pool

/-- A flow that leaves the books alone, whatever they are. -/
def Still (body : Flow (Ledger σ κ) α) : Prop := ∀ b, Leads body b fun _ b' => b' = b

namespace Still

variable {β : Type} {body : Flow (Ledger σ κ) α}

theorem pure (a : α) : Still (Pure.pure a : Flow (Ledger σ κ) α) := fun _ => .pure rfl

theorem throw (f : Failure) : Still (MonadExcept.throw f : Flow (Ledger σ κ) α) :=
  fun _ => .throw rfl

theorem bind {next : α → Flow (Ledger σ κ) β} (hbody : Still body) (hnext : ∀ a, Still (next a)) :
    Still (body >>= next) := by
  intro b
  refine .bind (hbody b) (fun _ _ h => h) ?_
  rintro a _ rfl
  exact hnext a _

theorem zoom {inner : Flow σ α} (h : ∀ s, Log.Writable s → Log.Writable (inner.runFrom s).2) :
    Still (inner.zoom Ledger.side : Flow (Ledger σ κ) α) :=
  fun _ => .mono (.zoom h) fun _ _ h => h.1

theorem discreet (h : body.Discreet) : Still body := fun _ => .discreet h

end Still

namespace Leads

variable {body : Flow (Ledger σ κ) α} {b : Books κ} {P : Except Failure α → Books κ → Prop}

/-- What comes last, always succeeds, and decides what the books are. -/
theorem andFinally {last : Flow (Ledger σ κ) Unit} {R : Books κ → Prop} (hbody : Leads body b P)
    (hlast : ∀ o b', P o b' → Leads last b' fun _ b'' => R b'') :
    Leads (body.andFinally last) b fun _ b' => R b' := by
  intro s hs hb
  obtain ⟨ht, hP⟩ := hbody s hs hb
  obtain ⟨hu, hR⟩ := hlast _ _ hP _ ht rfl
  rw [Flow.runFrom_andFinally]
  generalize last.runFrom (body.runFrom s).2 = r at hu hR ⊢
  rcases r with ⟨f | ⟨⟩, u⟩ <;> exact ⟨hu, hR⟩

/-- The bookkeeping of a scope does to the books what its step does. -/
theorem bookkeeping (h : Leads body b P) :
    Leads (Service.bookkeeping body) b fun o b' => (∃ a, o = .ok a ∧ P (.ok a) b') ∨
      ∃ f f', o = .error f' ∧ P (.error f) b' := by
  intro s hs hb
  unfold Service.bookkeeping
  rw [Flow.runFrom_bind_ok (Flow.runFrom_attempt body s)]
  obtain ⟨ht, hP⟩ := h s hs hb
  generalize body.runFrom s = r at ht hP ⊢
  rcases r with ⟨f | a, t⟩
  · exact ⟨ht, .inr ⟨f, Service.outOfScope f, rfl, hP⟩⟩
  · exact ⟨ht, .inl ⟨a, rfl, hP⟩⟩

/-- A call leads from books to those that its body leads to, or it never comes to its body. -/
theorem call {c : Instrument.Component (Ledger σ κ)} {R : Books κ → Prop}
    (hc : ∀ d ∈ c.telemetry, d.Discreet) (hb : R b) (name : String)
    (supplied : List (String × Value))
    (hbody : (∃ labels, Instrument.references (supplied.map Prod.fst) supplied = .ok labels) →
      Leads body b fun _ b' => R b') :
    Leads (c.call name supplied body) b fun _ b' => R b' := by
  intro s hs hsb
  unfold Instrument.Component.call
  cases hr : Instrument.references (supplied.map Prod.fst) supplied with
  | error f => exact ⟨hs, hsb ▸ hb⟩
  | ok labels =>
    have hd := Gauge.discreet_concerns hc name
    rcases Instrument.Operation.run_transparent hd labels body s with
      ⟨hw, -, -⟩ | ⟨s₁, ha, hb', -⟩
    · exact absurd hs hw
    · obtain ⟨ht, hR⟩ := hbody ⟨labels, hr⟩ s₁ (hs.alike ha) (by rw [ha.world, hsb])
      exact ⟨ht.alike hb', by rw [hb'.world]; exact hR⟩

end Leads

end Pool

namespace Service

variable {s : Service σ (Handle (Numbered κ))} {source : Source σ κ} {maxIdle : Nat} {b : Books κ}

/-! ## Operations that need no handle -/

theorem still_call (ht : ∀ c ∈ s.telemetry, c.Discreet) (name : String)
    (supplied : List (String × Value)) {body : Flow (Ledger σ κ) α} (hbody : Still body) :
    Still ((s.pooled source maxIdle).component.call name supplied body) :=
  fun b => .call (R := fun b' => b' = b) (discreet_telemetry_pooled ht source maxIdle) rfl name
    supplied fun _ => hbody b

section

variable (h : s.parts.Orderly)
include h

theorem still_listRecords (start count : Int) : Still (do
    if start < 0 then throw (.badValue "start_container_id must be >= 0")
    if count ≤ 0 then throw (.badValue "count must be > 0")
    (s.pooled source maxIdle).parts.listRecords start count :
      Flow (Ledger σ κ) (List ContainerRecord)) := by
  by_cases hstart : start < 0
  · simp only [hstart, if_true]
    exact .throw _
  · by_cases hcount : count ≤ 0
    · simp only [hstart, hcount, if_true, if_false]
      exact .throw _
    · simp only [hstart, hcount, if_false]
      exact .zoom (h.writable (.listRecords start count))

theorem still_notify (containerId : Int) (operation : StageOperation) (phase : StagePhase) :
    Still ((s.pooled source maxIdle).notify containerId operation phase) := by
  cases hid : Decimal.isOverlong containerId with
  | true =>
    rw [notify_of_overlong hid]
    exact .throw _
  | false =>
    rw [notify_of_fits hid]
    exact .zoom (h.writable (.notify (stageEvent containerId operation phase)))

theorem still_prepare (handle : Handle (Numbered κ)) (pipeline : Pipeline) :
    Still ((s.pooled source maxIdle).prepare handle pipeline) := by
  unfold prepare materialize
  split
  · split
    · exact .throw _
    · exact .throw _
    · exact .bind (.zoom (h.writable (.createPipeline handle _ pipeline.members))) fun _ =>
        .discreet (Log.discreet_logWith _ _ _ _)
  · exact .pure ()
  · exact .throw _

theorem still_newTrace : Still (s.pooled source maxIdle).parts.newTrace :=
  .zoom h.writable_newTrace

end

/-! ## Operations on a handle -/

/-- An operation on a handle leads from a pool at rest to a pool at rest. -/
theorem leads_holding (ho : source.Orderly) (hb : b.Quiescent maxIdle) (pipeline : Pipeline)
    {containerId : Int} (hid : Decimal.isOverlong containerId = false)
    {body : Handle (Numbered κ) → Flow (Ledger σ κ) α} (hbody : ∀ handle, Still (body handle)) :
    Leads ((s.pooled source maxIdle).holding pipeline containerId body) b fun _ b' =>
      b'.Quiescent maxIdle := by
  refine .bind (Source.leads_acquire_lent ho hb pipeline hid).bookkeeping ?_ ?_
  · rintro f b' (⟨a, ha, -⟩ | ⟨f, f', -, ⟨-, -, rfl⟩ | ⟨a, ha, -⟩⟩)
    · cases ha
    · exact hb
    · cases ha
  · rintro handle b' (⟨a, ha, ⟨f, hf, -⟩ | ⟨a', ha', hlent⟩⟩ | ⟨f, f', hf, -⟩)
    · cases hf
    · cases ha
      cases ha'
      refine .andFinally (hbody handle b') ?_
      rintro o _ rfl
      refine .mono (Source.leads_release ho handle).bookkeeping ?_
      rintro o' b'' (⟨-, -, -, hchange⟩ | ⟨-, -, -, -, hchange⟩) <;> exact hlent.release hchange
    · cases hf

/-- A call on a container that the caller names and that runs on a handle. -/
theorem leads_named (ho : source.Orderly) (ht : ∀ c ∈ s.telemetry, c.Discreet)
    (hb : b.Quiescent maxIdle) (name : String) (containerId : Int) (rest : List (String × Value))
    (pipeline : Pipeline) {body : Handle (Numbered κ) → Flow (Ledger σ κ) α}
    (hbody : ∀ handle, Still (body handle)) :
    Leads ((s.pooled source maxIdle).component.call name (("container_id", .int containerId) :: rest)
        ((s.pooled source maxIdle).holding pipeline containerId body)) b fun _ b' =>
      b'.Quiescent maxIdle := by
  refine .call (R := fun b' => b'.Quiescent maxIdle)
    (discreet_telemetry_pooled ht source maxIdle) hb _ _ ?_
  rintro ⟨labels, hlabels⟩
  cases hid : Decimal.isOverlong containerId with
  | true =>
    -- what cannot be written is not referred to, and no handle is acquired
    rw [List.map_cons, Instrument.references_overlong hid] at hlabels
    cases hlabels
  | false => exact leads_holding ho hb pipeline hid hbody

/-- Every operation on a container leads from a pool at rest to a pool at rest. -/
theorem ContainerOperation.leads_run (h : s.parts.Orderly) (ho : source.Orderly)
    (ht : ∀ c ∈ s.telemetry, c.Discreet) (hb : b.Quiescent maxIdle) (op : ContainerOperation) :
    Leads (op.run (s.pooled source maxIdle)) b fun _ b' => b'.Quiescent maxIdle := by
  cases op with
  | create owner type factor =>
    refine .bind (P := fun _ b' => b'.Quiescent maxIdle) ?_ (fun _ _ h => h) fun _ _ h => .pure h
    refine .call (R := fun b' => b'.Quiescent maxIdle)
      (discreet_telemetry_pooled ht source maxIdle) hb _ _ fun _ => ?_
    refine .bind (.zoom (h.writable (.allocate _ _ owner))) ?_ ?_
    · rintro f _ ⟨rfl, -⟩
      exact hb
    · rintro record _ ⟨rfl, x, hallocated⟩
      have hid := h.allocated _ _ owner x record hallocated
      refine .bind (leads_holding ho hb record.pipeline hid fun handle => ?_) (fun _ _ h => h)
        fun _ _ h => .pure h
      refine .bind (still_prepare h handle record.pipeline) fun _ => ?_
      refine .bind (still_notify h record.containerId .create .begun) fun _ => ?_
      refine .bind (still_newTrace h) fun trace => ?_
      refine .bind (.zoom (h.writable (.createData handle record.containerId trace))) fun _ => ?_
      exact .bind (still_notify h record.containerId .create .complete) fun _ =>
        .discreet (Log.discreet_logWith _ _ _ _)
  | close containerId pipeline =>
    refine leads_named ho ht hb _ containerId _ pipeline fun handle => ?_
    refine .bind (still_notify h containerId .close .begun) fun _ => ?_
    refine .bind (still_newTrace h) fun trace => ?_
    refine .bind (.zoom (h.writable (.closeData handle containerId trace))) fun _ => ?_
    exact .bind (still_notify h containerId .close .complete) fun _ =>
      .discreet (Log.discreet_logWith _ _ _ _)
  | delete containerId pipeline force =>
    refine leads_named ho ht hb _ containerId _ pipeline fun handle => ?_
    refine .bind (still_newTrace h) fun trace => ?_
    refine .bind (.zoom (h.writable (.deleteData handle containerId _ trace))) fun _ => ?_
    exact .bind (.zoom (h.writable (.deleteRecord containerId))) fun _ =>
      .discreet (Log.discreet_logWith _ _ _ _)
  | read containerId pipeline =>
    refine .bind (leads_named ho ht hb _ containerId _ pipeline fun handle => ?_)
      (fun _ _ h => h) fun _ _ h => .pure h
    refine .bind (still_newTrace h) fun trace => ?_
    refine .bind (.zoom (h.writable (.readData handle containerId trace))) fun data => ?_
    exact .bind (.discreet (Log.discreet_logWith _ _ _ _)) fun _ => .pure data

/-! ## All operations -/

/-- Shutting down closes every client that is open, whether or not the placement service can be let
go of. -/
theorem leads_shutDown (h : s.parts.Orderly) (ho : source.Orderly) (hb : b.Balanced) :
    Leads (s.pooled source maxIdle).shutDown b fun _ b' =>
      b'.Quiescent maxIdle ∧ b'.pool.tracked = [] := by
  refine .bind (Source.leads_close ho) ?_ ?_
  · rintro f b' ⟨hf, -⟩
    cases hf
  · rintro _ b' ⟨-, hchange⟩
    refine .mono (Still.zoom (h.writable .closePlacement) b') ?_
    rintro o _ rfl
    exact hchange.quiescent_of_close hb

/-- Every operation leads from a pool at rest to a pool at rest. -/
theorem Operation.leads_run (h : s.parts.Orderly) (ho : source.Orderly)
    (ht : ∀ c ∈ s.telemetry, c.Discreet) (hb : b.Quiescent maxIdle) (op : Operation) :
    Leads (op.run (s.pooled source maxIdle)) b fun _ b' => b'.Quiescent maxIdle := by
  have hstill : ∀ {α : Type} {body : Flow (Ledger σ κ) α}, Still body →
      Leads (do let _ ← body) b fun _ b' => b'.Quiescent maxIdle := by
    intro α body hbody
    refine .mono (Still.bind hbody (fun _ => .pure ()) b) ?_
    rintro o _ rfl
    exact hb
  cases op with
  | container op => exact op.leads_run h ho ht hb
  | get containerId =>
    exact hstill (still_call ht _ _ (.zoom (h.writable (.getRecord containerId))))
  | list start count => exact hstill (still_call ht _ _ (still_listRecords h start count))
  | queryNodes states scope pool =>
    exact hstill (still_call ht _ _ (.zoom (h.writable (.queryNodes states scope pool))))
  | replicate type factor nodes =>
    exact hstill (still_call ht _ _ (.zoom (h.writable (.replicate type factor nodes))))
  | size containerId =>
    refine hstill (still_call ht _ _ ?_)
    split
    · exact .throw _
    · exact .pure _
  | shutDown => exact .mono (leads_shutDown h ho hb.balanced) fun _ _ h => h.1

/-- After any operations the pool is at rest. -/
theorem quiescent_after (h : s.parts.Orderly) (ho : source.Orderly)
    (ht : ∀ c ∈ s.telemetry, c.Discreet) (ops : List Operation) {x : Session (Ledger σ κ)}
    (hx : Log.Writable x) (hb : x.world.books.Quiescent maxIdle) :
    Log.Writable ((s.pooled source maxIdle).after ops x) ∧
      ((s.pooled source maxIdle).after ops x).world.books.Quiescent maxIdle := by
  induction ops generalizing x with
  | nil => exact ⟨hx, hb⟩
  | cons op r ih =>
    obtain ⟨ht', hb'⟩ := op.leads_run h ho ht hb x hx rfl
    exact ih ht' hb'

theorem orderly_laidDown {answer : (step : Step (Handle (Numbered κ))) → Except Failure step.Result}
    (h : ∀ type factor owner record, answer (.allocate type factor owner) = .ok record →
      Decimal.isOverlong record.containerId = false) (trace : String) :
    (laidDown answer trace).Orderly where
  writable step s hs := by
    rw [perform_laidDown]
    exact hs
  writable_newTrace _ hs := hs
  allocated type factor owner _ record hr := h type factor owner record hr

/-- A placement service that allocates one container over and over and hears reports, and datanodes
that only close containers. -/
def allocating (record : ContainerRecord) :
    (step : Step (Handle (Numbered Unit))) → Except Failure step.Result
  | .allocate .. => .ok record
  | .notify _ => .ok ()
  | .closeData .. => .ok ()
  | .release _ => .ok ()
  | .closePool => .ok ()
  | .acquire .. => .error noNodes
  | .deleteRecord _ => .error noNodes
  | .getRecord _ => .error noNodes
  | .listRecords .. => .error noNodes
  | .queryNodes .. => .error noNodes
  | .replicate .. => .error noNodes
  | .closePlacement => .error noNodes
  | .createPipeline .. => .error noNodes
  | .createData .. => .error noNodes
  | .readData .. => .error noNodes
  | .deleteData .. => .error noNodes

end Service

end Stowage
