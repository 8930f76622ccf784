import Stowage.Proofs.Service.Errands

/-!
Operations that find the pool empty.

A handle that is acquired from an empty pool is for the node that requests to the pipeline go to
(`serves_acquired`); so the errands of an operation are known from its arguments. What comes before
the handle is acquired leaves the pool alone (`Spares`). Where the arguments come with a record that
is found first, the errands depend on what the first answer tells (`Led`).
-/

namespace Stowage

open Http (Client Url)

instance : Inhabited ContainerRecord where
  default := ⟨0, ⟨none, [], "", .allocated, .standAlone, .one, .inl rfl⟩, .allocated, 0, 0, 0, ""⟩

namespace Service

/-! ## Handles of an empty pool -/

section Handles

variable {own : ContainerOperationsSettings} {placement : PlacementSettings}
  {nodes : DatanodeSettings} {client : Client} {telemetry : List (Instrument.Concern World)}
  {pipeline : Pipeline} {containerId : Int} {s t : Session World} {handle : NetworkHandle}
  {script : List Http.Answer} {start : Nat} {errands : List Errand} {α : Type}

theorem openClient_of_connect {σ κ : Type} {c : Pool.Connector σ κ} {s t : Session σ} {client : κ}
    (h : (c.connect pipeline).runFrom s = (.ok client, t)) :
    (c.openClient pipeline).runFrom s = (.ok client, t) := by
  unfold Pool.Connector.connect at h
  rw [Flow.runFrom_bind_ok (Flow.runFrom_attempt _ s)] at h
  generalize (c.openClient pipeline).runFrom s = r at h ⊢
  rcases r with ⟨f | opened, u⟩
  · cases h
  · exact h

/-- A client that is opened for a pipeline serves the node that requests to the pipeline go to. -/
theorem serves_opened
    (h : ((Pool.overNetwork World.poolSlot World.networkSlot nodes).openClient pipeline).runFrom s =
      (.ok client, t)) : Serves client (Recipient.address placement nodes) (.node pipeline) := by
  obtain ⟨url, u, hurl, hconnect⟩ := Flow.exists_of_bind_ok h
  obtain ⟨hheaders, hbase, -, -⟩ := connect_client hconnect
  exact ⟨hheaders, url, (Prod.mk.inj hurl).1, hbase⟩

theorem serves_handle (hpool : s.world.pool.cached = [])
    (h : ((Pool.overNetwork World.poolSlot World.networkSlot nodes).openHandle s.world.pool
      pipeline).runFrom s = (.ok handle, t)) :
    Serves handle.client (Recipient.address placement nodes) (.node pipeline) := by
  obtain ⟨client, u, hconnect, hrest⟩ := Flow.exists_of_bind_ok h
  have hfind : s.world.pool.find? pipeline.key = none := by
    rw [Pool.find?, hpool]
    rfl
  obtain ⟨_, v, -, hrest⟩ := Flow.exists_of_bind_ok hrest
  -- no handle makes way, so that opening it is all that has happened
  rw [hfind, Flow.runFrom_pure] at hrest
  rw [← Except.ok.inj (Prod.mk.inj hrest).1]
  exact serves_opened (openClient_of_connect hconnect)

/-- A handle that is acquired from an empty pool is for the node that requests to the pipeline go
to. -/
theorem serves_acquired (hpool : s.world.pool.cached = [])
    (h : ((Pool.overNetwork World.poolSlot World.networkSlot nodes).acquire pipeline
      containerId).runFrom s = (.ok handle, t)) :
    Serves handle.client (Recipient.address placement nodes) (.node pipeline) := by
  unfold Pool.Connector.acquire at h
  by_cases hkey : pipeline.key = ""
  · simp only [hkey, if_true] at h
    cases h
  · simp only [hkey, if_false] at h
    obtain ⟨pool, u, hlook, h⟩ := Flow.exists_of_bind_ok h
    cases hlook
    have hcurrent : s.world.pool.current? pipeline = none := by
      rw [Pool.current?, Pool.find?, hpool]
      rfl
    have hget : (Pool.overNetwork World.poolSlot World.networkSlot nodes).slot.get s.world =
      s.world.pool := rfl
    rw [hget, hcurrent] at h
    obtain ⟨opened, v, hopen, h⟩ := Flow.exists_of_bind_ok h
    obtain ⟨_, w, -, h⟩ := Flow.exists_of_bind_ok h
    rw [← Except.ok.inj (Prod.mk.inj h).1]
    exact serves_handle hpool hopen

theorem runFrom_of_bookkeeping {σ α : Type} {step : Flow σ α} {s t : Session σ} {a : α}
    (h : (bookkeeping step).runFrom s = (.ok a, t)) : step.runFrom s = (.ok a, t) := by
  unfold bookkeeping at h
  rw [Flow.runFrom_bind_ok (Flow.runFrom_attempt step s)] at h
  generalize step.runFrom s = r at h ⊢
  rcases r with ⟨f | b, u⟩
  · cases h
  · exact h

theorem runsAt_holding (hs : (sent script start 0 False).holds s)
    (hpool : s.world.pool.cached = []) {body : NetworkHandle → Flow World α}
    (hbody : ∀ handle : NetworkHandle,
      Serves handle.client (Recipient.address placement nodes) (.node pipeline) →
        Runs (Recipient.address placement nodes) errands (body handle)) :
    (sent script start 0 False).AddsAt s
      ((overNetwork own client nodes telemetry).holding pipeline containerId body) fun o more =>
        Carried (Recipient.address placement nodes) errands o.isOk more := by
  refine .bind ((adds_acquire_over pipeline containerId).addsAt hs) ?_ ?_
  · rintro f more rfl
    exact .stopped _
  · rintro handle more t hr ht rfl
    have hserves : Serves handle.client (Recipient.address placement nodes) (.node pipeline) :=
      serves_acquired hpool (runFrom_of_bookkeeping hr)
    exact (Gauge.Adds.andFinally_nil (hbody handle hserves script start) (adds_release_over handle)
      fun _ _ _ hcarried => hcarried.failed).addsAt ht

end Handles

/-! ## What leaves the pool alone -/

/-- The handles that the pool has cached. -/
def cached : Gauge World NetworkHandle where
  holds _ := True
  list s := s.world.pool.cached
  writable := False
  holds_alike _ _ := trivial
  list_alike h := by rw [h.world]
  log_writable := False.elim

/-- A flow that leaves the cached handles as they are. -/
def Spares {α : Type} (body : Flow World α) : Prop := cached.Adds body fun _ more => more = []

namespace Spares

variable {α β : Type} {body : Flow World α}

theorem cached_eq (h : Spares body) (s : Session World) :
    (body.runFrom s).2.world.pool.cached = s.world.pool.cached := by
  obtain ⟨-, more, hlist, rfl⟩ := h s trivial
  exact hlist.trans (List.append_nil _)

theorem ofExcept (outcome : Except Failure α) : Spares (Flow.ofExcept outcome) :=
  Gauge.Adds.ofExcept rfl

theorem throw (f : Failure) : Spares (MonadExcept.throw f : Flow World α) :=
  Gauge.Adds.throw rfl

theorem bind {next : α → Flow World β} (hb : Spares body) (hn : ∀ a, Spares (next a)) :
    Spares (body >>= next) :=
  .bind_nil hb hn

theorem call {c : Instrument.Component World} (hb : Spares body)
    (hc : ∀ d ∈ c.telemetry, d.Discreet) (name : String) (supplied : List (String × Value)) :
    Spares (c.call name supplied body) := fun _ hs =>
  Gauge.AddsAt.call (P := fun _ more => more = []) hs (fun _ _ => hb.addsAt trivial)
    (fun _ => rfl) (fun _ _ _ h => h) hc name supplied

theorem send (request : Http.Request) : Spares (Http.Network.send World.networkSlot request) := by
  intro s _
  unfold Http.Network.send
  rw [Flow.runFrom_bind_ok (Flow.runFrom_look _ s)]
  split <;> exact ⟨trivial, [], (List.append_nil _).symm, rfl⟩

theorem exchange (client : Client) (ask : Http.Ask) :
    Spares (client.exchange World.networkSlot ask) := by
  unfold Client.exchange
  cases client.carrier with
  | broken kind message => exact .throw _
  | connection number =>
    refine .bind (.ofExcept _) fun request => .bind (.send request) fun answer => ?_
    cases answer with
    | unanswered kind message => exact .throw _
    | badUrl message => exact .throw _
    | response packed =>
      refine .bind (.ofExcept _) fun response => .bind (.ofExcept _) fun _ => ?_
      split
      · exact .throw _
      · exact .ofExcept _

theorem storageCall (client : Client) (operation : String) (ask : Http.Ask) :
    Spares (Http.Storage.call World.networkSlot client operation ask) := by
  have h : Spares (client.askJson World.networkSlot ask) :=
    .bind (.exchange client ask) fun _ => .ofExcept _
  -- what is said of a failure differs, but the session is the one after asking
  exact fun s _ => ⟨trivial, [], (h.cached_eq s).trans (List.append_nil _).symm, rfl⟩

end Spares

section Finding

variable {own : ContainerOperationsSettings} {nodes : DatanodeSettings} {client : Client}
  {telemetry : List (Instrument.Concern World)} (ht : ∀ c ∈ telemetry, c.Discreet)

include ht

theorem spares_allocate (type : ReplicationType) (factor : ReplicationFactor) (owner : String) :
    Spares ((placementOver client telemetry).allocate type factor owner) :=
  .call (.bind (.storageCall _ _ _) fun _ => .ofExcept _) ht _ _

theorem spares_get (containerId : Int) :
    Spares ((overNetwork own client nodes telemetry).get containerId) :=
  .call (.call (.bind (.ofExcept _) fun _ => .bind (.storageCall _ _ _) fun _ => .ofExcept _) ht _ _)
    ht _ _

theorem finds_get {address : Recipient → Except Failure String}
    (hs : Serves client address .placement) (containerId : Int) :
    Finds address (.getRecord containerId)
      ((overNetwork own client nodes telemetry).get containerId) :=
  .call (finds_getRecord ht hs containerId) ht _ _

end Finding

/-! ## Errands that depend on a record -/

/-- What has been sent on errands of which all but the first depend on the record that the answer to
the first one tells. -/
def Led (address : Recipient → Except Failure String) (errands : ContainerRecord → List Errand)
    (wholly : Bool) (more : List Sending) : Prop :=
  ∃ record, (1 < more.length → more.head?.bind Sending.record? = some record) ∧
    Carried address (errands record) wholly more

section Led

variable {address : Recipient → Except Failure String} {errands : ContainerRecord → List Errand}
  {wholly : Bool} {more : List Sending} {α : Type} {script : List Http.Answer} {start : Nat}
  {s : Session World}

theorem Led.failed (h : Led address errands wholly more) : Led address errands false more := by
  obtain ⟨record, hrecord, hcarried⟩ := h
  exact ⟨record, hrecord, hcarried.failed⟩

theorem Led.ended (h : Led address errands true more) (wholly : Bool) :
    Led address errands wholly more := by
  cases wholly with
  | true => exact h
  | false => exact h.failed

theorem Led.stopped (address : Recipient → Except Failure String)
    (errands : ContainerRecord → List Errand) : Led address errands false [] :=
  ⟨default, fun h => absurd h (by decide), .stopped _⟩

/-- Where there is one errand at most, no record is asked for. -/
theorem Led.of_short {short : List Errand} (hshort : short.length ≤ 1)
    (h : Carried address short wholly more) : Led address (fun _ => short) wholly more := by
  refine ⟨default, fun hlength => ?_, h⟩
  have hle := h.length_le
  omega

/-- A record is found, and what is done then depends on it. -/
theorem led_bind {e : Errand} {later : ContainerRecord → List Errand}
    {find : Flow World ContainerRecord} {next : ContainerRecord → Flow World α}
    (hfind : Finds address e find) (hspares : Spares find)
    (hs : (sent script start 0 False).holds s) (hpool : s.world.pool.cached = [])
    (hnext : ∀ record t, (sent script start 0 False).holds t → t.world.pool.cached = [] →
      (sent script start 0 False).AddsAt t (next record) fun o more =>
        Carried address (later record) o.isOk more) :
    (sent script start 0 False).AddsAt s (find >>= next) fun o more =>
      Led address (fun record => e :: later record) o.isOk more := by
  refine .bind ((hfind script start).addsAt hs) (fun f more h => ?_) fun record more t hr ht h => ?_
  · -- one request has been sent at most, so that no record is asked for
    refine ⟨default, fun hlength => ?_, h.carried.left _⟩
    have hle := h.carried.length_le
    simp only [List.length_singleton] at hle
    omega
  · have ht' : t.world.pool.cached = [] := by
      have hkept := hspares.cached_eq s
      rw [hr] at hkept
      exact hkept.trans hpool
    refine (hnext record t ht ht').mono fun o rest hrest => ⟨record, fun _ => ?_, ?_⟩
    · obtain ⟨sending, rfl, hrecord⟩ := h.told record rfl
      exact hrecord
    · exact h.carried.append hrest

theorem led_get {own : ContainerOperationsSettings} {nodes : DatanodeSettings} {client : Client}
    {telemetry : List (Instrument.Concern World)} (ht : ∀ c ∈ telemetry, c.Discreet)
    (hclient : Serves client address .placement) {later : ContainerRecord → List Errand}
    {next : ContainerRecord → Flow World α} (hs : (sent script start 0 False).holds s)
    (hpool : s.world.pool.cached = []) (containerId : Int)
    (hnext : ∀ record t, (sent script start 0 False).holds t → t.world.pool.cached = [] →
      (sent script start 0 False).AddsAt t (next record) fun o more =>
        Carried address (later record) o.isOk more) :
    (sent script start 0 False).AddsAt s
      ((overNetwork own client nodes telemetry).get containerId >>= next) fun o more =>
        Led address (fun record => .getRecord containerId :: later record) o.isOk more :=
  led_bind (finds_get ht hclient containerId) (spares_get ht containerId) hs hpool hnext

end Led

/-! ## Operations from an empty pool -/

section Operations

variable {own : ContainerOperationsSettings} {placement : PlacementSettings}
  {nodes : DatanodeSettings} {client : Client} {telemetry : List (Instrument.Concern World)}
  {script : List Http.Answer} {start : Nat} {s : Session World}
  (ht : ∀ c ∈ telemetry, c.Discreet)
  (hclient : Serves client (Recipient.address placement nodes) .placement)
  (hs : (sent script start 0 False).holds s) (hpool : s.world.pool.cached = [])

include ht hs hpool

theorem runsAt_call {pipeline : Pipeline} {containerId : Int} {errands : List Errand} {α : Type}
    {body : NetworkHandle → Flow World α} (name : String) (supplied : List (String × Value))
    (hbody : ∀ handle : NetworkHandle,
      Serves handle.client (Recipient.address placement nodes) (.node pipeline) →
        Runs (Recipient.address placement nodes) errands (body handle)) :
    (sent script start 0 False).AddsAt s
      ((overNetwork own client nodes telemetry).component.call name supplied
        ((overNetwork own client nodes telemetry).holding pipeline containerId body)) fun o more =>
          Carried (Recipient.address placement nodes) errands o.isOk more := by
  refine Gauge.AddsAt.call (P := fun o more =>
      Carried (Recipient.address placement nodes) errands o.isOk more) hs (fun s₁ ha => ?_)
    (fun _ => .stopped _) (fun _ _ _ h => h.failed) ht name supplied
  refine runsAt_holding (Gauge.holds_alike _ ha hs) ?_ hbody
  rw [ha.world]
  exact hpool

theorem runsAt_read (containerId : Int) (pipeline : Pipeline) :
    (sent script start 0 False).AddsAt s
      ((overNetwork own client nodes telemetry).read containerId pipeline) fun o more =>
        Carried (Recipient.address placement nodes) [.data pipeline "GET" "" containerId]
          o.isOk more := by
  refine runsAt_call ht hs hpool _ _ fun handle hh => ?_
  refine .first (.of_undisturbed fun s => newTrace_undisturbed s) fun trace => ?_
  refine .last (runs_readData ht hh containerId trace) fun data => ?_
  exact .bind (.discreet (Log.discreet_logWith _ _ _ _)) fun _ => .ofExcept _

include hclient

theorem runsAt_close (containerId : Int) (pipeline : Pipeline) :
    (sent script start 0 False).AddsAt s
      ((overNetwork own client nodes telemetry).close containerId pipeline) fun o more =>
        Carried (Recipient.address placement nodes) (Errand.reported containerId .close
          (.data pipeline "POST" "/close" containerId)) o.isOk more := by
  refine runsAt_call ht hs hpool _ _ fun handle hh => ?_
  exact runs_reported ht hclient containerId .close
    (fun trace => runs_closeData ht hh containerId trace) (.discreet (Log.discreet_logWith _ _ _ _))

theorem runsAt_delete (containerId : Int) (pipeline : Pipeline) (force : Bool) :
    (sent script start 0 False).AddsAt s
      ((overNetwork own client nodes telemetry).delete containerId pipeline (some force))
      fun o more => Carried (Recipient.address placement nodes)
        [.deleteData pipeline containerId force, .deleteRecord containerId] o.isOk more := by
  refine runsAt_call ht hs hpool _ _ fun handle hh => ?_
  refine .first (.of_undisturbed fun s => newTrace_undisturbed s) fun trace => ?_
  refine .bind (runs_deleteData ht hh containerId force trace) fun _ => ?_
  exact .last (runs_deleteRecord ht hclient containerId) fun _ =>
    .discreet (Log.discreet_logWith _ _ _ _)

theorem runsAt_create (owner : String) (type : Option ReplicationType)
    (factor : Option ReplicationFactor) :
    (sent script start 0 False).AddsAt s
      ((overNetwork own client nodes telemetry).create owner type factor) fun o more =>
        Led (Recipient.address placement nodes) (fun record =>
          .allocate (type.getD own.defaultReplicationType)
              (factor.getD own.defaultReplicationFactor) owner ::
            (Errand.preparation record.pipeline ++ Errand.reported record.containerId .create
              (.data record.pipeline "PUT" "" record.containerId))) o.isOk more := by
  refine Gauge.AddsAt.call (P := fun o more => Led _ _ o.isOk more) hs (fun s₁ ha => ?_)
    (fun _ => .stopped _ _) (fun _ _ _ h => h.failed) ht _ _
  have hpool₁ : s₁.world.pool.cached = [] := by
    rw [ha.world]
    exact hpool
  refine led_bind (finds_allocate ht hclient _ _ owner) (spares_allocate ht _ _ owner)
    (Gauge.holds_alike _ ha hs) hpool₁ fun record t hholds hp => ?_
  refine .last (fun _ h => h.failed) (runsAt_holding hholds hp fun handle hh => ?_)
    fun _ t ht => .mono (Gauge.Adds.pure rfl t ht) fun _ _ h => h
  refine .bind (runs_prepare ht hh) fun _ => ?_
  exact runs_reported ht hclient record.containerId .create
    (fun trace => runs_createData ht hh record.containerId trace)
    (.discreet (Log.discreet_logWith _ _ _ _))

end Operations

end Service

end Stowage
