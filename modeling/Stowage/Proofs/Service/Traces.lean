import Stowage.Proofs.Pool.Attached
import Stowage.Proofs.Service.Calls
import Stowage.Proofs.Service.Confirmed
import Stowage.Proofs.Service.Quiescent

/-!
Trace identifiers are fresh.

Every call on the data of a container is given a trace identifier of its own: those that are given
are the identifiers of the source one after the other, none left out, and each of them travels in
the header of the one request that its call sends (`traces_fresh`). The statement is about a service
that is watched, so that what has been sent can be told apart by the calls it was sent for.

The invariant is `Steady`. It is broken between the moment that an identifier is drawn and the call
that it is given to, and these two make one step (`keeps_traced`); that the request of the call can
be sent is due to the handle, whose connection is open while it is held.
-/

namespace Stowage

open Http (Client Request)

/-- The trace identifiers that come next, as many as `n`. -/
def World.issued (w : World) (n : Nat) : List String :=
  (List.range n).map fun k => w.traceOf (w.traces + k)

theorem World.issued_succ (w : World) (n : Nat) :
    w.issued (n + 1) = w.issued n ++ [w.traceOf (w.traces + n)] := by
  simp [issued, List.range_succ]

/-- Identifiers of a source that never repeats itself do not repeat. -/
theorem World.nodup_issued {w : World} (h : Function.Injective w.traceOf) (n : Nat) :
    (w.issued n).Nodup := by
  refine List.Nodup.map (fun i j hij => ?_) List.nodup_range
  have hsame := h hij
  omega

namespace Service

/-! ## The mirror of a run -/

theorem Operation.mirrors_run {σ η : Type} (s : Service σ η) (op : Operation) :
    Flow.Mirrors Watched.slot (op.run s.watched) (op.run s) := by
  cases op with
  | container op => exact op.mirrors_run s
  | get containerId => exact .bind (s.mirrors_get containerId) fun _ => .pure ()
  | list start count => exact .bind (s.mirrors_list start count) fun _ => .pure ()
  | queryNodes states scope pool =>
    exact .bind (s.mirrors_queryNodes states scope pool) fun _ => .pure ()
  | replicate type factor nodes =>
    exact .bind (s.mirrors_replicate type factor nodes) fun _ => .pure ()
  | size containerId => exact .bind (s.mirrors_size containerId) fun _ => .pure ()
  | shutDown => exact s.mirrors_shutDown

/-- A session whose calls are to be written down. -/
def opening {σ : Type} (η : Type) (x : Session σ) : Session (Watched σ η) :=
  x.withWorld { inner := x.world }

/-- What a service that is watched has come to after some operations is what the service itself has
come to. -/
theorem after_watched {σ η : Type} (s : Service σ η) (ops : List Operation)
    (x : Session (Watched σ η)) :
    (s.watched.after ops x).view Watched.slot = s.after ops (x.view Watched.slot) := by
  induction ops generalizing x with
  | nil => rfl
  | cons op r ih =>
    have hop := congrArg Prod.snd (op.mirrors_run s x)
    exact (ih _).trans (congrArg (s.after r) hop.symm)

/-! ## The invariant -/

section Steady

variable {own : ContainerOperationsSettings} {placement client : Client} {nodes : DatanodeSettings}
  {telemetry : List (Instrument.Concern World)} {start : Session World} {number : Nat}
  {held : List NetworkHandle} {handle : NetworkHandle} {step : Step NetworkHandle}
  {m : RemoteMethod} {α β : Type} {s : Session (Watched World NetworkHandle)}

/-- The trace identifiers that calls have been given, in order. -/
def tracesOf {η : Type} (calls : List (Exchange η)) : List String :=
  calls.filterMap fun e => e.step.trace?

/-- The calls that have been written down account for the trace identifiers that have been drawn and
for the requests that have been sent since `start`. -/
structure Accounted (placement : Client) (start : Session World)
    (s : Session (Watched World NetworkHandle)) : Prop where
  source : s.world.inner.traceOf = start.world.traceOf
  drawn : ∃ n, s.world.inner.traces = start.world.traces + n ∧
    tracesOf s.world.calls = start.world.issued n
  sent : ∃ sent, List.Forall₂ (fun e => Sends placement e.step) s.world.calls sent ∧
    s.requests = start.requests ++ sent.flatten

/-- A call that has been given no trace identifier, or the one that was to come. -/
def Draws (step : Step NetworkHandle) (w w' : World) : Prop :=
  w'.traceOf = w.traceOf ∧ ((step.trace? = none ∧ w'.traces = w.traces) ∨
    step.trace? = some (w.traceOf w.traces) ∧ w'.traces = w.traces + 1)

/-- The next call is written down. -/
theorem Accounted.written (h : Accounted placement start s) {t : Session World}
    (result : Except Failure step.Result) (hdraws : Draws step s.world.inner t.world)
    (hsends : ∃ rs, Sends placement step rs ∧ t.requests = s.requests ++ rs) :
    Accounted placement start
      (t.withWorld { inner := t.world, calls := s.world.calls ++ [⟨step, result⟩] }) where
  source := hdraws.1.trans h.source
  drawn := by
    obtain ⟨n, hn, hcalls⟩ := h.drawn
    have happend : ∀ more, tracesOf (s.world.calls ++ more) =
        start.world.issued n ++ tracesOf more := by
      intro more
      rw [tracesOf, List.filterMap_append]
      exact congrArg (· ++ _) hcalls
    change ∃ n, t.world.traces = _ ∧ tracesOf (s.world.calls ++ [⟨step, result⟩]) = _
    -- A call draws no identifier, or the one that the source gives next.
    rcases hdraws.2 with ⟨hnone, htraces⟩ | ⟨hsome, htraces⟩
    · refine ⟨n, htraces.trans hn, ?_⟩
      rw [happend]
      simp [tracesOf, hnone]
    · refine ⟨n + 1, by omega, ?_⟩
      rw [happend, World.issued_succ, ← hn, ← h.source]
      simp [tracesOf, hsome]
  sent := by
    obtain ⟨sent, hsent, hrequests⟩ := h.sent
    obtain ⟨rs, hrs, hmore⟩ := hsends
    refine ⟨sent ++ [rs], List.rel_append hsent (.cons hrs .nil), ?_⟩
    change t.requests = _
    rw [hmore, hrequests]
    simp

/-- What holds while the service runs: the calls account for what has been drawn and sent, every
handle has a connection, and handles that are held can be used. -/
structure Steady (number : Nat) (placement : Client) (start : Session World)
    (held : List NetworkHandle) (s : Session (Watched World NetworkHandle)) : Prop where
  writable : Log.Writable s
  attached : Pool.Attached number s.world.inner
  held : ∀ handle ∈ held, s.world.inner.Serviceable handle.client
  accounted : Accounted placement start s

/-- A service is steady at first. -/
theorem Steady.opening (hs : Log.Writable start) (hattached : Pool.Attached number start.world) :
    Steady number placement start [] (opening NetworkHandle start) where
  writable := hs
  attached := hattached
  held := List.forall_mem_nil _
  accounted := ⟨rfl, ⟨0, rfl, rfl⟩, [], .nil, (List.append_nil _).symm⟩

theorem Steady.alike {t : Session (Watched World NetworkHandle)} (ha : s.Alike t)
    (h : Steady number placement start held s) : Steady number placement start held t where
  writable := h.writable.alike ha
  attached := ha.world ▸ h.attached
  held := ha.world ▸ h.held
  accounted := by
    refine ⟨ha.world ▸ h.accounted.source, ha.world ▸ h.accounted.drawn, ?_⟩
    rw [ha.world, ha.requests]
    exact h.accounted.sent

/-- The calls that have been made, in sessions that are steady. -/
def steady (number : Nat) (placement : Client) (start : Session World)
    (held : List NetworkHandle) : Gauge (Watched World NetworkHandle) (Exchange NetworkHandle) where
  holds := Steady number placement start held
  list s := s.world.calls
  writable := True
  holds_alike := Steady.alike
  list_alike h := by rw [h.world]
  log_writable _ _ hs := hs.writable

/-- A flow that leaves steady sessions steady. -/
def Keeps (number : Nat) (placement : Client) (start : Session World) (held : List NetworkHandle)
    (body : Flow (Watched World NetworkHandle) α) : Prop :=
  (steady number placement start held).Adds body fun _ _ => True

namespace Keeps

variable {body : Flow (Watched World NetworkHandle) α}

theorem ofExcept (outcome : Except Failure α) :
    Keeps number placement start held (Flow.ofExcept outcome) :=
  Gauge.Adds.ofExcept trivial

theorem discreet (h : body.Discreet) : Keeps number placement start held body :=
  .mono (.discreet h) fun _ _ _ => trivial

theorem bind {next : α → Flow (Watched World NetworkHandle) β}
    (hb : Keeps number placement start held body)
    (hn : ∀ a, Keeps number placement start held (next a)) :
    Keeps number placement start held (body >>= next) :=
  Gauge.Adds.bind hb (fun _ _ _ => trivial) fun a _ _ => hn a

theorem bookkeeping (hb : Keeps number placement start held body) :
    Keeps number placement start held (Service.bookkeeping body) :=
  .mono (adds_bookkeeping hb) fun _ _ _ => trivial

theorem call (ht : ∀ c ∈ telemetry, c.Discreet) (name : String)
    (supplied : List (String × Value)) (hb : Keeps number placement start held body) :
    Keeps number placement start held
      ((overNetwork own placement nodes telemetry).watched.component.call name supplied body) :=
  fun _ hs => Gauge.AddsAt.call hs (fun _ ha => hb.addsAt ((steady ..).holds_alike ha hs))
    (fun _ => trivial) (fun _ _ _ _ => trivial) (discreet_telemetry_watched ht) name supplied

end Keeps

/-! ## Calls -/

/-- A call leaves the source of trace identifiers alone. -/
theorem Draws.of_untraced {w w' : World} (hstep : step.trace? = none)
    (hsource : w'.traceOf = w.traceOf ∧ w'.traces = w.traces) : Draws step w w' :=
  ⟨hsource.1, .inl ⟨hstep, hsource.2⟩⟩

/-- A watched call does to the world of the collaborators what the call does, and is written down.
The session that it is made in may differ from the last one that was accounted for in a trace
identifier that has been drawn. -/
theorem steady_watch (parts : Collaborators World NetworkHandle) (step : Step NetworkHandle)
    (h : Accounted placement start s) {d : Session (Watched World NetworkHandle)}
    (hcalls : d.world.calls = s.world.calls) {t : Session World}
    (hr : ((parts.perform step).runFrom (d.view Watched.slot)).2 = t)
    (hw : Log.Writable t) (hattached : Pool.Attached number t.world)
    (hdraws : Draws step s.world.inner t.world)
    (hsends : ∃ rs, Sends placement step rs ∧ t.requests = s.requests ++ rs)
    (hheld : ∀ handle ∈ held, t.world.Serviceable handle.client) :
    Steady number placement start held ((parts.watch step).runFrom d).2 := by
  subst hr
  refine ⟨hw, hattached, hheld, ?_⟩
  have hwritten := h.written ((parts.perform step).runFrom (d.view Watched.slot)).1 hdraws hsends
  rw [← hcalls] at hwritten
  exact hwritten

/-- A call of a method sends a request or none, which is all that it does. -/
theorem perform_sends (own : ContainerOperationsSettings) (nodes : DatanodeSettings)
    (ht : ∀ c ∈ telemetry, c.Discreet) (hmethod : step.method? placement = some (client, m))
    (hclient : client.headers = Placement.jsonHeaders) {y : Session World}
    (hy : Log.Writable y) (hopen : step.trace?.isSome → y.world.Serviceable client) :
    let t := (((overNetwork own placement nodes telemetry).parts.perform step).runFrom y).2
    Log.Writable t ∧ Pool.Closes y.world [] t.world ∧
      ∃ rs, Sends placement step rs ∧ t.requests = y.requests ++ rs := by
  intro t
  have hperform : t = ((m.run client telemetry).runFrom y).2 := perform_of_method? hmethod y
  rcases RemoteMethod.sends ht hy m client with ⟨ha, hnone⟩ | ⟨n, request, hasks, ha⟩
  · rw [← hperform] at ha
    refine ⟨hy.alike ha, ha.world ▸ .refl y.world [], [], .nothing ?_, ?_⟩
    · intro hsome other m' hmethod' n request hasks
      obtain ⟨rfl, rfl⟩ := Prod.mk.inj (Option.some.inj (hmethod'.symm.trans hmethod))
      obtain ⟨-, k, hcarrier, hk⟩ := hopen hsome
      have hnumber := Http.Carrier.connection.inj (hasks.1.symm.trans hcarrier)
      exact hnone n request hasks (hnumber ▸ hk)
    · rw [ha.requests, List.append_nil]
  · rw [← hperform] at ha
    refine ⟨(writable_afterSending hy).alike ha, ?_, [request], ?_, ?_⟩
    · rw [ha.world]
      exact .answered y.world
    · have htrace := (hasks.trace?_eq hclient).trans (trace?_of_method? hmethod).symm
      exact .request hmethod hasks htrace
    · rw [ha.requests]
      simp [Session.requests, afterSending, Event.request?]

section Keeping

variable (own : ContainerOperationsSettings) (nodes : DatanodeSettings)
  (telemetry : List (Instrument.Concern World))

/-- Acquiring keeps the service steady, and a handle that is given out can be used. -/
theorem steady_acquire (hs : Steady number placement start [] s) {pipeline : Pipeline}
    {containerId : Int} {o : Except Failure NetworkHandle}
    {t : Session (Watched World NetworkHandle)}
    (hr : ((overNetwork own placement nodes telemetry).parts.watch
      (.acquire pipeline containerId)).runFrom s = (o, t)) :
    Steady number placement start [] t ∧
      ∀ handle, o = .ok handle → t.world.inner.Serviceable handle.client := by
  obtain ⟨rfl, rfl⟩ := Prod.mk.inj hr
  obtain ⟨hquiet, hacquires⟩ : (s.view Watched.slot).Quiet _ ∧ Pool.Acquires nodes _ pipeline _ _ :=
    Pool.turns_acquire pipeline containerId (s.view Watched.slot) rfl
  have hsends : ∃ rs, Sends placement (.acquire pipeline containerId) rs ∧ _ = s.requests ++ rs :=
    ⟨[], .nothing fun h => (by cases h), hquiet.requests.trans (List.append_nil _).symm⟩
  refine ⟨steady_watch (overNetwork own placement nodes telemetry).parts
    (.acquire pipeline containerId) hs.accounted rfl rfl (hquiet.writable hs.writable)
    (hacquires.attached hs.attached) (.of_untraced rfl hacquires.source) hsends
    (List.forall_mem_nil _), fun handle hok => ?_⟩
  exact Pool.Acquires.serviceable (hok ▸ hacquires) hs.attached

/-- The other requests to the pool, and that the placement service is let go of. -/
theorem keeps_turns (step : Step NetworkHandle) (hstep : step.trace? = none)
    (h : ∀ w, Pool.Attached number w →
      Pool.Turns ((overNetwork own placement nodes telemetry).parts.perform step) w fun _ w' =>
        Pool.Attached number w' ∧ w'.traceOf = w.traceOf ∧ w'.traces = w.traces) :
    Keeps number placement start []
      ((overNetwork own placement nodes telemetry).parts.watch step) := by
  intro s hs
  obtain ⟨hquiet, hattached, hsource⟩ := h s.world.inner hs.attached (s.view Watched.slot) rfl
  refine ⟨steady_watch _ step hs.accounted rfl rfl (hquiet.writable hs.writable) hattached
    (.of_untraced hstep hsource) ⟨[], .nothing fun hsome => ?_, ?_⟩ (List.forall_mem_nil _),
    _, rfl, trivial⟩
  · rw [hstep] at hsome
    cases hsome
  · exact hquiet.requests.trans (List.append_nil _).symm

theorem keeps_release (handle : NetworkHandle) : Keeps number placement start []
    ((overNetwork own placement nodes telemetry).parts.watch (.release handle)) :=
  keeps_turns own nodes telemetry _ rfl fun _ hw => .mono (Pool.turns_release handle)
    fun _ _ h => ⟨h.attached hw, h.source⟩

theorem keeps_closePool : Keeps number placement start []
    ((overNetwork own placement nodes telemetry).parts.watch .closePool) :=
  keeps_turns own nodes telemetry _ rfl fun _ hw => .mono Pool.turns_close fun _ _ h => by
    have hsource := h.source
    exact ⟨hw.clear h, hsource⟩

theorem keeps_closePlacement (hcarrier : placement.carrier = .connection number) :
    Keeps number placement start []
      ((overNetwork own placement nodes telemetry).parts.watch .closePlacement) :=
  keeps_turns own nodes telemetry _ rfl fun _ hw => .mono (Pool.turns_closeClient placement)
    fun _ _ h =>
      ⟨hw.closes h fun _ hother => .inl (List.mem_singleton.1 hother ▸ hcarrier), h.source⟩

variable {telemetry} (ht : ∀ c ∈ telemetry, c.Discreet)
  (hheaders : placement.headers = Placement.jsonHeaders)
include ht

/-- A call with a trace identifier that has just been drawn. -/
theorem keeps_traced (act : String → Step NetworkHandle)
    {next : (trace : String) → (act trace).Result → Flow (Watched World NetworkHandle) α}
    (hact : ∀ trace, (act trace).trace? = some trace)
    (hmethod : ∀ trace, ∃ m, (act trace).method? placement = some (handle.client, m))
    (hnext : ∀ trace a, Keeps number placement start [handle] (next trace a)) :
    Keeps number placement start [handle] (do
      let trace ← (overNetwork own placement nodes telemetry).watched.parts.newTrace
      let a ← (overNetwork own placement nodes telemetry).parts.watch (act trace)
      next trace a) := by
  intro s hs
  let trace := s.world.inner.traceOf s.world.inner.traces
  let d : Session (Watched World NetworkHandle) :=
    { s with world := { s.world with
      inner := { s.world.inner with traces := s.world.inner.traces + 1 } } }
  have hnew : (overNetwork own placement nodes telemetry).watched.parts.newTrace.runFrom s =
    (.ok trace, d) := rfl
  have hserviceable : d.world.inner.Serviceable handle.client :=
    ⟨(hs.held handle List.mem_cons_self).headers, (hs.held handle List.mem_cons_self).connection⟩
  obtain ⟨m, hm⟩ := hmethod trace
  have hd : Log.Writable (d.view Watched.slot) := hs.writable
  obtain ⟨hw, hcloses, hsends⟩ := perform_sends own nodes ht hm hserviceable.headers hd
    fun _ => hserviceable
  have hcall : (steady number placement start [handle]).AddsAt d
      ((overNetwork own placement nodes telemetry).parts.watch (act trace)) fun _ _ => True :=
    ⟨steady_watch _ (act trace) hs.accounted rfl rfl hw
      (hs.attached.drawn.closes hcloses (List.forall_mem_nil _))
      ⟨hcloses.source.1, .inr ⟨hact trace, hcloses.source.2⟩⟩ hsends
      (List.forall_mem_singleton.2 (hserviceable.closes hcloses)), _, rfl, trivial⟩
  have hrest : (steady number placement start [handle]).AddsAt d (do
      let a ← (overNetwork own placement nodes telemetry).parts.watch (act trace)
      next trace a) fun _ _ => True :=
    hcall.bind (fun _ _ _ => trivial) fun a _ u _ hu _ => hnext trace a u hu
  unfold Gauge.AddsAt at hrest
  rw [Flow.runFrom_bind_ok hnew]
  exact hrest

include hheaders

/-- A call that is given no trace identifier, of the placement service or on a handle that is
held. -/
theorem keeps_untraced (step : Step NetworkHandle)
    (hmethod : step.method? placement = some (client, m))
    (hclient : client = placement ∨ ∃ handle ∈ held, handle.client = client)
    (hstep : step.trace? = none) : Keeps number placement start held
      ((overNetwork own placement nodes telemetry).parts.watch step) := by
  intro s hs
  have hjson : client.headers = Placement.jsonHeaders := by
    rcases hclient with rfl | ⟨handle, hmem, rfl⟩
    · exact hheaders
    · exact (hs.held handle hmem).headers
  have hw : Log.Writable (s.view Watched.slot) := hs.writable
  obtain ⟨hw, hcloses, hsends⟩ := perform_sends own nodes ht hmethod hjson hw
    fun hsome => (by rw [hstep] at hsome; cases hsome)
  exact ⟨steady_watch _ step hs.accounted rfl rfl hw
    (hs.attached.closes hcloses (List.forall_mem_nil _)) (.of_untraced hstep hcloses.source) hsends
    fun handle hmem => (hs.held handle hmem).closes hcloses, _, rfl, trivial⟩

/-! ## Operations -/

theorem keeps_notify (containerId : Int) (operation : StageOperation) (phase : StagePhase) :
    Keeps number placement start held
      ((overNetwork own placement nodes telemetry).watched.notify containerId operation phase) := by
  cases hid : Decimal.isOverlong containerId with
  | true =>
    rw [notify_of_overlong hid]
    exact .ofExcept _
  | false =>
    rw [notify_of_fits hid]
    exact keeps_untraced own nodes ht hheaders (.notify (stageEvent containerId operation phase))
      rfl (.inl rfl) rfl

theorem keeps_prepare (pipeline : Pipeline) : Keeps number placement start [handle]
    ((overNetwork own placement nodes telemetry).watched.prepare handle pipeline) := by
  unfold prepare materialize
  split
  · split
    · exact .ofExcept _
    · exact .ofExcept _
    · refine .bind (keeps_untraced own nodes ht hheaders
        (.createPipeline handle _ pipeline.members) rfl (.inr ⟨handle, ?_, rfl⟩) rfl) fun _ => ?_
      · exact List.mem_cons_self
      · exact .discreet (Log.discreet_logWith _ _ _ _)
  · exact .ofExcept _
  · exact .ofExcept _

omit ht hheaders in
/-- What is done on a handle keeps the service steady as long as the handle can be used. -/
theorem keeps_holding (pipeline : Pipeline) (containerId : Int)
    {body : NetworkHandle → Flow (Watched World NetworkHandle) α}
    (hbody : ∀ handle, Keeps number placement start [handle] (body handle)) :
    Keeps number placement start []
      ((overNetwork own placement nodes telemetry).watched.holding pipeline containerId body) := by
  intro s hs
  have hacquire : Keeps number placement start [] ((overNetwork own placement nodes
      telemetry).parts.watch (.acquire pipeline containerId)) := fun s hs =>
    ⟨(steady_acquire own nodes telemetry hs rfl).1, _, rfl, trivial⟩
  have hrelease : ∀ handle, Keeps number placement start [] (bookkeeping ((overNetwork own placement
      nodes telemetry).parts.watch (.release handle))) :=
    fun handle => (keeps_release own nodes telemetry handle).bookkeeping
  refine Gauge.AddsAt.bind (R := fun _ _ => True) (hacquire.bookkeeping.addsAt hs)
    (fun _ _ _ => trivial) fun handle _ t hr ht _ => ?_
  have hserviceable : t.world.inner.Serviceable handle.client :=
    (steady_acquire own nodes telemetry hs (runFrom_of_bookkeeping hr)).2 handle rfl
  obtain ⟨hu, more, hlist, -⟩ := hbody handle t
    ⟨ht.writable, ht.attached, List.forall_mem_singleton.2 hserviceable, ht.accounted⟩
  -- once the body has ended, nothing more is asked of the handle than that it can be released
  exact Gauge.AddsAt.andFinally (P := fun _ _ => True)
    ⟨⟨hu.writable, hu.attached, List.forall_mem_nil _, hu.accounted⟩, more, hlist, trivial⟩
    (fun u hu => (hrelease handle).addsAt hu) (fun _ _ _ _ _ => trivial)
    (fun _ _ _ _ _ _ => trivial)

/-- An action on data between the reports of its beginning and of its end. -/
theorem keeps_reported (containerId : Int) (operation : StageOperation)
    (act : String → Step NetworkHandle) (hact : ∀ trace, (act trace).trace? = some trace)
    (hmethod : ∀ trace, ∃ m, (act trace).method? placement = some (handle.client, m))
    {last : Flow (Watched World NetworkHandle) Unit} (hlast : last.Discreet) :
    Keeps number placement start [handle] (do
      (overNetwork own placement nodes telemetry).watched.notify containerId operation .begun
      let trace ← (overNetwork own placement nodes telemetry).watched.parts.newTrace
      let _ ← (overNetwork own placement nodes telemetry).parts.watch (act trace)
      (overNetwork own placement nodes telemetry).watched.notify containerId operation .complete
      last) :=
  .bind (keeps_notify own nodes ht hheaders containerId operation .begun) fun _ =>
    keeps_traced own nodes ht act hact hmethod fun _ _ =>
      .bind (keeps_notify own nodes ht hheaders containerId operation .complete) fun _ =>
        .discreet hlast

theorem ContainerOperation.keeps_run (op : ContainerOperation) : Keeps number placement start []
    (op.run (overNetwork own placement nodes telemetry).watched) := by
  cases op with
  | create owner type factor =>
    refine .bind (.call ht _ _ ?_) fun _ => .ofExcept _
    refine .bind (keeps_untraced own nodes ht hheaders (.allocate _ _ owner) rfl (.inl rfl) rfl)
      fun record => ?_
    refine .bind (keeps_holding own nodes record.pipeline record.containerId fun handle => ?_)
      fun _ => .ofExcept _
    refine .bind (keeps_prepare own nodes ht hheaders record.pipeline) fun _ => ?_
    exact keeps_reported own nodes ht hheaders record.containerId .create
      (fun trace => .createData handle record.containerId trace) (fun _ => rfl)
      (fun _ => ⟨_, rfl⟩) (Log.discreet_logWith _ _ _ _)
  | close containerId pipeline =>
    refine .call ht _ _ (keeps_holding own nodes pipeline containerId fun handle => ?_)
    exact keeps_reported own nodes ht hheaders containerId .close
      (fun trace => .closeData handle containerId trace) (fun _ => rfl)
      (fun _ => ⟨_, rfl⟩) (Log.discreet_logWith _ _ _ _)
  | delete containerId pipeline force =>
    refine .call ht _ _ (keeps_holding own nodes pipeline containerId fun handle => ?_)
    refine keeps_traced own nodes ht (fun trace => .deleteData handle containerId _ trace)
      (fun _ => rfl) (fun _ => ⟨_, rfl⟩) fun _ _ => ?_
    refine .bind (keeps_untraced own nodes ht hheaders (.deleteRecord containerId) rfl (.inl rfl)
      rfl) fun _ => ?_
    exact .discreet (Log.discreet_logWith _ _ _ _)
  | read containerId pipeline =>
    refine .bind (.call ht _ _ (keeps_holding own nodes pipeline containerId fun handle => ?_))
      fun _ => .ofExcept _
    refine keeps_traced own nodes ht (fun trace => .readData handle containerId trace)
      (fun _ => rfl) (fun _ => ⟨_, rfl⟩) fun _ data => ?_
    exact .bind (.discreet (Log.discreet_logWith _ _ _ _)) fun _ => .ofExcept _

theorem Operation.keeps_run (hcarrier : placement.carrier = .connection number)
    (op : Operation) : Keeps number placement start []
      (op.run (overNetwork own placement nodes telemetry).watched) := by
  have hasked : ∀ (step : Step NetworkHandle) {m : RemoteMethod} (name : String)
      (supplied : List (String × Value)), step.method? placement = some (placement, m) →
      step.trace? = none → Keeps number placement start [] (do
        let _ ← (overNetwork own placement nodes telemetry).watched.component.call name supplied
          ((overNetwork own placement nodes telemetry).parts.watch step)) :=
    fun step _ name supplied hmethod hstep => .bind (.call ht name supplied
      (keeps_untraced own nodes ht hheaders step hmethod (.inl rfl) hstep)) fun _ => .ofExcept _
  cases op with
  | container op => exact op.keeps_run own nodes ht hheaders
  | get containerId => exact hasked (.getRecord containerId) _ _ rfl rfl
  | list start count =>
    refine .bind (.call ht _ _ ?_) fun _ => .ofExcept _
    by_cases hstart : start < 0
    · simp only [hstart, if_true]
      exact .ofExcept _
    · by_cases hcount : count ≤ 0
      · simp only [hstart, hcount, if_true, if_false]
        exact .ofExcept _
      · simp only [hstart, hcount, if_false]
        exact keeps_untraced own nodes ht hheaders (.listRecords _ count) rfl (.inl rfl) rfl
  | queryNodes states scope pool =>
    exact hasked (.queryNodes states scope pool) _ _ rfl rfl
  | replicate type factor nodes =>
    exact hasked (.replicate type factor nodes) _ _ rfl rfl
  | size containerId =>
    refine .bind (.call ht _ _ ?_) fun _ => .ofExcept _
    split
    · exact .ofExcept _
    · exact .ofExcept _
  | shutDown => exact .bind (keeps_closePool own nodes telemetry) fun _ =>
    keeps_closePlacement own nodes telemetry hcarrier

theorem keeps_after (hcarrier : placement.carrier = .connection number) (ops : List Operation)
    (hs : Steady number placement start [] s) : Steady number placement start []
      ((overNetwork own placement nodes telemetry).watched.after ops s) := by
  -- No handle is held between two operations.
  induction ops generalizing s with
  | nil => exact hs
  | cons op r ih => exact ih (op.keeps_run own nodes ht hheaders hcarrier s hs).1

end Keeping

/-- A service that has just been connected is one that the statement is about: it reaches the
placement service over a connection that no handle works over. -/
theorem attached_connect {settings : Settings} {service : NetworkService} {x y : Session World}
    (h : (connect settings telemetry).runFrom x = (.ok service, y)) (hpool : x.world.pool = {})
    (hclosed : ∀ n ∈ x.world.network.closed, n < x.world.network.opened) :
    ∃ own placement nodes, service = overNetwork own placement nodes telemetry ∧
      placement.headers = Placement.jsonHeaders ∧
      placement.carrier = .connection x.world.network.opened ∧
      Pool.Attached x.world.network.opened y.world := by
  obtain ⟨own, -, placement, nodes, -, -, -, hheaders, -, hcarrier, hservice, rfl⟩ :=
    connect_overNetwork h
  refine ⟨own, placement, nodes, hservice, hheaders, hcarrier, .empty hpool (fun n hn => ?_) ?_⟩
  · exact Nat.lt_succ_of_lt (hclosed n hn)
  · exact Nat.lt_succ_self _

/-! ## Trace identifiers on the way -/

/-- For a call on the data of a container, a request can be made. -/
def Asked (placement : Client) (step : Step NetworkHandle) : Prop :=
  step.trace?.isSome → ∃ client m number request,
    step.method? placement = some (client, m) ∧ m.Asks client number request

theorem Sends.traces {rs : List Request} (h : Sends placement step rs) :
    (rs.filterMap Request.trace?).Sublist step.trace?.toList ∧
      (Asked placement step → rs.filterMap Request.trace? = step.trace?.toList) := by
  cases h with
  | nothing hnone =>
    refine ⟨List.nil_sublist _, fun hasked => ?_⟩
    cases htrace : step.trace? with
    | none => rfl
    | some trace =>
      have hsome : step.trace?.isSome := by rw [htrace]; rfl
      obtain ⟨client, m, n, request, hmethod, hasks⟩ := hasked hsome
      exact absurd hasks (hnone hsome client m hmethod n request)
  | @request _ _ _ request _ _ htrace =>
    have heq : [request].filterMap Request.trace? = step.trace?.toList := by
      rw [← htrace]
      cases h : request.trace? <;> simp [h]
    exact ⟨heq ▸ List.Sublist.refl _, fun _ => heq⟩

/-- The requests of calls carry the trace identifiers that the calls have been given, in order; all
of them, where requests can be made for all calls on data. -/
theorem traces_of_sends {calls : List (Exchange NetworkHandle)} {sent : List (List Request)}
    (h : List.Forall₂ (fun e => Sends placement e.step) calls sent) :
    (sent.flatten.filterMap Request.trace?).Sublist (tracesOf calls) ∧
      ((∀ e ∈ calls, Asked placement e.step) →
        sent.flatten.filterMap Request.trace? = tracesOf calls) := by
  have hcons : ∀ (e : Exchange NetworkHandle) r, tracesOf (e :: r) =
      e.step.trace?.toList ++ tracesOf r := by
    intro e r
    unfold tracesOf
    cases htrace : e.step.trace? <;> simp [htrace]
  induction h with
  | nil => exact ⟨List.Sublist.refl _, fun _ => rfl⟩
  | @cons e rs calls sent hsends _ ih =>
    rw [List.flatten_cons, List.filterMap_append, hcons]
    refine ⟨hsends.traces.1.append ih.1, fun hasked => ?_⟩
    rw [hsends.traces.2 (hasked e List.mem_cons_self),
      ih.2 fun e' he' => hasked e' (List.mem_cons_of_mem _ he')]

/-- **Trace identifiers are fresh.** Whatever operations are carried out, and whichever calls fail
in them: the calls on the data of containers have been given the identifiers of the source one after
the other, as many as have been drawn, so that none is given twice if the source never repeats
itself. Every call has sent at most one request. It carries the identifier that the call has been
given, and none if the call has been given none; and for a call on data it is only not sent if no
request can be made of its arguments. -/
theorem traces_fresh (own : ContainerOperationsSettings) (nodes : DatanodeSettings)
    (ht : ∀ c ∈ telemetry, c.Discreet) (hheaders : placement.headers = Placement.jsonHeaders)
    (hcarrier : placement.carrier = .connection number) {x : Session World}
    (hx : Log.Writable x) (hattached : Pool.Attached number x.world) (ops : List Operation) :
    let service := overNetwork own placement nodes telemetry
    let last := service.watched.after ops (opening NetworkHandle x)
    last.view Watched.slot = service.after ops x ∧ ∃ n sent,
      last.world.inner.traces = x.world.traces + n ∧
      tracesOf last.world.calls = x.world.issued n ∧
      (Function.Injective x.world.traceOf → (tracesOf last.world.calls).Nodup) ∧
      last.requests = x.requests ++ sent.flatten ∧
      List.Forall₂ (fun e => Sends placement e.step) last.world.calls sent ∧
      (sent.flatten.filterMap Request.trace?).Sublist (x.world.issued n) ∧
      ((∀ e ∈ last.world.calls, Asked placement e.step) →
        sent.flatten.filterMap Request.trace? = x.world.issued n) := by
  intro service last
  have hlast : Steady number placement x [] last :=
    keeps_after own nodes ht hheaders hcarrier ops (.opening hx hattached)
  obtain ⟨n, hn, htraces⟩ := hlast.accounted.drawn
  obtain ⟨sent, hsent, hrequests⟩ := hlast.accounted.sent
  obtain ⟨hsublist, hall⟩ := traces_of_sends hsent
  rw [htraces] at hsublist hall
  exact ⟨after_watched service ops _, n, sent, hn, htraces,
    fun hinjective => htraces ▸ World.nodup_issued hinjective n, hrequests, hsent, hsublist, hall⟩

/-- Closing a container fails, reading it gives nothing that can be read, and deleting it succeeds;
a container that is not allocated is not given a trace identifier. -/
theorem traces_fresh_refused :
    let pipeline : Pipeline :=
      ⟨some "p1", ["n1:9859"], "n1:9859", .opened, .standAlone, .one, by decide⟩
    let telemetry : List (Instrument.Concern World) := Instrument.telemetry 0 .silent .silent
    let x : Session World := { world := { (answering [204, 503, 204, 404, 204, 204, 500]).world with
      traceOf := fun n => String.ofList (List.replicate (n + 1) 't') } }
    let ops : List Operation := [.container (.close 7 pipeline), .container (.read 7 pipeline),
      .get 7, .container (.delete 7 pipeline none), .container (.create "o" none none)]
    let service := overNetwork {} placementClient {} telemetry
    let last := service.watched.after ops (opening NetworkHandle x)
    (∀ c ∈ telemetry, c.Discreet) ∧ placementClient.headers = Placement.jsonHeaders ∧
      placementClient.carrier = .connection 0 ∧ Log.Writable x ∧ Pool.Attached 0 x.world ∧
      Function.Injective x.world.traceOf ∧
      last.requests.map Request.trace? =
        [none, some "t", some "tt", none, some "ttt", none, none] ∧
      last.view Watched.slot = service.after ops x ∧ ∃ n sent,
        last.world.inner.traces = x.world.traces + n ∧
        tracesOf last.world.calls = x.world.issued n ∧ (tracesOf last.world.calls).Nodup ∧
        last.requests = x.requests ++ sent.flatten ∧
        List.Forall₂ (fun e => Sends placementClient e.step) last.world.calls sent := by
  intro pipeline telemetry x ops service last
  have ht : ∀ c ∈ telemetry, c.Discreet := Instrument.discreet_telemetry_silent 0
  have hx : Log.Writable x := .inr (List.forall_mem_nil _)
  have hattached : Pool.Attached 0 x.world :=
    .empty rfl (List.forall_mem_nil _) Nat.zero_lt_one
  have hinjective : Function.Injective x.world.traceOf := by
    intro i j hij
    have hlength := congrArg String.length hij
    simpa [x] using hlength
  have htraces : last.requests.map Request.trace? =
      [none, some "t", some "tt", none, some "ttt", none, none] := by decide +kernel
  obtain ⟨hview, n, sent, hn, hgiven, hnodup, hrequests, hsent, -⟩ :=
    traces_fresh {} {} ht (rfl : placementClient.headers = Placement.jsonHeaders) rfl hx hattached
      ops
  exact ⟨ht, rfl, rfl, hx, hattached, hinjective, htraces, hview, n, sent, hn, hgiven,
    hnodup hinjective, hrequests, hsent⟩

end Steady

end Service

end Stowage
