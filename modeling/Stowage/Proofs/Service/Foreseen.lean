import Stowage.Proofs.Pool.Attached
import Stowage.Proofs.Service.Calls
import Stowage.Proofs.Service.Classified
import Stowage.Proofs.Service.Relayed

/-!
The failures that operations of the service can end in.

Whatever the network answers, an operation of the service over the network gives a result, or it
fails as a storage call, for a precondition, for a value that is not acceptable, or because
something is no URL (`Failure.Foreseen`). All but the last kind are those that commands tell of.

That nothing else goes wrong rests on two things: log records can be written, and the connections
that requests are sent over are open (`Service.Ready`).
-/

namespace Stowage

open Http (Request Answer Client)

variable {α β : Type}

/-! ## Failures -/

/-- A failure of a storage call, for a precondition, for a value (with a text), or for something
that is no URL. -/
inductive Failure.Foreseen : Failure → Prop
  | storage {f : Failure} : f.isStorage = true → Foreseen f
  | precondition {f : Failure} : f.isPrecondition = true → Foreseen f
  | value {f : Failure} : f.isA .valueError = true → f.isOverlong = false → Foreseen f
  | badUrl (words : String) : Foreseen (.badUrl words)

theorem Refused.foreseen {f : Failure} (h : Refused f) : f.Foreseen := by
  cases h with
  | badUrl words => exact .badUrl words
  | value kind argument hkind hworded => exact .value hkind hworded

/-- No kind of failures for values is the end of an iteration. -/
theorem Fault.isA_stopIteration {kind : Fault} (h : kind.isA .valueError = true) :
    kind.isA .stopIteration = false := by
  revert h
  cases kind <;> decide

/-- What is foreseen is no end of an iteration, so that scopes let it pass as it is. -/
theorem Failure.Foreseen.outOfScope {f : Failure} (h : f.Foreseen) : Service.outOfScope f = f := by
  have hno : f.isA .stopIteration = false := by
    cases h with
    | storage hf => cases f <;> first | rfl | cases hf
    | precondition hf => cases f <;> first | rfl | cases hf
    | value hf _ =>
      cases f with
      | fault kind => exact Fault.isA_stopIteration hf
      | _ => rfl
    | badUrl => rfl
  unfold Service.outOfScope
  rw [hno]
  rfl

/-! ## Answers -/

namespace Http.Client

variable {request : Request} {answer : Answer} {f : Failure}

theorem follow_error {location : String} (h : follow request location = .error f) :
    (∃ failure, f = .http failure) ∨ Refused f := by
  unfold follow at h
  split at h
  · cases h
    exact .inl ⟨_, rfl⟩
  · obtain ⟨words, rfl⟩ := Url.onward_error h
    exact .inr (.badUrl words)

theorem aftermath_error {packed : Response} (h : aftermath request packed = .error f) :
    (∃ failure, f = .http failure) ∨ Refused f := by
  unfold aftermath at h
  dsimp only at h
  split at h
  · cases h
    exact .inr (.value _ _ rfl rfl)
  · split at h
    · split at h
      · rename_i location _
        cases hfollow : follow request location with
        | error reason =>
          rw [hfollow] at h
          cases h
          exact follow_error hfollow
        | ok next =>
          rw [hfollow] at h
          cases h
      · cases h
    · cases h

theorem received_error (h : received request answer = .error f) :
    (∃ failure, f = .http failure) ∨ Refused f := by
  cases answer with
  | unanswered kind message =>
    cases h
    exact .inl ⟨_, rfl⟩
  | badUrl message =>
    cases h
    exact .inr (.badUrl message)
  | response packed =>
    rcases bind_eq_error.1 h with h | ⟨_, -, h⟩
    · exact aftermath_error h
    · rcases bind_eq_error.1 h with h | ⟨response, -, h⟩
      · unfold unpacked at h
        split at h
        · cases h
        · cases h
          exact .inl ⟨_, rfl⟩
      · split at h
        · cases h
          exact .inl ⟨_, rfl⟩
        · cases h

end Http.Client

/-- A failed request of an operation is foreseen. -/
theorem HttpFailure.foreseen_toStorage (failure : HttpFailure) (operation : String) :
    (failure.toStorage operation).Foreseen := by
  unfold toStorage
  split
  · exact .value rfl rfl
  · exact .storage rfl

/-- Whatever a request is answered, a method of an adapter fails as is foreseen. -/
theorem RemoteMethod.outcome_error {m : RemoteMethod} {request : Request} {answer : Answer}
    {f : Failure} (h : m.outcome request answer = .error f) : f.Foreseen := by
  rcases bind_eq_error.1 h with h | ⟨document, -, h⟩
  · cases hdocument : Client.documentFrom request answer with
    | ok document =>
      rw [hdocument] at h
      cases h
    | error reason =>
      rw [hdocument] at h
      have hcases : (∃ failure, reason = .http failure) ∨ Refused reason := by
        rcases bind_eq_error.1 hdocument with hreceived | ⟨response, -, hread⟩
        · exact Client.received_error hreceived
        · obtain ⟨kind, rfl⟩ := Service.documentOf_error hread
          exact .inl ⟨_, rfl⟩
      rcases hcases with ⟨failure, rfl⟩ | hrefused
      · cases h
        exact failure.foreseen_toStorage m.operation
      · have hsame : Http.Storage.explain m.operation reason = reason := by
          cases hrefused <;> rfl
        cases h
        rw [hsame]
        exact hrefused.foreseen
  · obtain ⟨reason, rfl⟩ := Service.decode_eq_error h
    exact .storage rfl

namespace Service

/-! ## Flows -/

/-- Where a gauge holds, a flow fails only as is foreseen. -/
def Foresees (g : Gauge World Empty) (body : Flow World α) : Prop :=
  g.Adds body fun o _ => ∀ f, o = .error f → f.Foreseen

namespace Foresees

variable {g : Gauge World Empty} {body : Flow World α}

theorem ofExcept {outcome : Except Failure α} (h : ∀ f, outcome = .error f → f.Foreseen) :
    Foresees g (Flow.ofExcept outcome) :=
  Gauge.Adds.ofExcept h

theorem pure (a : α) : Foresees g (Pure.pure a) := ofExcept fun _ h => by cases h

theorem throw {f : Failure} (h : f.Foreseen) : Foresees g (MonadExcept.throw f : Flow World α) :=
  ofExcept fun _ hf => by cases hf; exact h

theorem bind {next : α → Flow World β} (hb : Foresees g body)
    (hn : ∀ a, Foresees g (next a)) : Foresees g (body >>= next) :=
  Gauge.Adds.bind hb (fun _ _ h f hf => h f (by cases hf; rfl)) fun a _ _ => hn a

/-- A call fails for what it refers to or as its body does. -/
theorem call (hw : g.writable) (hb : Foresees g body) {c : Instrument.Component World}
    (hc : ∀ d ∈ c.telemetry, d.Discreet) (name : String) (supplied : List (String × Value)) :
    Foresees g (c.call name supplied body) := by
  intro s hs
  unfold Instrument.Component.call
  cases hreferences : Instrument.references (supplied.map Prod.fst) supplied with
  | error f =>
    refine ⟨hs, [], (List.append_nil _).symm, fun f' hf => ?_⟩
    cases hf
    exact (RemoteMethod.references_error hreferences).foreseen
  | ok labels =>
    have hrun := Gauge.AddsAt.run hs (fun s₁ ha => hb.addsAt (g.holds_alike ha hs))
      (Gauge.discreet_concerns hc name) labels
    exact hrun.mono fun o more h => h.of_writable hw

/-- A log line fails only for a value that is too long to be written. -/
theorem logWith (hw : g.writable) {logger message : String} {level : Nat}
    {entries : List (String × Value)}
    (hnames : (entries.all fun e => (Log.partFault? e.1).isNone) = true) :
    Foresees g (Log.logWith logger level message entries) := by
  intro s hs
  have halike := (Log.discreet_logWith logger level message entries s).1
  refine ⟨g.holds_alike halike hs, [], by rw [g.list_alike halike, List.append_nil], ?_⟩
  intro f hf
  by_cases hfits : ∀ e ∈ entries, e.2.isOverlong = false
  · have hok := Log.logWith_ok (g.log_writable hw hs) logger level message
      fun e he => ⟨Option.isNone_iff_eq_none.1 (List.all_eq_true.1 hnames e he), hfits e he⟩
    rw [hok] at hf
    cases hf
  · have hover : ∃ e ∈ entries, e.2.isOverlong = true := by
      simpa using hfits
    rw [Log.logWith_overlong s logger level message hover] at hf
    cases hf
    exact .value rfl rfl

theorem look {τ : Type} (slot : Slot World τ) : Foresees g (Flow.look slot) :=
  fun _ hs => ⟨hs, [], (List.append_nil _).symm, fun _ hf => by cases hf⟩

theorem bookkeeping (hb : Foresees g body) : Foresees g (Service.bookkeeping body) := by
  refine Gauge.Adds.mono (adds_bookkeeping hb) ?_
  rintro o more (⟨a, rfl, -⟩ | ⟨f, rfl, hf⟩) f' hf'
  · cases hf'
  · cases hf'
    have hforeseen := hf f rfl
    rw [hforeseen.outOfScope]
    exact hforeseen

end Foresees

/-! ## The pool -/

/-- Nothing is read off sessions in which log records can be written. -/
def clean : Gauge World Empty where
  holds := Log.Clean
  list _ := []
  writable := True
  holds_alike := Log.Clean.alike
  list_alike _ := rfl
  log_writable _ _ hs := hs.writable

theorem Foresees.settles {body : Flow World Unit} (h : body.Settles) : Foresees clean body := by
  intro s hs
  obtain ⟨t, ht, hst⟩ := h s hs
  rw [ht]
  exact ⟨hst.clean hs, [], rfl, fun f hf => by cases hf⟩

section Pool

variable {nodes : DatanodeSettings} {pipeline : Pipeline}

/-- A client that cannot be connected has a base that is no URL, and nothing has happened. -/
theorem connect_error {url : String} {timeout : Double} {headers : Http.Headers}
    {s t : Session World} {f : Failure}
    (h : (Client.connect World.networkSlot url timeout headers).runFrom s = (.error f, t)) :
    (Http.Url.parse url).bind Http.Url.asBase = .error f ∧ t = s := by
  unfold Client.connect at h
  cases hbase : (Http.Url.parse url).bind Http.Url.asBase with
  | ok base =>
    rw [hbase] at h
    cases h
  | error reason =>
    rw [hbase] at h
    cases h
    exact ⟨rfl, rfl⟩

theorem openClient_error {s t : Session World} {f : Failure}
    (h : ((Pool.wired nodes).openClient pipeline).runFrom s = (.error f, t)) : Refused f := by
  change (Flow.ofExcept (Pool.targetUrl nodes pipeline) >>= fun url => Client.connect
    World.networkSlot url nodes.timeoutSeconds Placement.jsonHeaders).runFrom s = (.error f, t) at h
  cases htarget : Pool.targetUrl nodes pipeline with
  | error reason =>
    rw [htarget] at h
    unfold Pool.targetUrl at htarget
    split at htarget
    · cases htarget
      cases h
      exact .value _ _ rfl rfl
    · cases htarget
  | ok url =>
    rw [htarget, Flow.runFrom_bind_ok (Flow.runFrom_ofExcept _ s)] at h
    obtain ⟨words, rfl⟩ := Http.Url.base_error (connect_error h).1
    exact .badUrl words

/-- A client that cannot be opened for a pipeline makes a storage call fail. -/
theorem isStorage_openFailure {f : Failure} (h : Refused f) :
    (Pool.Connector.openFailure pipeline f).isStorage = true := by
  cases h with
  | badUrl words => rfl
  | value kind argument hkind _ =>
    have haddress : (Failure.fault kind argument).isA .valueError = true := hkind
    unfold Pool.Connector.openFailure
    simp only [haddress, if_true]
    rfl

theorem foresees_connect : Foresees clean ((Pool.wired nodes).connect pipeline) := by
  refine fun s hs => ⟨(unremarkable_connect pipeline s).clean hs, [], rfl, fun f hf => ?_⟩
  unfold Pool.Connector.connect at hf
  rw [Flow.runFrom_bind_ok (Flow.runFrom_attempt _ s)] at hf
  cases hopen : ((Pool.wired nodes).openClient pipeline).runFrom s with
  | mk outcome t =>
    rw [hopen] at hf
    cases outcome with
    | ok client => cases hf
    | error reason =>
      cases hf
      exact .storage (isStorage_openFailure (openClient_error hopen))

theorem foresees_openHandle (pool : Pool Client) :
    Foresees clean ((Pool.wired nodes).openHandle pool pipeline) := by
  refine .bind foresees_connect fun client => .bind (.settles (settles_put_pool _)) fun _ => ?_
  split
  · exact .pure _
  · refine .bind (.logWith trivial rfl) fun _ => ?_
    split
    · exact .bind (.settles (settles_closeQuietly _)) fun _ => .pure _
    · exact .pure _

/-- **Acquiring a handle fails as is foreseen**: as a storage call, or for the identifier of the
container, which is logged. -/
theorem foresees_acquire (containerId : Int) :
    Foresees clean ((Pool.wired nodes).acquire pipeline containerId) := by
  have hlog : ∀ handle : NetworkHandle, Foresees clean (do
      Pool.Connector.logAcquired handle containerId
      pure handle : Flow World NetworkHandle) := fun handle =>
    .bind (.logWith trivial rfl) fun _ => .pure handle
  unfold Pool.Connector.acquire
  split
  · exact .throw (.storage rfl)
  · refine .bind (.look _) fun pool => ?_
    split
    · exact .bind (.settles (settles_put_pool _)) fun _ => .bind (.pure _) hlog
    · exact .bind (foresees_openHandle pool) hlog

end Pool

/-! ## Sessions in which requests can be sent -/

/-- Log records can be written, the connection with a number is open, every handle has another one,
and those that are held can be used. -/
structure Ready (number : Nat) (held : List NetworkHandle) (s : Session World) : Prop where
  clean : Log.Clean s
  attached : Pool.Attached number s.world
  unclosed : Open number s
  held : ∀ handle ∈ held, s.world.Serviceable handle.client

section Ready

variable {number : Nat} {held : List NetworkHandle} {s t : Session World}

theorem Ready.alike (ha : s.Alike t) (h : Ready number held s) : Ready number held t where
  clean := h.clean.alike ha
  attached := ha.world ▸ h.attached
  unclosed := h.unclosed.alike ha
  held := ha.world ▸ h.held

/-- Nothing is read off sessions in which requests can be sent. -/
def ready (number : Nat) (held : List NetworkHandle) : Gauge World Empty where
  holds := Ready number held
  list _ := []
  writable := True
  holds_alike := Ready.alike
  list_alike _ := rfl
  log_writable _ _ hs := hs.clean.writable

/-- Sending a request opens no connection, and closes none. -/
theorem Ready.afterSending (h : Ready number held s) (request : Request) :
    Ready number held (afterSending s request) := by
  have hcloses : Pool.Closes s.world [] (Service.afterSending s request).world :=
    .answered s.world
  refine ⟨h.clean, h.attached.closes hcloses (List.forall_mem_nil _), ?_, fun handle hmem => ?_⟩
  · change number ∉ s.world.network.next.2.closed
    rw [Http.Network.next_closed]
    exact h.unclosed
  · exact (h.held handle hmem).closes hcloses

/-- Other handles may be held. -/
theorem Ready.holding (h : Ready number held s) {others : List NetworkHandle}
    (hothers : ∀ handle ∈ others, s.world.Serviceable handle.client) : Ready number others s :=
  ⟨h.clean, h.attached, h.unclosed, hothers⟩

end Ready

/-! ## Operations -/

section Operations

variable {own : ContainerOperationsSettings} {placement : Client} {nodes : DatanodeSettings}
  {telemetry : List (Instrument.Concern World)} {number : Nat} {held : List NetworkHandle}
  {handle : NetworkHandle}

/-- A method of an adapter fails as is foreseen, over a connection that is open. -/
theorem foresees_method (ht : ∀ c ∈ telemetry, c.Discreet) {client : Client}
    (hclient : ∀ s, Ready number held s → ∃ n, client.carrier = .connection n ∧ Open n s)
    (m : RemoteMethod) : Foresees (ready number held) (m.run client telemetry) := by
  intro s hs
  have hw : Log.Writable s := hs.clean.writable
  refine ⟨?_, [], rfl, fun f hf => ?_⟩
  · rcases RemoteMethod.sends ht hw m client with ⟨ha, -⟩ | ⟨_, request, -, ha⟩
    · exact hs.alike ha
    · exact (hs.afterSending request).alike ha
  · obtain ⟨n, hcarrier, hopen⟩ := hclient s hs
    -- Either a request is made out and answered, or its arguments have been refused.
    by_cases hasks : ∃ request, m.Asks client n request
    · obtain ⟨request, hrequest⟩ := hasks
      rw [RemoteMethod.outcome_run ht hrequest hopen hw] at hf
      exact RemoteMethod.outcome_error hf
    · obtain ⟨f', hf', hrefused⟩ :=
        RemoteMethod.outcome_run_refused ht hcarrier (not_exists.1 hasks) hw
      rw [hf'] at hf
      cases hf
      exact hrefused.foreseen

variable (ht : ∀ c ∈ telemetry, c.Discreet) (hcarrier : placement.carrier = .connection number)

include ht

theorem foresees_asked (hcarrier : placement.carrier = .connection number) (m : RemoteMethod) :
    Foresees (ready number held) (m.run placement telemetry) :=
  foresees_method ht (fun _ hs => ⟨number, hcarrier, hs.unclosed⟩) m

theorem foresees_told (m : RemoteMethod) :
    Foresees (ready number [handle]) (m.run handle.client telemetry) :=
  foresees_method ht (fun _ hs => (hs.held handle List.mem_cons_self).connection) m

theorem foresees_call {body : Flow World α} (name : String) (supplied : List (String × Value))
    (hb : Foresees (ready number held) body) : Foresees (ready number held)
      ((overNetwork own placement nodes telemetry).component.call name supplied body) :=
  hb.call trivial ht name supplied

include hcarrier

theorem foresees_notify (containerId : Int) (operation : StageOperation) (phase : StagePhase) :
    Foresees (ready number held)
      ((overNetwork own placement nodes telemetry).notify containerId operation phase) := by
  cases hid : Decimal.isOverlong containerId with
  | true =>
    rw [notify_of_overlong hid]
    exact .throw (.value rfl rfl)
  | false =>
    rw [notify_of_fits hid]
    exact foresees_asked ht hcarrier (.notify (stageEvent containerId operation phase))

omit hcarrier

theorem foresees_prepare (pipeline : Pipeline) : Foresees (ready number [handle])
    ((overNetwork own placement nodes telemetry).prepare handle pipeline) := by
  unfold prepare materialize
  split
  · split
    · exact .throw (.precondition rfl)
    · exact .throw (.precondition rfl)
    · rename_i name _ _
      exact .bind (foresees_told ht (.createPipeline name pipeline.members)) fun _ =>
        .logWith trivial rfl
  · exact .pure ()
  · exact .throw (.precondition rfl)

omit ht

theorem foresees_newTrace : Foresees (ready number held)
    (overNetwork own placement nodes telemetry).parts.newTrace := by
  intro s hs
  refine ⟨⟨hs.clean, hs.attached.drawn, hs.unclosed, fun h hmem => ?_⟩, [], rfl, fun f hf => ?_⟩
  · exact ⟨(hs.held h hmem).headers, (hs.held h hmem).connection⟩
  · cases hf

end Operations

/-! ## Operations on handles -/

section Handles

variable {own : ContainerOperationsSettings} {placement : Client} {nodes : DatanodeSettings}
  {telemetry : List (Instrument.Concern World)} {number : Nat} {held : List NetworkHandle}
  {s t : Session World}

/-- Acquiring keeps everything ready, and a handle that is given out can be used. -/
theorem ready_acquire (hs : Ready number [] s) {pipeline : Pipeline} {containerId : Int}
    {o : Except Failure NetworkHandle}
    (hr : ((Pool.wired nodes).acquire pipeline containerId).runFrom s = (o, t)) :
    Ready number [] t ∧ ∀ handle, o = .ok handle → Ready number [handle] t := by
  obtain ⟨rfl, rfl⟩ := Prod.mk.inj hr
  obtain ⟨-, hacquires⟩ := @Pool.turns_acquire nodes s.world pipeline containerId s rfl
  have hready : Ready number [] _ := ⟨(unremarkable_acquire pipeline containerId s).clean hs.clean,
    hacquires.attached hs.attached, hacquires.unclosed_own hs.attached hs.unclosed,
    List.forall_mem_nil _⟩
  refine ⟨hready, fun handle hok => hready.holding (List.forall_mem_singleton.2 ?_)⟩
  exact Pool.Acquires.serviceable (hok ▸ hacquires) hs.attached

theorem foresees_acquire_ready (pipeline : Pipeline) (containerId : Int) :
    Foresees (ready number []) ((Pool.wired nodes).acquire pipeline containerId) := by
  intro s hs
  obtain ⟨-, -, -, hforeseen⟩ := @foresees_acquire nodes pipeline containerId s hs.clean
  exact ⟨(ready_acquire hs rfl).1, [], rfl, hforeseen⟩

/-- A release keeps everything ready, and does not fail. -/
theorem ready_release (hs : Ready number held s) (handle : NetworkHandle) :
    ∃ t, (bookkeeping ((Pool.wired nodes).release handle)).runFrom s = (.ok (), t) ∧
      Ready number [] t := by
  have hsettles := settles_bookkeeping (@settles_release nodes handle)
  obtain ⟨t, ht, hst⟩ := hsettles s hs.clean
  have hreleases := (@Pool.turns_release nodes s.world handle s rfl).2
  rw [runFrom_of_bookkeeping ht] at hreleases
  exact ⟨t, ht, hst.clean hs.clean, hreleases.attached hs.attached,
    hreleases.unclosed_own hs.attached hs.unclosed, List.forall_mem_nil _⟩

/-- What is done on a handle fails as is foreseen if it does so while the handle can be used. -/
theorem foresees_holding (pipeline : Pipeline) (containerId : Int)
    {body : NetworkHandle → Flow World α}
    (hbody : ∀ handle, Foresees (ready number [handle]) (body handle)) :
    Foresees (ready number [])
      ((overNetwork own placement nodes telemetry).holding pipeline containerId body) := by
  intro s hs
  have hacquire : Foresees (ready number [])
      (bookkeeping ((overNetwork own placement nodes telemetry).parts.acquire pipeline
        containerId)) := (foresees_acquire_ready pipeline containerId).bookkeeping
  refine Gauge.AddsAt.bind (R := fun o _ => ∀ f, o = .error f → f.Foreseen) (hacquire.addsAt hs)
    (fun _ _ h f hf => h f (by cases hf; rfl)) fun handle _ t hr _ _ => ?_
  have ht := (ready_acquire hs (runFrom_of_bookkeeping hr)).2 handle rfl
  obtain ⟨hu, more, -, hforeseen⟩ := hbody handle t ht
  -- The handle is released whatever the body ends with; since that does not fail, the outcome is
  -- the one of the body.
  obtain ⟨v, hv, hready⟩ := ready_release hu handle
  unfold Gauge.AddsAt
  rw [Flow.runFrom_andFinally]
  have hrelease : (bookkeeping ((overNetwork own placement nodes telemetry).parts.release
    handle)).runFrom ((body handle).runFrom t).2 = (.ok (), v) := hv
  rw [hrelease]
  exact ⟨hready, [], rfl, hforeseen⟩

/-- What is done about a container between the reports of its beginning and of its end. -/
theorem foresees_reported (ht : ∀ c ∈ telemetry, c.Discreet)
    (hcarrier : placement.carrier = .connection number) (containerId : Int)
    (operation : StageOperation) {action : String → Flow World Unit}
    (haction : ∀ trace, Foresees (ready number held) (action trace)) {log : Flow World Unit}
    (hlog : Foresees (ready number held) log) : Foresees (ready number held) (do
      (overNetwork own placement nodes telemetry).notify containerId operation .begun
      let trace ← (overNetwork own placement nodes telemetry).parts.newTrace
      action trace
      (overNetwork own placement nodes telemetry).notify containerId operation .complete
      log) :=
  .bind (foresees_notify ht hcarrier containerId operation .begun) fun _ =>
    .bind foresees_newTrace fun trace => .bind (haction trace) fun _ =>
      .bind (foresees_notify ht hcarrier containerId operation .complete) fun _ => hlog

end Handles

/-! ## The operations of the service -/

section Service

variable {own : ContainerOperationsSettings} {placement : Client} {nodes : DatanodeSettings}
  {telemetry : List (Instrument.Concern World)} {number : Nat}
  (ht : ∀ c ∈ telemetry, c.Discreet) (hcarrier : placement.carrier = .connection number)

include ht hcarrier

theorem foresees_create (owner : String) (type : Option ReplicationType)
    (factor : Option ReplicationFactor) : Foresees (ready number [])
      ((overNetwork own placement nodes telemetry).create owner type factor) := by
  refine foresees_call ht _ _ (.bind (foresees_asked ht hcarrier (.allocate _ _ owner)) ?_)
  intro record
  refine .bind (foresees_holding record.pipeline record.containerId fun handle => ?_)
    fun _ => .pure record
  refine .bind (foresees_prepare ht record.pipeline) fun _ => ?_
  exact foresees_reported ht hcarrier record.containerId .create
    (fun trace => foresees_told ht (.createData record.containerId trace)) (.logWith trivial rfl)

theorem foresees_close (containerId : Int) (pipeline : Pipeline) : Foresees (ready number [])
    ((overNetwork own placement nodes telemetry).close containerId pipeline) := by
  refine foresees_call ht _ _ (foresees_holding pipeline containerId fun handle => ?_)
  exact foresees_reported ht hcarrier containerId .close
    (fun trace => foresees_told ht (.closeData containerId trace)) (.logWith trivial rfl)

theorem foresees_delete (containerId : Int) (pipeline : Pipeline) (force : Option Bool) :
    Foresees (ready number [])
      ((overNetwork own placement nodes telemetry).delete containerId pipeline force) := by
  refine foresees_call ht _ _ (foresees_holding pipeline containerId fun handle => ?_)
  refine .bind foresees_newTrace fun trace => ?_
  refine .bind (foresees_told ht (.deleteData containerId _ trace)) fun _ => ?_
  exact .bind (foresees_asked ht hcarrier (.deleteRecord containerId)) fun _ =>
    .logWith trivial rfl

omit hcarrier in
theorem foresees_read (containerId : Int) (pipeline : Pipeline) : Foresees (ready number [])
    ((overNetwork own placement nodes telemetry).read containerId pipeline) := by
  refine foresees_call ht _ _ (foresees_holding pipeline containerId fun handle => ?_)
  refine .bind foresees_newTrace fun trace => ?_
  refine .bind (foresees_told ht (.readData containerId trace)) fun data => ?_
  exact .bind (.logWith trivial rfl) fun _ => .pure data

theorem foresees_get (containerId : Int) : Foresees (ready number [])
    ((overNetwork own placement nodes telemetry).get containerId) :=
  foresees_call ht _ _ (foresees_asked ht hcarrier (.getRecord containerId))

theorem foresees_list (start count : Int) : Foresees (ready number [])
    ((overNetwork own placement nodes telemetry).list start count) := by
  refine foresees_call ht _ _ ?_
  by_cases hstart : start < 0
  · simp only [hstart, if_true]
    exact .throw (.value rfl rfl)
  · by_cases hcount : count ≤ 0
    · simp only [hstart, hcount, if_true, if_false]
      exact .throw (.value rfl rfl)
    · simp only [hstart, hcount, if_false]
      exact foresees_asked ht hcarrier (.listRecords start count)

omit hcarrier in
theorem foresees_size (containerId : Int) : Foresees (ready number [])
    ((overNetwork own placement nodes telemetry).size containerId) := by
  refine foresees_call ht _ _ ?_
  split
  · exact .throw (.storage rfl)
  · exact .pure _

end Service

end Service

end Stowage
