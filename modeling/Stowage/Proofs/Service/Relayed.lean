import Stowage.Proofs.Service.Quiescent
import Stowage.Proofs.Service.Remarks
import Stowage.Proofs.Service.Remote
import Stowage.Proofs.Service.Shape

/-!
Failures of requests are passed on as they are.

A method of an adapter that fails for the answer to its request tells its observers so, and the
operation of the service that has called it fails in the same way and tells its own: nothing is sent
in the meantime, and the failure is neither wrapped nor replaced (`Service.Relays`).
-/

namespace Stowage

open Http (Request Answer Client)

open Instrument (Completion Observer)

open Remark (sends complaints)

variable {α β : Type}

namespace Service

/-! ## Layers -/

/-- Observers are told that a call has ended in a failure: meters count it, under its category, and
recorders write down the end of the call. -/
def Failed (observers : List Observer) (component name : String) (f : Failure)
    (told : List Remark) : Prop :=
  ∃ e : Completion, e.invocation.component = component ∧ e.invocation.operation = name ∧
    e.Tells e.invocation (.error f : Except Failure Unit) ∧
    told = observers.flatMap fun
      | .meters => [.counted
          (Observer.errorAttributes e.invocation (Vocabulary.value f.detail.category))]
      | .recorder => [.ended e]
      | .other _ => []

theorem failed_of_atEnd {c : Instrument.Component World} {observers : List Observer}
    {name : String} {f : Failure} {last : List Remark}
    (h : c.AtEnd observers name (.error f : Except Failure α) last)
    (hf : f.isInterrupt = false) : Failed observers c.id name f last := by
  obtain ⟨references, elapsed, rfl⟩ := h
  have htold : Instrument.Operation.isTold (.error f : Except Failure α) = true := by
    simp [Instrument.Operation.isTold, hf]
  rw [if_pos htold]
  refine ⟨Instrument.Operation.completion ⟨c.id, name, references⟩ elapsed
    (.error f : Except Failure Unit), rfl, rfl, Instrument.completion_tells _ _ _, ?_⟩
  congr 1

theorem isTold_of_atEnd {c : Instrument.Component World} {observers : List Observer}
    {name : String} {o : Except Failure α} {last : List Remark}
    (h : c.AtEnd observers name o last) : ∀ r ∈ last, r.isTold = true := by
  obtain ⟨references, elapsed, rfl⟩ := h
  split
  · exact fun _ => Observer.isTold_of_mem
  · exact List.forall_mem_nil _

theorem isInterrupt_of_isStorage {f : Failure} (h : f.isStorage = true) :
    f.isInterrupt = false := by
  cases f with
  | storage | sizeUnknown => rfl
  | _ => cases h

/-! ## Relaying -/

/-- A request was sent by a method of an adapter, which was called in a session. -/
structure SentBy (observers : List Observer) (m : RemoteMethod) (client : Client)
    (r : Session World) (request : Request) (answer : Answer) : Prop where
  asks : ∃ number, m.Asks client number request
  outcome : ((m.run client (observers.map Observer.concern)).runFrom r).1 = m.outcome request answer

/-- A request was sent by a method of an adapter. If that has failed as a storage call then this is
the outcome, and what is remarked after the request is what the observers of the method are told,
and then what goes `above` the method. -/
def Relayed (observers : List Observer) (above : Failure → List Remark → Prop) (s : Session World)
    (o : Except Failure α) (before : List Remark) (request : Request) (answer : Answer)
    (after : List Remark) : Prop :=
  ∃ m client r, s.Onward before r ∧ SentBy observers m client r request answer ∧
    ∀ f, m.outcome request answer = .error f → f.isStorage = true → o = .error f ∧
      ∃ inner outer, after = inner ++ outer ∧ above f outer ∧
        Failed observers (m.component client (observers.map Observer.concern)).id m.operation f
          inner

/-- Every request among remarks is relayed. -/
def Relays (observers : List Observer) (above : Failure → List Remark → Prop) (s : Session World)
    (o : Except Failure α) (more : List Remark) : Prop :=
  ∀ before request answer after, more = before ++ .sent request answer :: after →
    Relayed observers above s o before request answer after

namespace Relays

variable {observers : List Observer} {above above' : Failure → List Remark → Prop}
  {s t : Session World} {o : Except Failure α} {o' : Except Failure β}
  {more rest last : List Remark}

theorem of_unsent (h : sends more = 0) : Relays observers above s o more :=
  fun _ _ _ _ heq => absurd heq (Remark.ne_of_unsent h)

theorem mono (h : Relays observers above s o more)
    (habove : ∀ f outer, o = .error f → above f outer → above' f outer) :
    Relays observers above' s o more := by
  intro before request answer after heq
  obtain ⟨m, client, r, hr, hsent, hfailed⟩ := h before request answer after heq
  refine ⟨m, client, r, hr, hsent, fun f hf hstorage => ?_⟩
  obtain ⟨ho, inner, outer, hafter, houter, hinner⟩ := hfailed f hf hstorage
  exact ⟨ho, inner, outer, hafter, habove f outer ho houter, hinner⟩

/-- What goes for an outcome goes for every other one with the same failure. -/
theorem outcome (h : Relays observers above s o more) (ho : ∀ f, o = .error f → o' = .error f) :
    Relays observers above s o' more := by
  intro before request answer after heq
  obtain ⟨m, client, r, hr, hsent, hfailed⟩ := h before request answer after heq
  refine ⟨m, client, r, hr, hsent, fun f hf hstorage => ?_⟩
  obtain ⟨hfailure, hafter⟩ := hfailed f hf hstorage
  exact ⟨ho f hfailure, hafter⟩

/-- More is remarked when nothing has failed. -/
theorem append {a : α} (h : Relays observers above s (.ok a) more) (hst : s.Onward more t)
    (h' : Relays observers above t o' rest) : Relays observers above s o' (more ++ rest) := by
  intro before request answer after heq
  have hrest : ∀ between, before = more ++ between →
      rest = between ++ .sent request answer :: after →
        Relayed observers above s o' before request answer after := by
    rintro between rfl hrest
    obtain ⟨m, client, r, hr, hsent, hfailed⟩ := h' between request answer after hrest
    exact ⟨m, client, r, hst.trans hr, hsent, hfailed⟩
  rcases List.append_eq_append_iff.1 heq with ⟨between, hbefore, hlater⟩ | ⟨between, hmore, hlater⟩
  · exact hrest between hbefore hlater
  · cases between with
    | nil => exact hrest [] (by simpa using hmore.symm) (by simpa using hlater.symm)
    | cons first between =>
      obtain ⟨rfl, rfl⟩ := List.cons.inj hlater
      obtain ⟨m, client, r, hr, hsent, hfailed⟩ := h before request answer between hmore
      refine ⟨m, client, r, hr, hsent, fun f hf hstorage => ?_⟩
      cases (hfailed f hf hstorage).1

/-- What is remarked last, without a request, goes above. -/
theorem append_unsent (h : Relays observers above s o more) (hlast : sends last = 0)
    (habove : ∀ f outer, o = .error f → f.isStorage = true → above f outer →
      above' f (outer ++ last)) : Relays observers above' s o (more ++ last) := by
  intro before request answer after heq
  rcases List.append_eq_append_iff.1 heq with ⟨between, -, hlater⟩ | ⟨between, hmore, hlater⟩
  · exact absurd hlater (Remark.ne_of_unsent hlast)
  · cases between with
    | nil =>
      have hsent : last = [] ++ .sent request answer :: after := by simpa using hlater.symm
      exact absurd hsent (Remark.ne_of_unsent hlast)
    | cons first between =>
      obtain ⟨rfl, rfl⟩ := List.cons.inj hlater
      obtain ⟨m, client, r, hr, hsent, hfailed⟩ := h before request answer between hmore
      refine ⟨m, client, r, hr, hsent, fun f hf hstorage => ?_⟩
      obtain ⟨ho, inner, outer, rfl, houter, hinner⟩ := hfailed f hf hstorage
      exact ⟨ho, inner, outer ++ last, List.append_assoc _ _ _, habove f outer ho hstorage houter,
        hinner⟩

/-- There is nothing to remark before. -/
theorem of_nil (hst : s.Onward [] t) (h : Relays observers above t o more) :
    Relays observers above s o more := by
  intro before request answer after heq
  obtain ⟨m, client, r, hr, hsent, hfailed⟩ := h before request answer after heq
  exact ⟨m, client, r, hst.of_nil hr, hsent, hfailed⟩

end Relays

/-- From a session on, a flow relays every request, and `above` goes with the session after it.
Nothing is written on standard error. -/
def RelaysFrom (observers : List Observer) (above : Failure → List Remark → Session World → Prop)
    (s : Session World) (body : Flow World α) : Prop :=
  ∃ more, s.Onward more (body.runFrom s).2 ∧ complaints more = [] ∧
    Relays observers (fun f outer => above f outer (body.runFrom s).2) s (body.runFrom s).1 more

namespace RelaysFrom

variable {observers : List Observer} {above above' : Failure → List Remark → Session World → Prop}
  {s : Session World} {body : Flow World α}

theorem unremarkable (h : body.Unremarkable) : RelaysFrom observers above s body :=
  ⟨[], h s, rfl, .of_unsent rfl⟩

theorem settles {body : Flow World Unit} (h : body.Settles) (hs : Log.Clean s) :
    RelaysFrom observers above s body := by
  obtain ⟨t, ht, hst⟩ := h s hs
  refine ⟨[], ?_, rfl, .of_unsent rfl⟩
  rw [ht]
  exact hst

theorem mono (h : RelaysFrom observers above s body)
    (habove : ∀ f outer u, body.runFrom s = (.error f, u) → above f outer u → above' f outer u) :
    RelaysFrom observers above' s body := by
  obtain ⟨more, hmore, hsilent, hrelays⟩ := h
  exact ⟨more, hmore, hsilent, hrelays.mono fun f outer ho => habove f outer _ (Prod.ext ho rfl)⟩

theorem bind {next : α → Flow World β} (hb : RelaysFrom observers above s body)
    (hn : ∀ a t more, s.Onward more t → body.runFrom s = (.ok a, t) →
      RelaysFrom observers above t (next a)) : RelaysFrom observers above s (body >>= next) := by
  unfold RelaysFrom at hb ⊢
  rw [Flow.runFrom_bind]
  obtain ⟨more, hmore, hsilent, hrelays⟩ := hb
  generalize hrun : body.runFrom s = r at hmore hrelays ⊢
  rcases r with ⟨f | a, t⟩
  · exact ⟨more, hmore, hsilent, hrelays.outcome fun _ hf => by cases hf; rfl⟩
  · obtain ⟨rest, hrest, hsilent', hrelays'⟩ := hn a t more hmore hrun
    refine ⟨more ++ rest, hmore.trans hrest, ?_, Relays.append (hrelays.mono ?_) hmore hrelays'⟩
    · rw [Remark.complaints_append, hsilent, hsilent', List.append_nil]
    · intro f outer ho
      cases ho

end RelaysFrom

/-- Wherever log records can be written, a flow relays every request, with nothing above. -/
def Relaying (observers : List Observer) (body : Flow World α) : Prop :=
  ∀ s, Log.Clean s → RelaysFrom observers (fun _ outer _ => outer = []) s body

namespace Relaying

variable {observers : List Observer} {body : Flow World α}

theorem unremarkable (h : body.Unremarkable) : Relaying observers body :=
  fun _ _ => .unremarkable h

theorem bind {next : α → Flow World β} (hb : Relaying observers body)
    (hn : ∀ a, Relaying observers (next a)) : Relaying observers (body >>= next) :=
  fun s hs => .bind (hb s hs) fun a t _ ht _ => hn a t (ht.clean hs)

/-- What comes last ends well, and there is nothing to remark on it. -/
theorem andFinally {last : Flow World Unit} (hb : Relaying observers body) (hlast : last.Settles) :
    Relaying observers (body.andFinally last) := by
  intro s hs
  obtain ⟨more, hmore, hsilent, hrelays⟩ := hb s hs
  obtain ⟨u, hu, hend⟩ := hlast _ (hmore.clean hs)
  unfold RelaysFrom
  rw [Flow.runFrom_andFinally, hu]
  exact ⟨more, hmore.then_nil hend, hsilent, hrelays⟩

theorem bookkeeping (h : body.Unremarkable) : Relaying observers (bookkeeping body) := by
  refine .unremarkable (.bind (.attempt h) fun outcome => ?_)
  cases outcome with
  | error f => exact .throw _
  | ok a => exact .pure a

end Relaying

/-! ## Methods of adapters -/

section Methods

variable {observers : List Observer} {s : Session World} {client : Client} {m : RemoteMethod}

theorem onward_afterSending (request : Request) :
    s.Onward [.sent request s.world.network.next.1] (afterSending s request) := by
  have hnone : s.world.network.answers = s.world.network.answers.drop 0 := rfl
  obtain ⟨hanswer, hleft, -⟩ := next_drop s.world.network hnone
  exact ⟨⟨[.request request], rfl, by rw [hanswer]; rfl⟩, hleft, fun hs => hs⟩

/-- A method of an adapter relays its request. -/
theorem relaying_run (hquiet : ∀ d, Observer.other d ∈ observers → d.Quiet) (client : Client)
    (m : RemoteMethod) : Relaying observers (m.run client (observers.map Observer.concern)) := by
  intro s hs
  let c := m.component client (observers.map Observer.concern)
  have hc : c.telemetry = observers.map Observer.concern := by cases m <;> rfl
  let answer := answerAt s.world.network.answers 0
  have hbody : ∀ t, s.Onward [] t → ∃ more, t.Onward more ((m.body client).runFrom t).2 ∧
      (more = [] ∨ ∃ number request, m.Asks client number request ∧
        ((m.body client).runFrom t).1 = m.outcome request answer ∧
          more = [.sent request answer]) := by
    intro t hst
    have hsame : t.world.network.next.1 = answer := (next_drop _ hst.answers).1
    rcases body_cases m client t with ⟨f, hf⟩ | ⟨number, request, hasks, hrun⟩
    · rw [hf]
      exact ⟨[], .refl t, .inl rfl⟩
    · rw [hrun, hsame]
      exact ⟨_, onward_afterSending request, .inr ⟨number, request, hasks, rfl, by rw [hsame]⟩⟩
  obtain ⟨more, hmore, hcall⟩ := c.remarks_call (P := fun o more => more = [] ∨ ∃ number request,
    m.Asks client number request ∧ o = m.outcome request answer ∧ more = [.sent request answer])
    hc hquiet m.operation m.supplied hs hbody
  rw [RelaysFrom, RemoteMethod.run_eq]
  refine ⟨more, hmore, ?_⟩
  rcases hcall with ⟨f, -, rfl⟩ | ⟨inner, last, hinner, hlast, rfl⟩
  · exact ⟨rfl, .of_unsent rfl⟩
  have htold := isTold_of_atEnd hlast
  rcases hinner with rfl | ⟨number, request, hasks, hrun, rfl⟩
  · exact ⟨Remark.complaints_of_told htold, .of_unsent (Remark.sends_of_told htold)⟩
  refine ⟨(Remark.complaints_of_told htold : complaints last = []), ?_⟩
  intro before request' answer' after heq
  -- What follows the request is told, not sent, so that nothing can stand before it.
  cases before with
  | cons first before =>
    exact absurd (List.cons.inj heq).2 (Remark.ne_of_unsent (Remark.sends_of_told htold))
  | nil =>
    obtain ⟨hfirst, rfl⟩ := List.cons.inj heq
    cases hfirst
    have hsent : SentBy observers m client s request answer :=
      ⟨⟨number, hasks⟩, by rw [RemoteMethod.run_eq]; exact hrun⟩
    refine ⟨m, client, s, .refl s, hsent, fun f hf hstorage => ?_⟩
    have hrun' := hrun.trans hf
    rw [hrun'] at hlast
    exact ⟨hrun', last, [], (List.append_nil last).symm, rfl,
      failed_of_atEnd hlast (isInterrupt_of_isStorage hstorage)⟩

end Methods

/-! ## Pools over the network -/

section Pools

variable {nodes : DatanodeSettings}

theorem unremarkable_put_pool (pool : Pool Client) : (Flow.put World.poolSlot pool).Unremarkable :=
  fun _ => .of_kept rfl rfl rfl

/-- Closing a client cannot fail. -/
theorem closes (client : Client) (s : Session World) :
    ∃ t, (client.close World.networkSlot).runFrom s = (.ok (), t) ∧ s.Onward [] t := by
  unfold Client.close
  split
  · unfold Http.Network.disconnect
    rw [Flow.runFrom_bind_ok (Flow.runFrom_look _ s)]
    split
    · exact ⟨s, rfl, .refl s⟩
    · rw [Flow.runFrom_bind_ok (Flow.runFrom_put _ _ s)]
      exact ⟨_, rfl, ⟨[.connectionClosed _], rfl, rfl⟩, rfl, fun hs => hs⟩
  · exact ⟨s, rfl, .refl s⟩

theorem settles_close (client : Client) : (client.close World.networkSlot).Settles :=
  fun s _ => closes client s

theorem settles_closeQuietly (handle : NetworkHandle) :
    ((Pool.overNetwork World.poolSlot World.networkSlot nodes).closeQuietly handle).Settles :=
  .handling (settles_close handle.client)

theorem unremarkable_closeQuietly (handle : NetworkHandle) :
    ((Pool.overNetwork World.poolSlot World.networkSlot nodes).closeQuietly
      handle).Unremarkable := by
  refine .handling (fun s => ?_) fun _ => .logWith _ _ _ _
  obtain ⟨t, ht, hst⟩ := closes handle.client s
  change s.Onward [] ((handle.client.close World.networkSlot).runFrom s).2
  rw [ht]
  exact hst

theorem settles_closeAll (gone : List NetworkHandle) :
    ((Pool.overNetwork World.poolSlot World.networkSlot nodes).closeAll gone).Settles := by
  induction gone with
  | nil => exact .pure
  | cons handle r ih => exact .bind (settles_closeQuietly handle) ih

theorem settles_put_pool (pool : Pool Client) : (Flow.put World.poolSlot pool).Settles :=
  fun s _ => ⟨_, rfl, unremarkable_put_pool pool s⟩

theorem settles_release (handle : NetworkHandle) :
    ((Pool.overNetwork World.poolSlot World.networkSlot nodes).release handle).Settles := by
  refine .look_bind fun pool => ?_
  split
  · refine .logWith fun e he => ?_
    rw [List.mem_singleton.1 he]
    exact ⟨rfl, rfl⟩
  · exact .bind (settles_put_pool _) (settles_closeAll _)

theorem settles_bookkeeping {step : Flow World Unit} (h : step.Settles) :
    (Service.bookkeeping step).Settles := by
  intro s hs
  obtain ⟨t, ht, hst⟩ := h s hs
  refine ⟨t, ?_, hst⟩
  unfold Service.bookkeeping
  rw [Flow.runFrom_bind_ok (Flow.runFrom_attempt step s), ht]
  rfl

theorem unremarkable_connect (pipeline : Pipeline) :
    ((Pool.overNetwork World.poolSlot World.networkSlot nodes).connect pipeline).Unremarkable := by
  intro s
  rcases @Undisturbed.runFrom_connect nodes pipeline s with ⟨f, hf⟩ | ⟨client, -, ho⟩
  · rw [hf]
    exact .refl s
  · rw [ho]
    exact .of_kept rfl rfl rfl

theorem unremarkable_openHandle (pool : Pool Client) (pipeline : Pipeline) :
    ((Pool.overNetwork World.poolSlot World.networkSlot nodes).openHandle pool
      pipeline).Unremarkable := by
  refine .bind (unremarkable_connect pipeline) fun client => ?_
  refine .bind (unremarkable_put_pool _) fun _ => ?_
  split
  · exact .pure _
  · refine .bind (.logWith _ _ _ _) fun _ => ?_
    split
    · exact .bind (unremarkable_closeQuietly _) fun _ => .pure _
    · exact .pure _

theorem unremarkable_acquire (pipeline : Pipeline) (containerId : Int) :
    ((Pool.overNetwork World.poolSlot World.networkSlot nodes).acquire pipeline
      containerId).Unremarkable := by
  have hlog : ∀ handle : NetworkHandle, (do
      Pool.Connector.logAcquired handle containerId
      pure handle : Flow World NetworkHandle).Unremarkable := fun handle =>
    .bind (.logWith _ _ _ _) fun _ => .pure handle
  unfold Pool.Connector.acquire
  split
  · exact .throw _
  · refine .bind (.look _) fun pool => ?_
    split
    · exact .bind (unremarkable_put_pool _) fun _ => .bind (.pure _) hlog
    · exact .bind (unremarkable_openHandle pool pipeline) hlog

/-- The pool lets go of its clients, and then the service of its own. -/
theorem settles_shutDown {own : ContainerOperationsSettings} {client : Client}
    {telemetry : List (Instrument.Concern World)} :
    (overNetwork own client nodes telemetry).shutDown.Settles :=
  .bind (.look_bind fun _ => .bind (settles_put_pool _) (settles_closeAll _)) (settles_close client)

end Pools

/-! ## Operations -/

/-- The name that observers know an operation by. They are not told that the service shuts down. -/
def Operation.name? : Operation → Option String
  | container (.create ..) => some "create_container"
  | container (.close ..) => some "close_container"
  | container (.delete ..) => some "delete_container"
  | container (.read ..) => some "read_container"
  | get _ => some "get_container"
  | list .. => some "list_container"
  | queryNodes .. => some "query_node"
  | replicate .. => some "create_replication_pipeline"
  | size _ => some "get_container_size"
  | shutDown => none

section Operations

variable {observers : List Observer} {own : ContainerOperationsSettings} {client : Client}
  {nodes : DatanodeSettings} (hquiet : ∀ d, Observer.other d ∈ observers → d.Quiet)

/-- The service over the network that is observed by someone. -/
def observedOver (observers : List Observer) (own : ContainerOperationsSettings) (client : Client)
    (nodes : DatanodeSettings) : NetworkService :=
  overNetwork own client nodes (observers.map Observer.concern)

/-- A call of the service tells its observers of a failure that it relays. -/
def Observed (observers : List Observer) (name : String) (f : Failure) (outer : List Remark)
    (_ : Session World) : Prop :=
  Failed observers ContainerOperationsSettings.componentId name f outer

include hquiet

theorem relays_call (name : String) (supplied : List (String × Value)) {body : Flow World α}
    (hbody : Relaying observers body) {s : Session World} (hs : Log.Clean s) :
    RelaysFrom observers (Observed observers name) s
      ((observedOver observers own client nodes).component.call name supplied body) := by
  have hc : (observedOver observers own client nodes).component.telemetry =
    observers.map Observer.concern := rfl
  obtain ⟨more, hmore, hcall⟩ := Instrument.Component.remarks_call
    (P := fun o more => complaints more = [] ∧
      Relays observers (fun _ outer => outer = []) s o more) hc hquiet name supplied hs
    fun t hst => by
      obtain ⟨more, hmore, hsilent, hrelays⟩ := hbody t (hst.clean hs)
      exact ⟨more, hmore, hsilent, hrelays.of_nil hst⟩
  refine ⟨more, hmore, ?_⟩
  rcases hcall with ⟨f, -, rfl⟩ | ⟨inner, last, ⟨hinner, hrelays⟩, hlast, rfl⟩
  · exact ⟨rfl, .of_unsent rfl⟩
  · have htold := isTold_of_atEnd hlast
    refine ⟨?_, hrelays.append_unsent (Remark.sends_of_told htold) ?_⟩
    · rw [Remark.complaints_append, hinner, Remark.complaints_of_told htold, List.append_nil]
    rintro f _ ho hstorage rfl
    rw [ho] at hlast
    exact failed_of_atEnd hlast (isInterrupt_of_isStorage hstorage)

theorem relaying_notify (containerId : Int) (operation : StageOperation) (phase : StagePhase) :
    Relaying observers
      ((observedOver observers own client nodes).notify containerId operation phase) := by
  cases hid : Decimal.isOverlong containerId with
  | true =>
    rw [notify_of_overlong hid]
    exact .unremarkable (.throw _)
  | false =>
    rw [notify_of_fits hid]
    exact relaying_run hquiet client (.notify (stageEvent containerId operation phase))

theorem relaying_prepare (handle : NetworkHandle) (pipeline : Pipeline) :
    Relaying observers ((observedOver observers own client nodes).prepare handle pipeline) := by
  unfold prepare materialize
  split
  · split
    · exact .unremarkable (.throw _)
    · exact .unremarkable (.throw _)
    · rename_i name _ _
      exact .bind (relaying_run hquiet handle.client (.createPipeline name pipeline.members))
        fun _ => .unremarkable (.logWith _ _ _ _)
  · exact .unremarkable (.pure ())
  · exact .unremarkable (.throw _)

omit hquiet in
theorem relaying_newTrace :
    Relaying observers (observedOver observers own client nodes).parts.newTrace := by
  refine .unremarkable (.bind (.look _) fun n => .bind ?_ fun _ => .look _)
  exact fun _ => .of_kept rfl rfl rfl

omit hquiet in
/-- What is done on a handle is relayed, whatever becomes of the handle. -/
theorem relaying_holding (pipeline : Pipeline) (containerId : Int)
    {body : NetworkHandle → Flow World α} (hbody : ∀ handle, Relaying observers (body handle)) :
    Relaying observers
      ((observedOver observers own client nodes).holding pipeline containerId body) :=
  .bind (.bookkeeping (unremarkable_acquire pipeline containerId)) fun handle =>
    .andFinally (hbody handle) (settles_bookkeeping (settles_release handle))

include hquiet

/-- What is done about a container between the reports of its beginning and of its end. -/
theorem relaying_reported (containerId : Int) (operation : StageOperation)
    {action : String → Flow World Unit} (haction : ∀ trace, Relaying observers (action trace))
    {log : Flow World Unit} (hlog : log.Unremarkable) :
    Relaying observers (do
      (observedOver observers own client nodes).notify containerId operation .begun
      let trace ← (observedOver observers own client nodes).parts.newTrace
      action trace
      (observedOver observers own client nodes).notify containerId operation .complete
      log) :=
  .bind (relaying_notify hquiet containerId operation .begun) fun _ =>
    .bind relaying_newTrace fun trace => .bind (haction trace) fun _ =>
      .bind (relaying_notify hquiet containerId operation .complete) fun _ => .unremarkable hlog

variable {s : Session World} (hs : Log.Clean s)

include hs

theorem relays_create (owner : String) (type : Option ReplicationType)
    (factor : Option ReplicationFactor) :
    RelaysFrom observers (Observed observers "create_container") s
      ((observedOver observers own client nodes).create owner type factor) := by
  refine relays_call hquiet _ _ ?_ hs
  refine .bind (relaying_run hquiet client (.allocate _ _ owner)) fun record => ?_
  refine .bind (relaying_holding record.pipeline record.containerId fun handle => ?_)
    fun _ => .unremarkable (.pure record)
  exact .bind (relaying_prepare hquiet handle record.pipeline) fun _ =>
    relaying_reported hquiet record.containerId .create
      (fun trace => relaying_run hquiet handle.client (.createData record.containerId trace))
      (.logWith _ _ _ _)

theorem relays_close (containerId : Int) (pipeline : Pipeline) :
    RelaysFrom observers (Observed observers "close_container") s
      ((observedOver observers own client nodes).close containerId pipeline) := by
  refine relays_call hquiet _ _ (relaying_holding pipeline containerId fun handle => ?_) hs
  exact relaying_reported hquiet containerId .close
    (fun trace => relaying_run hquiet handle.client (.closeData containerId trace))
    (.logWith _ _ _ _)

theorem relays_delete (containerId : Int) (pipeline : Pipeline) (force : Option Bool) :
    RelaysFrom observers (Observed observers "delete_container") s
      ((observedOver observers own client nodes).delete containerId pipeline force) := by
  refine relays_call hquiet _ _ (relaying_holding pipeline containerId fun handle => ?_) hs
  refine .bind relaying_newTrace fun trace => ?_
  refine .bind (relaying_run hquiet handle.client (.deleteData containerId _ trace)) fun _ => ?_
  exact .bind (relaying_run hquiet client (.deleteRecord containerId)) fun _ =>
    .unremarkable (.logWith _ _ _ _)

theorem relays_read (containerId : Int) (pipeline : Pipeline) :
    RelaysFrom observers (Observed observers "read_container") s
      ((observedOver observers own client nodes).read containerId pipeline) := by
  refine relays_call hquiet _ _ (relaying_holding pipeline containerId fun handle => ?_) hs
  refine .bind relaying_newTrace fun trace => ?_
  refine .bind (relaying_run hquiet handle.client (.readData containerId trace)) fun data => ?_
  exact .bind (.unremarkable (.logWith _ _ _ _)) fun _ => .unremarkable (.pure data)

theorem relays_get (containerId : Int) :
    RelaysFrom observers (Observed observers "get_container") s
      ((observedOver observers own client nodes).get containerId) :=
  relays_call hquiet _ _ (relaying_run hquiet client (.getRecord containerId)) hs

theorem relays_list (start count : Int) :
    RelaysFrom observers (Observed observers "list_container") s
      ((observedOver observers own client nodes).list start count) := by
  refine relays_call hquiet _ _ ?_ hs
  by_cases hstart : start < 0
  · simp only [hstart, if_true]
    exact .unremarkable (.throw _)
  · by_cases hcount : count ≤ 0
    · simp only [hstart, hcount, if_true, if_false]
      exact .unremarkable (.throw _)
    · simp only [hstart, hcount, if_false]
      exact relaying_run hquiet client (.listRecords start count)

theorem relays_size (containerId : Int) :
    RelaysFrom observers (Observed observers "get_container_size") s
      ((observedOver observers own client nodes).size containerId) := by
  refine relays_call hquiet _ _ (.unremarkable ?_) hs
  split
  · exact .throw _
  · exact .pure _

/-- Every operation of the service relays its requests, and tells its observers of a failure. -/
theorem Operation.relays_run (op : Operation) :
    RelaysFrom observers (fun f outer u => ∃ name, op.name? = some name ∧
      Observed observers name f outer u) s (op.run (observedOver observers own client nodes)) := by
  have hnamed : ∀ {α : Type} {body : Flow World α} {name : String}, op.name? = some name →
      RelaysFrom observers (Observed observers name) s body →
      RelaysFrom observers (fun f outer u => ∃ name, op.name? = some name ∧
        Observed observers name f outer u) s body :=
    fun hname h => h.mono fun _ _ _ _ hf => ⟨_, hname, hf⟩
  have hdropped : ∀ {α : Type} {body : Flow World α} {name : String}, op.name? = some name →
      RelaysFrom observers (Observed observers name) s body →
      RelaysFrom observers (fun f outer u => ∃ name, op.name? = some name ∧
        Observed observers name f outer u) s (body >>= fun _ => pure ()) :=
    fun hname h => .bind (hnamed hname h) fun _ _ _ _ _ => .unremarkable (.pure ())
  cases op with
  | container op =>
    cases op with
    | create owner type factor => exact hdropped rfl (relays_create hquiet hs owner type factor)
    | close containerId pipeline => exact hnamed rfl (relays_close hquiet hs containerId pipeline)
    | delete containerId pipeline force =>
      exact hnamed rfl (relays_delete hquiet hs containerId pipeline force)
    | read containerId pipeline => exact hdropped rfl (relays_read hquiet hs containerId pipeline)
  | get containerId => exact hdropped rfl (relays_get hquiet hs containerId)
  | list start count => exact hdropped rfl (relays_list hquiet hs start count)
  | queryNodes states scope pool =>
    exact hdropped rfl (relays_call hquiet _ _
      (relaying_run hquiet client (.queryNodes states scope pool)) hs)
  | replicate type factor nodes =>
    exact hdropped rfl (relays_call hquiet _ _
      (relaying_run hquiet client (.replicate type factor nodes)) hs)
  | size containerId => exact hdropped rfl (relays_size hquiet hs containerId)
  | shutDown => exact .settles settles_shutDown hs

end Operations

end Service

end Stowage
