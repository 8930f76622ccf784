import Stowage.Proofs.Command.Printed
import Stowage.Proofs.Command.Requests
import Stowage.Proofs.Service.Classified
import Stowage.Proofs.Service.Relayed

/-!
Failures of requests as a process tells of them.

A command line is run under the eyes of observers (`CommandLine.runFor`); the one that is run
otherwise has observers who keep to themselves (`CommandLine.runFor_silent`). A request that fails
ends the process: the failure of the adapter's method is that of the operation of the service and of
the command, observers are told of it once at either layer, and what is written on standard error
reads as its detail (`CommandLine.failures_told`).
-/

namespace Stowage

open Http (Request Answer Client)

open Instrument (Observer)

open Remark (sends complaints)

open Service

/-! ## Observed command lines -/

namespace CommandLine

/-- Load the settings, set logging up, and connect the service, which is observed. -/
def prepareFor (observers : List Observer) (surroundings : Surroundings) (line : CommandLine) :
    Flow World NetworkService := do
  let settings ← Flow.ofExcept (Config.loadSettings (surroundings.sources line.configPath))
  Log.configureFrom settings.logging line.logLevel
  Service.connect settings (observers.map Observer.concern)

/-- Carry a command out, let go of the service, and write the result. -/
def finish (line : CommandLine) (service : NetworkService) : Flow World ExitStatus := do
  match ← Flow.andFinally (line.telling (line.command.perform service)) service.shutDown with
  | .error status => pure status
  | .ok result =>
    let text ← Flow.ofExcept (Command.output line.asJson result)
    Flow.record (.printed text)
    pure .success

/-- Run a command line that is observed. -/
def runFor (observers : List Observer) (surroundings : Surroundings) (line : CommandLine) :
    Flow World ExitStatus := do
  match ← line.telling (line.prepareFor observers surroundings) with
  | .error status => pure status
  | .ok service => line.finish service

/-- Unless someone else observes, those do who drop what they are told. -/
theorem runFor_silent (surroundings : Surroundings) (line : CommandLine) :
    line.runFor [.other (.tracing 0 .silent), .other (.metrics .silent)] surroundings =
      line.run surroundings := rfl

/-! ## Setting up -/

section Setup

variable {observers : List Observer} {surroundings : Surroundings} {line : CommandLine}
  {s t : Session World}

theorem clean_bind {entries : List (String × Value)} (he : Log.Bindable entries)
    (hs : Log.Clean s) : Log.Clean ((Log.bind (Log.fields entries)).runFrom s).2 := by
  obtain ⟨context, hcontext, hkeys⟩ := Log.bound_fields (fun e h => (he e h).2) s.context
  rw [Log.runFrom_bind_fields hcontext]
  intro e hmem
  rcases hkeys e.1 (List.mem_map_of_mem hmem) with hk | hk
  · obtain ⟨e', he', heq⟩ := List.mem_map.1 hk
    rw [← heq]
    exact hs e' he'
  · obtain ⟨e', he', heq⟩ := List.mem_map.1 hk
    rw [← heq]
    exact (he e' he').1

/-- The names of the service and of the environment are none that a record is held together by. -/
theorem clean_configureFrom (settings : LoggingSettings) (level : Option String)
    (hs : Log.Clean s) : Log.Clean ((Log.configureFrom settings level).runFrom s).2 := by
  unfold Log.configureFrom Log.configure
  simp only [Flow.runFrom_bind, Flow.runFrom_ofStep]
  split
  · exact hs
  · simp only [Flow.runFrom_bind, Flow.runFrom_ofStep]
    refine clean_bind (fun e he => ?_) hs
    simp only [List.mem_cons, List.not_mem_nil, or_false] at he
    rcases he with rfl | rfl
    · refine ⟨rfl, ?_⟩
      dsimp only
      split <;> rfl
    · refine ⟨rfl, ?_⟩
      dsimp only
      split <;> rfl

theorem unremarkable_configureFrom (settings : LoggingSettings) (level : Option String) :
    (Log.configureFrom settings level : Flow World Unit).Unremarkable := by
  intro s
  obtain ⟨hworld, hjournal⟩ := Log.kept_of_configureFrom settings level s
  refine ⟨⟨[], by rw [hjournal, List.append_nil], rfl⟩, by rw [hworld]; rfl, ?_⟩
  exact clean_configureFrom settings level

theorem unremarkable_connect (settings : Settings) (telemetry : List (Instrument.Concern World)) :
    (Service.connect settings telemetry).Unremarkable := by
  have hplacement : ∀ placement : PlacementSettings,
      (Placement.connect World.networkSlot placement telemetry).Unremarkable := by
    intro placement
    refine .bind (.bind (.ofExcept _) fun base => .bind (fun s => ?_) fun number => .pure _)
      fun client => .pure _
    exact .of_kept rfl rfl rfl
  refine .bind (.ofExcept _) fun own => .bind (.ofExcept _) fun placement => ?_
  exact .bind (hplacement placement) fun reached => .bind (.ofExcept _) fun nodes => .pure _

theorem unremarkable_prepareFor (observers : List Observer) (surroundings : Surroundings)
    (line : CommandLine) : (line.prepareFor observers surroundings).Unremarkable :=
  .bind (.ofExcept _) fun settings => .bind (unremarkable_configureFrom _ _) fun _ =>
    unremarkable_connect settings _

/-- The service that is prepared is one over the network. -/
theorem prepareFor_observed {service : NetworkService}
    (h : (line.prepareFor observers surroundings).runFrom s = (.ok service, t)) :
    ∃ own client nodes, service = observedOver observers own client nodes := by
  obtain ⟨settings, u, -, h⟩ := Flow.exists_of_bind_ok h
  obtain ⟨_, v, -, h⟩ := Flow.exists_of_bind_ok h
  obtain ⟨own, -, client, nodes, -, -, -, -, -, -, hservice, -⟩ := connect_overNetwork h
  exact ⟨own, client, nodes, hservice⟩

end Setup

/-! ## Telling -/

section Finish

variable {observers : List Observer} {line : CommandLine} {service : NetworkService}
  {s : Session World} {above : Failure → List Remark → Session World → Prop}

/-- Nothing is sent while a failure is told of. One of a storage call is told in its own words and
decides how the process ends. -/
theorem onward_tell (f : Failure) (s : Session World) :
    ∃ told, s.Onward told ((line.tell f).runFrom s).2 ∧ sends told = 0 ∧
      (f.isStorage = true → ((line.tell f).runFrom s).1 = .ok .storage ∧
        ∃ written, Command.errorOutput line.asJson f = .ok written ∧
          told = [.complained written]) := by
  have hstorage : f.isStorage = true → ExitStatus.of? f = some .storage ∧
      f.isOverlong = false := by
    intro hf
    cases f with
    | storage | sizeUnknown => exact ⟨rfl, rfl⟩
    | _ => cases hf
  cases hof : ExitStatus.of? f with
  | none =>
    rw [runFrom_tell_none hof]
    refine ⟨[], .refl s, rfl, fun hf => ?_⟩
    cases hof.symm.trans (hstorage hf).1
  | some status =>
    rw [runFrom_tell_some hof]
    cases hwritten : Command.errorOutput line.asJson f with
    | error reason =>
      refine ⟨[], .refl s, rfl, fun hf => ?_⟩
      cases hwritten.symm.trans (Command.errorOutput_eq line.asJson (hstorage hf).2)
    | ok written =>
      have hrecorded : s.Onward (Remark.ofEvents [] [.complained written])
          { s with journal := s.journal ++ [.complained written] } := .record rfl
      refine ⟨_, hrecorded, rfl, fun hf => ?_⟩
      cases hof.symm.trans (hstorage hf).1
      exact ⟨rfl, written, rfl, rfl⟩

/-- What a process tells of a failure that ends its command. It writes nothing else on standard
error. -/
def Complains (line : CommandLine) (above : Failure → List Remark → Prop)
    (status : Except Failure ExitStatus) (written : List String) (f : Failure)
    (outer : List Remark) : Prop :=
  status = .ok .storage ∧ ∃ text told, Command.errorOutput line.asJson f = .ok text ∧
    written = [text] ∧ outer = told ++ [.complained text] ∧ above f told

theorem runFrom_finish_error {f : Failure} {u v w : Session World}
    {status : Except Failure ExitStatus}
    (hperform : (line.command.perform service).runFrom s = (.error f, u))
    (htell : (line.tell f).runFrom u = (status, v))
    (hdown : service.shutDown.runFrom v = (.ok (), w)) :
    (line.finish service).runFrom s = (status, w) := by
  have htelling : (line.telling (line.command.perform service)).runFrom s =
      (status.map .error, v) := by
    rw [runFrom_telling, hperform]
    simp only [htell]
    cases status <;> rfl
  unfold finish
  rw [Flow.runFrom_bind, Flow.runFrom_andFinally, htelling, hdown]
  cases status <;> rfl

theorem runFrom_finish_ok {result : Value} {u w : Session World}
    (hperform : (line.command.perform service).runFrom s = (.ok result, u))
    (hdown : service.shutDown.runFrom u = (.ok (), w)) :
    (line.finish service).runFrom s = (do
      let text ← Flow.ofExcept (Command.output line.asJson result)
      Flow.record (.printed text)
      pure ExitStatus.success : Flow World ExitStatus).runFrom w := by
  have htelling : (line.telling (line.command.perform service)).runFrom s =
      (.ok (.ok result), u) := by
    rw [runFrom_telling, hperform]
  unfold finish
  rw [Flow.runFrom_bind, Flow.runFrom_andFinally, htelling, hdown]

/-- A command that relays its requests is finished by telling of its failure. -/
theorem relays_finish (hs : Log.Clean s) (hdown : service.shutDown.Settles)
    (hperform : RelaysFrom observers above s (line.command.perform service)) :
    let performed := (line.command.perform service).runFrom s
    let last := (line.finish service).runFrom s
    ∃ all, s.Onward all last.2 ∧ Relays observers
      (line.Complains (fun f told => above f told performed.2) last.1 (complaints all)) s
        performed.1 all := by
  obtain ⟨more, hmore, hsilent, hrelays⟩ := hperform
  dsimp only
  generalize hrun : (line.command.perform service).runFrom s = performed at hmore hrelays ⊢
  obtain ⟨f | result, u⟩ := performed
  · obtain ⟨told, htold, hunsent, hstatus⟩ := line.onward_tell f u
    obtain ⟨w, hw, hend⟩ := hdown _ (htold.clean (hmore.clean hs))
    rw [runFrom_finish_error hrun rfl hw]
    refine ⟨more ++ told, hmore.trans (htold.then_nil hend), hrelays.append_unsent hunsent ?_⟩
    intro f' outer ho hstorage habove
    cases ho
    obtain ⟨hlast, text, htext, rfl⟩ := hstatus hstorage
    refine ⟨hlast, text, outer, htext, ?_, rfl, habove⟩
    rw [Remark.complaints_append, hsilent]
    rfl
  · obtain ⟨w, hw, hend⟩ := hdown u (hmore.clean hs)
    rw [runFrom_finish_ok hrun hw]
    have hprinted : (do
        let text ← Flow.ofExcept (Command.output line.asJson result)
        Flow.record (.printed text)
        pure ExitStatus.success : Flow World ExitStatus).Unremarkable :=
      .bind (.ofExcept _) fun text =>
        .bind (fun s => show s.Onward (Remark.ofEvents [] [.printed text]) _ from .record rfl)
          fun _ => .pure _
    refine ⟨more, (hmore.then_nil hend).then_nil (hprinted w), hrelays.mono fun f outer ho => ?_⟩
    cases ho

end Finish

/-! ## Commands -/

/-- An operation of the service, called in a session that follows `x`, has ended in a failure and in
the session `u`, and its observers have been told. -/
def OfService (observers : List Observer) (service : NetworkService) (x : Session World)
    (f : Failure) (outer : List Remark) (u : Session World) : Prop :=
  ∃ (op : Service.Operation) (name : String) (s : Session World) (earlier : List Remark),
    op.name? = some name ∧ x.Onward earlier s ∧ (op.run service).runFrom s = (.error f, u) ∧
      Failed observers ContainerOperationsSettings.componentId name f outer

section Perform

variable {α : Type} {observers : List Observer} {own : ContainerOperationsSettings}
  {client : Client} {nodes : DatanodeSettings} {s x : Session World} {earlier : List Remark}
  (hquiet : ∀ d, Observer.other d ∈ observers → d.Quiet) (hs : Log.Clean s)
  (hx : x.Onward earlier s)

include hquiet hs hx

/-- What goes for an operation goes for it with its result. -/
theorem relays_operation (op : Service.Operation) {body : Flow World α}
    (hop : op.run (observedOver observers own client nodes) = body >>= fun _ => pure ()) :
    RelaysFrom observers (OfService observers (observedOver observers own client nodes) x) s
      body := by
  let service := observedOver observers own client nodes
  obtain ⟨more, hmore, hsilent, hrelays⟩ : RelaysFrom observers (fun f outer u =>
      ∃ name, op.name? = some name ∧ Observed observers name f outer u) s (op.run service) :=
    op.relays_run hquiet hs
  have hrun : (op.run service).runFrom s =
      ((body.runFrom s).1.map fun _ => (), (body.runFrom s).2) := by
    rw [hop, Flow.runFrom_bind]
    rcases body.runFrom s with ⟨_ | _, _⟩ <;> rfl
  simp only [hrun] at hmore hrelays
  unfold RelaysFrom
  generalize body.runFrom s = r at hrun hmore hrelays ⊢
  obtain ⟨o, u⟩ := r
  have ho : ∀ f, o.map (fun _ => ()) = .error f → o = .error f := by
    intro f hf
    cases o with
    | error f' =>
      cases hf
      rfl
    | ok a => cases hf
  refine ⟨more, hmore, hsilent, (hrelays.outcome ho).mono ?_⟩
  rintro f outer rfl ⟨name, hname, hfailed⟩
  exact ⟨op, name, s, earlier, hname, hx, hrun, hfailed⟩

/-- A command fails as the operation of the service that fails first. -/
theorem relays_perform (command : Command) :
    RelaysFrom observers (OfService observers (observedOver observers own client nodes) x) s
      (command.perform (observedOver observers own client nodes)) := by
  have hend : ∀ {above} (value : Value) (t : Session World),
      RelaysFrom observers above t (pure value : Flow World Value) :=
    fun value _ => .unremarkable (.pure value)
  -- an operation on a container comes after its record has been asked for
  have hthen : ∀ {α : Type} (op : ContainerRecord → Service.Operation)
      {body : ContainerRecord → Flow World α} (containerId : Int)
      (value : ContainerRecord → α → Value),
      (∀ record, (op record).run (observedOver observers own client nodes) =
        body record >>= fun _ => pure ()) →
      RelaysFrom observers (OfService observers (observedOver observers own client nodes) x) s (do
        let record ← (observedOver observers own client nodes).get containerId
        let a ← body record
        pure (value record a)) := by
    intro α op body containerId value hop
    refine .bind (relays_operation hquiet hs hx (.get containerId) rfl) fun record t _ ht _ => ?_
    exact .bind (relays_operation hquiet (ht.clean hs) (hx.trans ht) (op record) (hop record))
      fun _ u _ _ _ => hend _ u
  cases command with
  | create owner type factor =>
    exact .bind (relays_operation hquiet hs hx (.container (.create owner type factor)) rfl)
      fun _ t _ _ _ => hend _ t
  | close containerId =>
    exact hthen (fun record => .container (.close containerId record.pipeline)) containerId
      (fun _ _ => .null) fun _ => (bind_pure _).symm
  | delete containerId force =>
    exact hthen (fun record => .container (.delete containerId record.pipeline (some force)))
      containerId (fun _ _ => .null) fun _ => (bind_pure _).symm
  | info containerId =>
    exact hthen (fun record => .container (.read containerId record.pipeline)) containerId
      (fun record data => .mapping [(.text "record", Model.toValue record),
        (.text "container_data", Model.toValue data)]) fun _ => rfl
  | list start count =>
    exact .bind (relays_operation hquiet hs hx (.list start count) rfl) fun _ t _ _ _ => hend _ t
  | size containerId =>
    exact .bind (relays_operation hquiet hs hx (.size containerId) rfl) fun _ t _ _ _ => hend _ t

end Perform

/-! ## Processes -/

section Run

variable {observers : List Observer} {surroundings : Surroundings} {line : CommandLine}
  {x : Session World}

theorem runFrom_runFor_error {f : Failure} {t : Session World}
    (h : (line.prepareFor observers surroundings).runFrom x = (.error f, t)) :
    (line.runFor observers surroundings).runFrom x = (line.tell f).runFrom t := by
  unfold runFor
  rw [Flow.runFrom_bind, runFrom_telling, h]
  dsimp only
  rcases (line.tell f).runFrom t with ⟨_ | _, _⟩ <;> rfl

theorem runFrom_runFor_ok {service : NetworkService} {t : Session World}
    (h : (line.prepareFor observers surroundings).runFrom x = (.ok service, t)) :
    (line.runFor observers surroundings).runFrom x = (line.finish service).runFrom t := by
  unfold runFor
  rw [Flow.runFrom_bind, runFrom_telling, h]

/-- A process sends nothing, or it has a service and relays its requests. -/
theorem relays_runFor (hquiet : ∀ d, Observer.other d ∈ observers → d.Quiet) (hx : Log.Clean x) :
    let run := (line.runFor observers surroundings).runFrom x
    ∃ all, x.Onward all run.2 ∧ (sends all = 0 ∨
      ∃ service t, (line.prepareFor observers surroundings).runFrom x = (.ok service, t) ∧
        let performed := (line.command.perform service).runFrom t
        Relays observers (line.Complains
          (fun f told => OfService observers service x f told performed.2) run.1 (complaints all))
          x performed.1 all) := by
  dsimp only
  have hbegun := unremarkable_prepareFor observers surroundings line x
  cases hprepare : (line.prepareFor observers surroundings).runFrom x with
  | mk outcome t =>
    rw [hprepare] at hbegun
    cases outcome with
    | error f =>
      obtain ⟨told, htold, hunsent, -⟩ := line.onward_tell f t
      rw [runFrom_runFor_error hprepare]
      exact ⟨told, hbegun.of_nil htold, .inl hunsent⟩
    | ok service =>
      obtain ⟨own, client, nodes, rfl⟩ := prepareFor_observed hprepare
      have ht := hbegun.clean hx
      obtain ⟨all, hall, hrelays⟩ := line.relays_finish ht settles_shutDown
        (relays_perform hquiet ht hbegun line.command)
      rw [runFrom_runFor_ok hprepare]
      exact ⟨all, hbegun.of_nil hall, .inr ⟨_, t, rfl, hrelays.of_nil hbegun⟩⟩

/-- **Failures of requests reach every layer as they are.** Whatever the network answers, every
request of a process was sent by a method of an adapter, which ended as the answer says: as
`Reported` has it, be there a response or none. If that is a failure of a storage call then it is
also the outcome of an operation of the service and of the command. The observers of the method are
told of it, and after them those of the operation; nothing else is sent. It is all that standard
error has: what is written there reads as its detail. The process ends with 4. -/
theorem failures_told (hquiet : ∀ d, Observer.other d ∈ observers → d.Quiet)
    (hjson : line.asJson = true) (hx : Log.Clean x) :
    let run := (line.runFor observers surroundings).runFrom x
    ∃ all, x.Onward all run.2 ∧ ∀ before request answer after,
      all = before ++ .sent request answer :: after →
        ∃ service t m client r,
          (line.prepareFor observers surroundings).runFrom x = (.ok service, t) ∧
          x.Onward before r ∧ SentBy observers m client r request answer ∧
          (request.url.namesProtocol = true →
            (∃ words, Lost request answer words) ∨ (∃ response, Arrives request answer response) →
              Reported m request answer (m.outcome request answer)) ∧
          ∀ text operation detail,
            m.outcome request answer = .error (.storage text operation detail) →
              ∃ (op : Service.Operation) (name : String) (s u : Session World)
                (earlier : List Remark), op.name? = some name ∧ x.Onward earlier s ∧
                (op.run service).runFrom s = (.error (.storage text operation detail), u) ∧
                (line.command.perform service).runFrom t =
                  (.error (.storage text operation detail), u) ∧
                ∃ inner outer written,
                  after = inner ++ outer ++ [.complained written] ∧
                  Failed observers (m.component client (observers.map Observer.concern)).id
                    m.operation (.storage text operation detail) inner ∧
                  Failed observers ContainerOperationsSettings.componentId name
                    (.storage text operation detail) outer ∧
                  complaints all = [written] ∧
                  Json.read written = .ok (.object [("error", Value.detailJson detail)]) ∧
                  run.1.map ExitStatus.code = .ok 4 := by
  intro run
  obtain ⟨all, hall, hrelays⟩ := relays_runFor hquiet hx
  refine ⟨all, hall, fun before request answer after heq => ?_⟩
  rcases hrelays with hunsent | ⟨service, t, hprepare, hrelays⟩
  · exact absurd heq (Remark.ne_of_unsent hunsent)
  obtain ⟨m, client, r, hr, hsent, hfailed⟩ := hrelays before request answer after heq
  refine ⟨service, t, m, client, r, hprepare, hr, hsent, fun hprotocol hkind => ?_,
    fun text operation detail hf => ?_⟩
  · rcases hkind with ⟨words, hlost⟩ | ⟨response, harrives⟩
    · exact outcome_lost hprotocol hlost
    · exact outcome_arrives hprotocol harrives
  obtain ⟨hperformed, inner, outer, hafter, hcomplains, hinner⟩ := hfailed _ hf rfl
  obtain ⟨hstatus, written, told, htext, hwritten, rfl, op, name, s, earlier, hname, hs, hrun,
    houter⟩ := hcomplains
  refine ⟨op, name, s, _, earlier, hname, hs, hrun, Prod.ext hperformed rfl, inner, told, written,
    ?_, hinner, houter, hwritten, ?_, ?_⟩
  · rw [hafter, List.append_assoc]
  · rw [hjson] at htext
    exact Command.read_errorOutput htext
  · rw [show run.1 = .ok .storage from hstatus]
    rfl

/-- The answer of a datanode that will not close a container. -/
def stillWriting : Http.Response where
  status := 409
  body := ("\x7b\"error\": \x7b\"code\": \"STILL_WRITING\", \"message\": \"busy\", " ++
    "\"category\": \"conflict\", \"retryable\": true\x7d\x7d").toList.map Char.toNat

/-- Whether a request is refused like this. -/
def isStillWriting : Remark → Bool
  | .sent request (.response response) => request.url.namesProtocol && response.status == 409 &&
      response.headers == [] && response.body == stillWriting.body
  | _ => false

theorem exists_of_isStillWriting {remark : Remark} (h : isStillWriting remark = true) :
    ∃ request : Request, request.url.namesProtocol = true ∧
      remark = .sent request (.response stillWriting) := by
  unfold isStillWriting at h
  split at h
  · rename_i request response
    obtain ⟨status, headers, body⟩ := response
    simp only [Bool.and_eq_true, beq_iff_eq] at h
    obtain ⟨⟨⟨hnames, rfl⟩, rfl⟩, rfl⟩ := h
    exact ⟨request, hnames, rfl⟩
  · cases h

/-- A container is to be closed, and its datanode refuses. -/
theorem failures_told_stillWriting :
    let line : CommandLine := { command := .close 7, asJson := true }
    let observers : List Observer :=
      [.other (.tracing 0 .silent), .other (.metrics .silent), .meters, .recorder]
    let x := begun [answer ("\x7b\"container_id\": 7, \"pipeline\": " ++
        "\x7b\"leader\": \"n1:9859\", \"state\": \"OPEN\"\x7d\x7d"),
      .response .empty, .response stillWriting]
    (∀ d, Observer.other d ∈ observers → d.Quiet) ∧ line.asJson = true ∧ Log.Clean x ∧
      ∃ all before request after, x.Onward all ((line.runFor observers {}).runFrom x).2 ∧
        all = before ++ .sent request (.response stillWriting) :: after ∧
        request.url.namesProtocol = true ∧
        Arrives request (.response stillWriting) stillWriting ∧
        ∃ (m : RemoteMethod) (client : Client) (detail : ErrorDetail) (text name written : String)
          (inner outer : List Remark),
          m.outcome request (.response stillWriting) = .error (.storage text m.operation detail) ∧
          Classified request (.response stillWriting) detail ∧
          after = inner ++ outer ++ [.complained written] ∧
          Failed observers (m.component client (observers.map Observer.concern)).id m.operation
            (.storage text m.operation detail) inner ∧
          Failed observers ContainerOperationsSettings.componentId name
            (.storage text m.operation detail) outer ∧
          complaints all = [written] ∧
          Json.read written = .ok (.object [("error", Value.detailJson detail)]) ∧
          ((line.runFor observers {}).runFrom x).1.map ExitStatus.code = .ok 4 := by
  intro line observers x
  have hquiet : ∀ d, Observer.other d ∈ observers → d.Quiet := by
    intro d hd
    refine Instrument.quiet_telemetry_silent 0 d ?_
    simpa [observers, Instrument.telemetry] using hd
  have hx : Log.Clean x := List.forall_mem_nil _
  obtain ⟨all, hall, htold⟩ := @failures_told observers {} line x hquiet rfl hx
  have hrefused : all.any isStillWriting = true := by
    rw [← hall.ofEvents_journal rfl]
    decide +kernel
  obtain ⟨remark, hmem, hremark⟩ := List.any_eq_true.1 hrefused
  obtain ⟨request, hnames, rfl⟩ := exists_of_isStillWriting hremark
  obtain ⟨before, after, heq⟩ := List.append_of_mem hmem
  obtain ⟨service, t, m, client, r, -, -, -, hreports, hfails⟩ := htold before request _ after heq
  have harrives : Arrives request (.response stillWriting) stillWriting :=
    ⟨stillWriting, rfl, fun _ hsends => absurd hsends.1 (by decide), rfl⟩
  have hrefuses : ∀ response, Arrives request (.response stillWriting) response →
      Refuses response := by
    rintro response ⟨packed, hpacked, -, hunpacked⟩
    cases hpacked
    cases hunpacked
    exact ⟨by decide, by decide⟩
  have hreported := hreports hnames (.inr ⟨_, harrives⟩)
  generalize houtcome : m.outcome request (.response stillWriting) = outcome at hreported
  cases hreported with
  | unfit response _ _ hresponse hnot => exact absurd (hrefuses response hresponse) hnot
  | given response _ _ hresponse hnot => exact absurd (hrefuses response hresponse) hnot
  | failed detail hclassified =>
    obtain ⟨-, name, -, -, -, -, -, -, -, inner, outer, written, hafter, hinner, houter, hwritten,
      hread, hcode⟩ := hfails _ _ detail houtcome
    exact ⟨hquiet, rfl, hx, all, before, request, after, hall, heq, hnames, harrives, m, client,
      detail, _, name, written, inner, outer, houtcome, hclassified, hafter, hinner, houter,
      hwritten, hread, hcode⟩

end Run

end CommandLine

end Stowage
