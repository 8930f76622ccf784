import Stowage.Command.Run
import Stowage.Proofs.Log.Configured
import Stowage.Proofs.Service.Confirmed
import Stowage.Proofs.Service.Fresh

/-!
The requests of a command line.

A command has a list of errands, all but the first of which may depend on the record that the first
one finds (`Command.errands`). Whatever the network answers, what a command line sends is carried
out on that list, up to the first answer that is not let pass (`CommandLine.run_requests`).
-/

namespace Stowage

open Http (Client)

open Service

/-! ## Commands -/

/-- The errands of a command, with the record that the answer to the first one tells. -/
def Command.errands (own : ContainerOperationsSettings) (record : ContainerRecord) :
    Command → List Errand
  | .create owner type factor =>
    .allocate (type.getD own.defaultReplicationType) (factor.getD own.defaultReplicationFactor)
        owner ::
      (Errand.preparation record.pipeline ++ Errand.reported record.containerId .create
        (.data record.pipeline "PUT" "" record.containerId))
  | .close containerId =>
    .getRecord containerId ::
      Errand.reported containerId .close (.data record.pipeline "POST" "/close" containerId)
  | .delete containerId force => [.getRecord containerId,
      .deleteData record.pipeline containerId force, .deleteRecord containerId]
  | .info containerId => [.getRecord containerId, .data record.pipeline "GET" "" containerId]
  | .list start count => [.listRecords start count]
  | .size _ => []

section Perform

variable {own : ContainerOperationsSettings} {placement : PlacementSettings}
  {nodes : DatanodeSettings} {client : Client} {telemetry : List (Instrument.Concern World)}
  {script : List Http.Answer} {start : Nat} {s : Session World}

/-- What a command sends is carried out on its errands. -/
theorem Command.led_perform (ht : ∀ c ∈ telemetry, c.Discreet)
    (hclient : Serves client (Recipient.address placement nodes) .placement)
    (hs : (sent script start 0 False).holds s) (hpool : s.world.pool.cached = [])
    (command : Command) :
    (sent script start 0 False).AddsAt s
      (command.perform (overNetwork own client nodes telemetry)) fun o more =>
        Led (Recipient.address placement nodes) (fun record => command.errands own record)
          o.isOk more := by
  have hend : ∀ value : Value, Silent (pure value : Flow World Value) := fun _ => .ofExcept _
  cases command with
  | create owner type factor =>
    exact .last (fun _ => Led.failed) (runsAt_create ht hclient hs hpool owner type factor)
      fun _ => hend _ script start
  | close containerId =>
    refine led_get ht hclient hs hpool containerId fun record t hholds hp => ?_
    exact .last (fun _ => Carried.failed)
      (runsAt_close ht hclient hholds hp containerId record.pipeline) fun _ => hend _ script start
  | delete containerId force =>
    refine led_get ht hclient hs hpool containerId fun record t hholds hp => ?_
    exact .last (fun _ => Carried.failed)
      (runsAt_delete ht hclient hholds hp containerId record.pipeline force)
      fun _ => hend _ script start
  | info containerId =>
    refine led_get ht hclient hs hpool containerId fun record t hholds hp => ?_
    exact .last (fun _ => Carried.failed) (runsAt_read ht hholds hp containerId record.pipeline)
      fun _ => hend _ script start
  | list first count =>
    have hruns : Runs (Recipient.address placement nodes) [.listRecords first count]
        ((Command.list first count).perform (overNetwork own client nodes telemetry)) :=
      .last (runs_list ht hclient first count) fun _ => hend _
    exact ((hruns script start).addsAt hs).mono fun o more h => .of_short (Nat.le_refl 1) h
  | size containerId =>
    have hruns : Runs (Recipient.address placement nodes) []
        ((Command.size containerId).perform (overNetwork own client nodes telemetry)) := by
      refine .last (.call ?_ ht _ _) fun _ => hend _
      by_cases hunknown : own.containerSizeBytes = unknownSize
      · simp only [overNetwork, hunknown, if_true]
        exact .throw_bind _ _
      · simp only [overNetwork, hunknown, if_false]
        exact .of_silent (.ofExcept _)
    exact ((hruns script start).addsAt hs).mono fun o more h => .of_short (Nat.zero_le 1) h

end Perform

/-! ## Setting up and shutting down -/

section Setup

variable {σ : Type} {s : Session World}

/-- Setting logging up changes neither the world nor the journal. -/
theorem Log.kept_of_configureFrom (settings : LoggingSettings) (level : Option String)
    (s : Session σ) : ((configureFrom settings level).runFrom s).2.world = s.world ∧
      ((configureFrom settings level).runFrom s).2.journal = s.journal := by
  unfold configureFrom
  rw [runFrom_configure]
  split <;> exact ⟨rfl, rfl⟩

theorem Service.silent_configureFrom (settings : LoggingSettings) (level : Option String) :
    Silent (Log.configureFrom settings level : Flow World Unit) := by
  refine .of_undisturbed fun s => ?_
  obtain ⟨hworld, hjournal⟩ := Log.kept_of_configureFrom settings level s
  refine ⟨?_, ?_, False.elim⟩
  · rw [Session.requests, hjournal]
    rfl
  · rw [hworld]

theorem Service.silent_connect (settings : Settings) (telemetry : List (Instrument.Concern World)) :
    Silent (connect settings telemetry) := by
  have hconnect : ∀ placement : PlacementSettings,
      Silent (Placement.connect World.networkSlot placement telemetry) := by
    intro placement
    refine .bind (.bind (.ofExcept _) fun base => .bind ?_ fun number => .ofExcept _)
      fun client => .ofExcept _
    exact .of_undisturbed fun s => ⟨rfl, rfl, False.elim⟩
  refine .bind (.ofExcept _) fun own => .bind (.ofExcept _) fun placement => ?_
  exact .bind (hconnect placement) fun reached => .bind (.ofExcept _) fun nodes => .ofExcept _

theorem Service.silent_shutDown {own : ContainerOperationsSettings} {nodes : DatanodeSettings}
    {client : Client} {telemetry : List (Instrument.Concern World)} :
    Silent (overNetwork own client nodes telemetry).shutDown := by
  refine .bind (.of_undisturbed fun s => ?_) fun _ =>
    .of_undisturbed fun s => Undisturbed.close client False.elim
  refine .bind (.refl s) fun pool t _ => ?_
  refine .bind (Undisturbed.put_pool _ False.elim) fun _ u _ => ?_
  exact Undisturbed.closeAll _ False.elim

end Setup

/-! ## Command lines -/

namespace CommandLine

section Telling

variable {ε α : Type} {g : Gauge World ε} {s t : Session World} {body : Flow World α}

theorem ne_success_of_of? {failure : Failure} {status : ExitStatus}
    (h : ExitStatus.of? failure = some status) : status ≠ .success := by
  rintro rfl
  unfold ExitStatus.of? at h
  split at h
  · cases h
  · split at h <;> cases h

/-- A failure that commands do not tell of is passed on. -/
theorem runFrom_tell_none {line : CommandLine} {failure : Failure}
    (h : ExitStatus.of? failure = none) (s : Session World) :
    (line.tell failure).runFrom s = (.error failure, s) := by
  unfold tell
  rw [h]
  rfl

/-- A failure that commands tell of decides how the process ends, and is written, if it has a
text. -/
theorem runFrom_tell_some {line : CommandLine} {failure : Failure} {status : ExitStatus}
    (h : ExitStatus.of? failure = some status) (s : Session World) :
    (line.tell failure).runFrom s = match Command.errorOutput line.asJson failure with
      | .ok text => (.ok status, { s with journal := s.journal ++ [.complained text] })
      | .error f => (.error f, s) := by
  unfold tell
  rw [h]
  cases Command.errorOutput line.asJson failure <;> rfl

theorem tell_cases (line : CommandLine) (failure : Failure) (s : Session World) :
    s.Alike ((line.tell failure).runFrom s).2 ∧
      ∀ status, ((line.tell failure).runFrom s).1 = .ok status → status ≠ .success := by
  cases hstatus : ExitStatus.of? failure with
  | none =>
    rw [runFrom_tell_none hstatus]
    exact ⟨.refl s, fun status h => by cases h⟩
  | some status =>
    rw [runFrom_tell_some hstatus]
    cases Command.errorOutput line.asJson failure with
    | error f => exact ⟨.refl s, fun other h => by cases h⟩
    | ok text =>
      have hrecord : (Flow.record (.complained text) : Flow World Unit).Discreet := .record rfl
      refine ⟨(hrecord s).1, fun other h => ?_⟩
      rw [← Except.ok.inj h]
      exact ne_success_of_of? hstatus

theorem runFrom_telling (line : CommandLine) (body : Flow World α) (s : Session World) :
    (line.telling body).runFrom s = match body.runFrom s with
      | (.ok a, t) => (.ok (.ok a), t)
      | (.error f, t) => match (line.tell f).runFrom t with
        | (.ok status, u) => (.ok (.error status), u)
        | (.error f', u) => (.error f', u) := by
  unfold telling
  rw [Flow.runFrom_bind_ok (Flow.runFrom_attempt body s)]
  rcases body.runFrom s with ⟨f | a, t⟩
  · change (line.tell f >>= fun status =>
      (pure (.error status) : Flow World (Except ExitStatus α))).runFrom t = _
    rw [Flow.runFrom_bind]
    simp only
    rcases (line.tell f).runFrom t with ⟨f' | status, u⟩ <;> rfl
  · rfl

/-- What goes for something that is carried out, where failures of it are told; none of them counts
as a success. -/
def Told (R : Bool → List ε → Prop) (o : Except Failure (Except ExitStatus α)) (more : List ε) :
    Prop :=
  match o with
  | .ok (.ok _) => R true more
  | .ok (.error status) => status ≠ .success ∧ R false more
  | .error _ => R false more

theorem Told.failed {R : Bool → List ε → Prop} (hfail : ∀ more, R true more → R false more)
    {o : Except Failure (Except ExitStatus α)} {more : List ε} (h : Told R o more) (f : Failure) :
    Told R (.error f : Except Failure (Except ExitStatus α)) more := by
  rcases o with f' | status | a
  · exact h
  · exact h.2
  · exact hfail more h

theorem addsAt_telling {R : Bool → List ε → Prop} (h : g.AddsAt s body fun o more => R o.isOk more)
    (line : CommandLine) : g.AddsAt s (line.telling body) (Told R) := by
  obtain ⟨ht, more, hlist, hR⟩ := h
  unfold Gauge.AddsAt
  rw [runFrom_telling]
  generalize body.runFrom s = r at ht hlist hR ⊢
  rcases r with ⟨f | a, t⟩
  · obtain ⟨halike, hstatus⟩ := line.tell_cases f t
    have hsame : g.list ((line.tell f).runFrom t).2 = g.list s ++ more :=
      (g.list_alike halike).trans hlist
    have hholds := g.holds_alike halike ht
    simp only
    generalize (line.tell f).runFrom t = r at hstatus hsame hholds ⊢
    rcases r with ⟨f' | status, u⟩
    · exact ⟨hholds, more, hsame, hR⟩
    · exact ⟨hholds, more, hsame, hstatus status rfl, hR⟩
  · exact ⟨ht, more, hlist, hR⟩

theorem runFrom_of_telling {line : CommandLine} {a : α}
    (h : (line.telling body).runFrom s = (.ok (.ok a), t)) : body.runFrom s = (.ok a, t) := by
  rw [runFrom_telling] at h
  generalize body.runFrom s = r at h ⊢
  rcases r with ⟨f | b, u⟩
  · simp only at h
    split at h <;> cases h
  · cases h
    rfl

end Telling

section Run

variable {surroundings : Surroundings} {line : CommandLine} {settings : Settings}
  {own : ContainerOperationsSettings} {placement : PlacementSettings} {nodes : DatanodeSettings}
  (hsettings : Config.loadSettings (surroundings.sources line.configPath) = .ok settings)
  (hown : ContainerOperationsSettings.resolve settings = .ok own)
  (hplacement : PlacementSettings.resolve settings = .ok placement)
  (hnodes : DatanodeSettings.resolve settings = .ok nodes)

theorem silent_prepare (line : CommandLine) (surroundings : Surroundings) :
    Silent (line.prepare surroundings) :=
  .bind (.ofExcept _) fun settings => .bind (silent_configureFrom settings.logging line.logLevel)
    fun _ => silent_connect settings _

include hsettings hown hplacement hnodes in
/-- The service that a command line is given is that of its settings, and no handle has been
acquired yet. -/
theorem prepared {s t : Session World} {service : NetworkService}
    (h : (line.prepare surroundings).runFrom s = (.ok service, t)) :
    ∃ client, Serves client (Recipient.address placement nodes) .placement ∧
      service = overNetwork own client nodes (Instrument.telemetry 0 .silent .silent) ∧
      t.world.pool = s.world.pool := by
  unfold prepare at h
  rw [hsettings, Flow.runFrom_bind_ok (Flow.runFrom_ofExcept _ s)] at h
  obtain ⟨_, u, hconfigured, hconnect⟩ := Flow.exists_of_bind_ok h
  have hu : u.world = s.world := by
    rw [← (Log.kept_of_configureFrom settings.logging line.logLevel s).1, hconfigured]
  obtain ⟨own', placement', client, nodes', ho, hp, hn, hheaders, hbase, -, hservice, hend⟩ :=
    connect_overNetwork hconnect
  cases hown.symm.trans ho
  cases hplacement.symm.trans hp
  cases hnodes.symm.trans hn
  refine ⟨client, ⟨hheaders, placement.baseUrl, rfl, hbase⟩, hservice, ?_⟩
  rw [hend, ← hu]
  rfl

/-- Whether the process ends in success. -/
def succeeded : Except Failure ExitStatus → Bool
  | .ok .success => true
  | _ => false

theorem succeeded_of_ne {status : ExitStatus} (h : status ≠ .success) :
    succeeded (.ok status) = false := by
  cases status <;> first | rfl | exact absurd rfl h

theorem addsAt_performed {client : Client} {t : Session World} {script : List Http.Answer}
    {start : Nat} (hclient : Serves client (Recipient.address placement nodes) .placement)
    (ht : (sent script start 0 False).holds t) (hpool : t.world.pool.cached = []) :
    let service := overNetwork own client nodes (Instrument.telemetry 0 .silent .silent)
    (sent script start 0 False).AddsAt t (do
      match ← Flow.andFinally (line.telling (line.command.perform service)) service.shutDown with
      | .error status => pure status
      | .ok result =>
        let text ← Flow.ofExcept (Command.output line.asJson result)
        Flow.record (.printed text)
        pure .success) fun o more =>
      Led (Recipient.address placement nodes) (fun record => line.command.errands own record)
        (succeeded o) more := by
  intro service
  have hperform : (sent script start 0 False).AddsAt t (line.telling (line.command.perform service))
      (Told (Led (Recipient.address placement nodes) fun record =>
        line.command.errands own record)) :=
    addsAt_telling (line.command.led_perform (Instrument.discreet_telemetry_silent 0) hclient ht
      hpool) line
  have hshut : (sent script start 0 False).AddsAt t
      (Flow.andFinally (line.telling (line.command.perform service)) service.shutDown)
      (Told (Led (Recipient.address placement nodes) fun record =>
        line.command.errands own record)) :=
    .andFinally_nil hperform (fun u hu => (silent_shutDown script start).addsAt hu)
      fun _ f _ h => h.failed (fun _ => Led.failed) f
  refine .bind hshut (fun f more h => h) ?_
  rintro (status | result) more u - hu h
  · obtain ⟨hstatus, hled⟩ := h
    refine Gauge.Adds.addsAt (Gauge.Adds.pure ?_) hu
    rw [succeeded_of_ne hstatus, List.append_nil]
    exact hled
  · -- what is written may be refused, so that all errands may be done without success
    have hquiet : Silent (do
        let text ← Flow.ofExcept (Command.output line.asJson result)
        Flow.record (.printed text)
        pure ExitStatus.success : Flow World ExitStatus) :=
      .bind (.ofExcept _) fun text => .bind (.discreet (.record rfl)) fun _ => .ofExcept _
    refine ((hquiet script start).addsAt hu).mono ?_
    rintro o rest rfl
    rw [List.append_nil]
    exact Led.ended h _

include hsettings hown hplacement hnodes in
theorem led_run {x : Session World} {script : List Http.Answer} {start : Nat}
    (hx : (sent script start 0 False).holds x) (hpool : x.world.pool.cached = []) :
    (sent script start 0 False).AddsAt x (line.run surroundings) fun o more =>
      Led (Recipient.address placement nodes) (fun record => line.command.errands own record)
        (succeeded o) more := by
  have hprepare : (sent script start 0 False).AddsAt x (line.telling (line.prepare surroundings))
      (Told fun _ more => more = []) :=
    addsAt_telling ((silent_prepare line surroundings script start).addsAt hx) line
  refine .bind hprepare (fun f more h => ?_) ?_
  · rw [show more = [] from h]
    exact .stopped _ _
  rintro (status | service) more t hrun hholds h
  · obtain ⟨hstatus, rfl⟩ := h
    refine Gauge.Adds.addsAt (Gauge.Adds.pure ?_) hholds
    rw [succeeded_of_ne hstatus]
    exact .stopped _ _
  -- nothing has been sent before the service is there
  obtain rfl : more = [] := h
  obtain ⟨client, hclient, rfl, hsame⟩ := prepared hsettings hown hplacement hnodes
    (runFrom_of_telling hrun)
  exact addsAt_performed hclient hholds (hsame ▸ hpool)

end Run

/-- **The requests of a command line.** Let settings be loaded, with addresses for everyone. Then
whatever the network answers, a process sends requests for the errands of its command, in order and
at the places that they name; the errands are those of the record that the first answer tells, if
more than one request is sent. Nothing is sent after an answer that is not let pass, and a process
that ends in success has sent requests for all the errands. -/
theorem run_requests {surroundings : Surroundings} {line : CommandLine} {settings : Settings}
    {own : ContainerOperationsSettings} {placement : PlacementSettings} {nodes : DatanodeSettings}
    (hsettings : Config.loadSettings (surroundings.sources line.configPath) = .ok settings)
    (hown : ContainerOperationsSettings.resolve settings = .ok own)
    (hplacement : PlacementSettings.resolve settings = .ok placement)
    (hnodes : DatanodeSettings.resolve settings = .ok nodes)
    {x : Session World} (hx : x.world.pool.cached = []) :
    let run := (line.run surroundings).runFrom x
    let all := sentSince x run.2
    ∃ record asked,
      (1 < all.length → all.head?.bind Sending.record? = some record) ∧
      asked <+: line.command.errands own record ∧
      List.Forall₂ (fun (e : Errand) sending =>
        e.IsRequest (Recipient.address placement nodes) sending.1) asked all ∧
      (∀ before sending later, all = before ++ sending :: later → later ≠ [] →
        Confirms sending.1 sending.2) ∧
      (run.1 = .ok .success → asked = line.command.errands own record ∧
        ∀ sending ∈ all, Confirms sending.1 sending.2) := by
  intro run all
  have hled : Led (Recipient.address placement nodes)
      (fun record => line.command.errands own record) (succeeded run.1) all := by
    refine sentSince_of_addsAt (led_run hsettings hown hplacement hnodes ⟨Nat.le_refl _, ?_, ?_⟩ hx)
    · rw [Nat.sub_self, List.drop_zero]
    · exact False.elim
  obtain ⟨record, hrecord, hcarried⟩ := hled
  obtain ⟨asked, hprefix, hall, hwholly⟩ := hcarried.exists_asked
  obtain ⟨hpassed, hlast⟩ := hcarried.confirmed
  refine ⟨record, asked, hrecord, hprefix, hall, hpassed, fun hsuccess => ?_⟩
  have hsucceeded : succeeded run.1 = true := by rw [hsuccess]; rfl
  exact ⟨hwholly hsucceeded, hlast hsucceeded⟩

/-- A session that has just begun, with the answers that the network will give. -/
def begun (answers : List Http.Answer) : Session World where
  world := { network := { answers }, traceOf := fun _ => "t" }

/-- The answer that is a document. -/
def answer (document : String) : Http.Answer :=
  .response { status := 200, body := document.toList.map Char.toNat }

theorem resolved_standard : ∃ settings,
    Config.loadSettings (({} : Surroundings).sources none) = .ok settings ∧
      ContainerOperationsSettings.resolve settings = .ok {} ∧
      PlacementSettings.resolve settings = .ok {} ∧ DatanodeSettings.resolve settings = .ok {} := by
  have hall : (do
      let settings ← Config.loadSettings (({} : Surroundings).sources none)
      let own ← ContainerOperationsSettings.resolve settings
      let placement ← PlacementSettings.resolve settings
      let nodes ← DatanodeSettings.resolve settings
      .ok (own, placement, nodes) : Except Failure _).toOption = some ({}, {}, {}) := by
    decide +kernel
  obtain ⟨settings, hsettings, h⟩ := bind_eq_ok.1 (eq_ok_of_toOption hall)
  obtain ⟨own, hown, h⟩ := bind_eq_ok.1 h
  obtain ⟨placement, hplacement, h⟩ := bind_eq_ok.1 h
  obtain ⟨nodes, hnodes, h⟩ := bind_eq_ok.1 h
  cases h
  exact ⟨settings, hsettings, hown, hplacement, hnodes⟩

/-- A container is closed on a pipeline that is open. -/
theorem run_requests_close :
    let line : CommandLine := { command := .close 7 }
    let x := begun [answer ("\x7b\"container_id\": 7, \"pipeline\": " ++
      "\x7b\"leader\": \"n1:9859\", \"state\": \"OPEN\"\x7d\x7d")]
    let run := (line.run {}).runFrom x
    let all := sentSince x run.2
    ∃ settings, Config.loadSettings (({} : Surroundings).sources line.configPath) = .ok settings ∧
      ContainerOperationsSettings.resolve settings = .ok {} ∧
      PlacementSettings.resolve settings = .ok {} ∧
      DatanodeSettings.resolve settings = .ok {} ∧ x.world.pool.cached = [] ∧
      all.map (fun sending => (sending.1.method, sending.1.url.text)) = [
        ("GET", "http://scm:9860/containers/7"), ("POST", "http://scm:9860/stage-changes"),
        ("POST", "http://n1:9859/containers/7/close"), ("POST", "http://scm:9860/stage-changes")] ∧
      ∃ record asked, (1 < all.length → all.head?.bind Sending.record? = some record) ∧
        asked <+: line.command.errands {} record ∧
        List.Forall₂ (fun (e : Errand) sending =>
          e.IsRequest (Recipient.address {} {}) sending.1) asked all := by
  intro line x run all
  have hsent : all.map (fun sending => (sending.1.method, sending.1.url.text)) = [
      ("GET", "http://scm:9860/containers/7"), ("POST", "http://scm:9860/stage-changes"),
      ("POST", "http://n1:9859/containers/7/close"),
      ("POST", "http://scm:9860/stage-changes")] := by
    decide +kernel
  obtain ⟨settings, hsettings, hown, hplacement, hnodes⟩ := resolved_standard
  have hline : Config.loadSettings (({} : Surroundings).sources line.configPath) =
    .ok settings := hsettings
  have hx : x.world.pool.cached = [] := rfl
  obtain ⟨record, asked, hrecord, hprefix, hall, -⟩ :=
    run_requests hline hown hplacement hnodes hx
  exact ⟨settings, hsettings, hown, hplacement, hnodes, hx, hsent, record, asked, hrecord, hprefix,
    hall⟩

end CommandLine

end Stowage
