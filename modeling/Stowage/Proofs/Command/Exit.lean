import Stowage.Proofs.Command.Told
import Stowage.Proofs.Config.Faults
import Stowage.Proofs.Service.Bounded
import Stowage.Proofs.Service.Foreseen
import Stowage.Proofs.Service.Traces
import Stowage.Proofs.Service.WireModels

/-!
How processes end.

A command fails as is foreseen, and what it results in can be written (`Command.foresees_perform`,
`Command.gives_perform`); so a process ends with 0, 3 or 4, but for the failures that commands do
not tell of (`CommandLine.Escapes`). Those before the command are `CommandLine.Unsettled`; any other
failure to set out ends the process with 3 (`CommandLine.run_exits_iff`).
-/

namespace Stowage

open Http (Client)

open Service

/-! ## Commands -/

namespace Command

section Perform

variable {own : ContainerOperationsSettings} {placement : Client} {nodes : DatanodeSettings}
  {telemetry : List (Instrument.Concern World)} {number : Nat}

/-- A command fails as is foreseen. -/
theorem foresees_perform (ht : ∀ c ∈ telemetry, c.Discreet)
    (hcarrier : placement.carrier = .connection number) (command : Command) :
    Foresees (ready number []) (command.perform (overNetwork own placement nodes telemetry)) := by
  cases command with
  | create owner type factor =>
    exact .bind (foresees_create ht hcarrier owner type factor) fun _ => .pure _
  | close containerId =>
    exact .bind (foresees_get ht hcarrier containerId) fun record =>
      .bind (foresees_close ht hcarrier containerId record.pipeline) fun _ => .pure _
  | delete containerId force =>
    exact .bind (foresees_get ht hcarrier containerId) fun record =>
      .bind (foresees_delete ht hcarrier containerId record.pipeline force) fun _ => .pure _
  | info containerId =>
    exact .bind (foresees_get ht hcarrier containerId) fun record =>
      .bind (foresees_read ht containerId record.pipeline) fun _ => .pure _
  | list start count => exact .bind (foresees_list ht hcarrier start count) fun _ => .pure _
  | size containerId => exact .bind (foresees_size ht containerId) fun _ => .pure _

/-- What a command results in can be written, unless it is a capacity that is too long. -/
theorem gives_perform (command : Command) :
    (command.perform (overNetwork own placement nodes telemetry)).Gives fun result =>
      (∃ j, result.Written j) ∧ (result.isOverlong = false ∨
        ∃ containerId, command = .size containerId ∧ result = .int own.containerSizeBytes) := by
  cases command with
  | create owner type factor =>
    refine .bind (gives_create owner type factor) fun record hrecord => .pure ?_
    exact ⟨⟨_, record.written⟩, .inl hrecord⟩
  | close containerId =>
    exact .bind (.any _) fun _ _ => .bind (.any _) fun _ _ => .pure ⟨⟨_, .null⟩, .inl rfl⟩
  | delete containerId force =>
    exact .bind (.any _) fun _ _ => .bind (.any _) fun _ _ => .pure ⟨⟨_, .null⟩, .inl rfl⟩
  | info containerId =>
    refine .bind (gives_get containerId) fun record hrecord => ?_
    refine .bind (gives_read containerId record.pipeline) fun data hdata => .pure ?_
    exact ⟨⟨_, written_shown record data⟩, .inl (isOverlong_shown hrecord hdata)⟩
  | list start count =>
    refine .bind (gives_list start count) fun records hrecords => .pure ⟨?_, .inl ?_⟩
    · exact ⟨_, .list (fun record : ContainerRecord => record.written) records⟩
    · exact Value.Written.anyOverlong_eq_false.2 (List.forall_mem_map.2 hrecords)
  | size containerId =>
    refine .bind (gives_size containerId) fun bytes hbytes => .pure ⟨⟨_, .int bytes⟩, .inr ?_⟩
    exact ⟨containerId, rfl, congrArg _ hbytes⟩

end Perform

/-- A result that can be written is shown, unless it is too long. -/
theorem output_of_written {v : Value} {j : Json} (hv : v.Written j) (asJson : Bool) :
    output asJson v = if v.isOverlong then .error .overlongInteger
      else .ok (echo (if asJson then j.write .compactSorted else plainText j)) := by
  unfold output Value.serialize
  rw [hv.toJson]
  rfl

end Command

/-- A failure for a value is mapped to one of an argument. -/
theorem Failure.detail_of_value {f : Failure} (h : f.isA .valueError = true) :
    f.detail = .validation f.words ErrorDetail.invalidArgument
      (Labels.ofList [("exception_type", f.kind)]) := by
  cases f with
  | storage | sizeUnknown | precondition | http | badUrl | badYaml => cases h
  | invalid | badJson | unserializable => rfl
  | fault kind argument =>
    unfold detail
    simp only [h, if_true]

/-! ## Setting out -/

namespace CommandLine

/-- What the settings say of the service: how containers are allocated, and how the placement
service, whose address has to be a URL, and the datanodes are reached. -/
def reach (settings : Settings) :
    Except Failure (ContainerOperationsSettings × PlacementSettings × DatanodeSettings) := do
  let own ← ContainerOperationsSettings.resolve settings
  let placement ← PlacementSettings.resolve settings
  let _ ← (Http.Url.parse placement.baseUrl).bind Http.Url.asBase
  let nodes ← DatanodeSettings.resolve settings
  .ok (own, placement, nodes)

/-- All that is settled before a command is carried out. -/
def arrange (surroundings : Surroundings) (line : CommandLine) :
    Except Failure (ContainerOperationsSettings × PlacementSettings × DatanodeSettings) := do
  let settings ← Config.loadSettings (surroundings.sources line.configPath)
  let _ ← Log.numbered (Log.chosenLevel settings.logging line.logLevel)
  reach settings

section Setup

variable {surroundings : Surroundings} {line : CommandLine} {f : Failure} {x : Session World}

theorem isOverlong_reach {settings : Settings} (h : reach settings = .error f) :
    f.isOverlong = false := by
  rcases bind_eq_error.1 h with h | ⟨own, -, h⟩
  · exact ContainerOperationsSettings.isOverlong_resolve h
  · rcases bind_eq_error.1 h with h | ⟨placement, -, h⟩
    · exact PlacementSettings.isOverlong_resolve h
    · rcases bind_eq_error.1 h with h | ⟨base, -, h⟩
      · obtain ⟨words, rfl⟩ := Http.Url.base_error h
        rfl
      · rcases bind_eq_error.1 h with h | ⟨nodes, -, h⟩
        · exact DatanodeSettings.isOverlong_resolve h
        · cases h

/-- The placement service is reached wherever its address is a URL. -/
theorem outcome_placement (placement : PlacementSettings)
    (telemetry : List (Instrument.Concern World)) (s : Session World) :
    ((Placement.connect World.networkSlot placement telemetry).runFrom s).1 =
      ((Http.Url.parse placement.baseUrl).bind Http.Url.asBase).map fun base =>
        { net := World.networkSlot
          client := {
            carrier := .connection s.world.network.opened
            base
            timeout := placement.timeoutSeconds
            headers := Placement.jsonHeaders }
          telemetry } := by
  unfold Placement.connect Client.connect
  cases (Http.Url.parse placement.baseUrl).bind Http.Url.asBase with
  | error f => rfl
  | ok base => rfl

/-- Connecting the service fails as what the settings say of it. -/
theorem connect_error_iff {settings : Settings} {telemetry : List (Instrument.Concern World)}
    {s : Session World} :
    ((Service.connect settings telemetry).runFrom s).1 = .error f ↔ reach settings = .error f := by
  unfold Service.connect reach
  simp only [Flow.outcome_bind, Flow.runFrom_ofExcept, bind_eq_error, outcome_placement]
  refine or_congr Iff.rfl (exists_congr fun own => and_congr_right fun _ => ?_)
  refine or_congr Iff.rfl (exists_congr fun placement => and_congr_right fun _ => ?_)
  cases (Http.Url.parse placement.baseUrl).bind Http.Url.asBase with
  | error reason => simp [Except.map]
  | ok base => simp [Except.map]

/-- What fails before the command has a text. -/
theorem isOverlong_arrange (h : line.arrange surroundings = .error f) : f.isOverlong = false := by
  rcases bind_eq_error.1 h with h | ⟨settings, -, h⟩
  · exact Config.isOverlong_loadSettings h
  · rcases bind_eq_error.1 h with h | ⟨number, -, h⟩
    · exact (Log.numbered_error h).2
    · exact isOverlong_reach h

theorem prepareFor_error_iff {observers : List Instrument.Observer} :
    ((line.prepareFor observers surroundings).runFrom x).1 = .error f ↔
      line.arrange surroundings = .error f := by
  unfold prepareFor arrange
  simp only [Flow.outcome_bind, Flow.runFrom_ofExcept, bind_eq_error, Log.outcome_configureFrom,
    connect_error_iff]
  refine or_congr Iff.rfl (exists_congr fun settings => and_congr_right fun _ => ?_)
  cases Log.numbered (Log.chosenLevel settings.logging line.logLevel) with
  | error reason => simp [Except.map]
  | ok number => simp [Except.map]

/-- The settings of a command line are loaded, and logging is set up. -/
def Loads (surroundings : Surroundings) (line : CommandLine) (settings : Settings) : Prop :=
  Config.loadSettings (surroundings.sources line.configPath) = .ok settings ∧
    ∃ number, Log.numbered (Log.chosenLevel settings.logging line.logLevel) = .ok number

/-- How a command line fails before its command without a word: the file cannot be read, something
other than a mapping is set for a component, or the address of the placement service is no URL. -/
inductive Unsettled (surroundings : Surroundings) (line : CommandLine) : Failure → Prop
  | file {f : Failure} :
    (surroundings.sources line.configPath).file.read (surroundings.sources line.configPath).path =
      .error f → f.isA .valueError = false → Unsettled surroundings line f
  | service {settings : Settings} : Loads surroundings line settings →
    settings.components.service.Unmapped "container_operations" →
      Unsettled surroundings line (ComponentNamespace.unmapped "service" "container_operations")
  | placement {settings : Settings} {own : ContainerOperationsSettings} :
    Loads surroundings line settings → ContainerOperationsSettings.resolve settings = .ok own →
    settings.components.adapter.Unmapped "placement" →
      Unsettled surroundings line (ComponentNamespace.unmapped "adapter" "placement")
  | address {settings : Settings} {own : ContainerOperationsSettings}
    {placement : PlacementSettings} {words : String} :
    Loads surroundings line settings → ContainerOperationsSettings.resolve settings = .ok own →
    PlacementSettings.resolve settings = .ok placement →
    (Http.Url.parse placement.baseUrl).bind Http.Url.asBase = .error (.badUrl words) →
      Unsettled surroundings line (.badUrl words)
  | nodes {settings : Settings} {own : ContainerOperationsSettings}
    {placement : PlacementSettings} {base : Http.Url} :
    Loads surroundings line settings → ContainerOperationsSettings.resolve settings = .ok own →
    PlacementSettings.resolve settings = .ok placement →
    (Http.Url.parse placement.baseUrl).bind Http.Url.asBase = .ok base →
    settings.components.adapter.Unmapped "datanode" →
      Unsettled surroundings line (ComponentNamespace.unmapped "adapter" "datanode")

theorem of?_of_value (h : f.isA .valueError = true) :
    ExitStatus.of? f = some .precondition := by
  unfold ExitStatus.of?
  rw [h, Bool.or_true]
  rfl

theorem of?_of_misread (h : Yaml.Misread f) (hf : f.isA .valueError = false) :
    ExitStatus.of? f = none := by
  unfold ExitStatus.of?
  rw [hf]
  cases h <;> rfl

theorem isA_of_untold (h : ExitStatus.of? f = none) : f.isA .valueError = false := by
  cases hf : f.isA .valueError with
  | false => rfl
  | true =>
    rw [of?_of_value hf] at h
    cases h

theorem Unsettled.untold (h : Unsettled surroundings line f) : ExitStatus.of? f = none := by
  cases h with
  | file hread hf => exact of?_of_misread (Config.misread_file hread) hf
  | service => rfl
  | placement => rfl
  | address => rfl
  | nodes => rfl

theorem Loads.arrange_error {settings : Settings} (h : Loads surroundings line settings)
    (hreach : reach settings = .error f) : line.arrange surroundings = .error f := by
  obtain ⟨hsettings, number, hnumber⟩ := h
  refine bind_eq_error.2 (.inr ⟨settings, hsettings, ?_⟩)
  exact bind_eq_error.2 (.inr ⟨number, hnumber, hreach⟩)

theorem Unsettled.arrange_error (h : Unsettled surroundings line f) :
    line.arrange surroundings = .error f := by
  cases h with
  | file hread _ => exact bind_eq_error.2 (.inl (Config.loadSettings_of_unread hread))
  | service hloads hunmapped =>
    have hown := (ContainerOperationsSettings.resolve_error_iff rfl).2 ⟨hunmapped, rfl⟩
    refine hloads.arrange_error ?_
    simp [reach, hown, bind, Except.bind]
  | placement hloads hown hunmapped =>
    have hplacement := (PlacementSettings.resolve_error_iff rfl).2 ⟨hunmapped, rfl⟩
    refine hloads.arrange_error ?_
    simp [reach, hown, hplacement, bind, Except.bind]
  | address hloads hown hplacement hbase =>
    refine hloads.arrange_error ?_
    simp only [reach, hown, hplacement, hbase, bind, Except.bind.eq_1, Except.bind.eq_2]
  | nodes hloads hown hplacement hbase hunmapped =>
    have hnodes := (DatanodeSettings.resolve_error_iff rfl).2 ⟨hunmapped, rfl⟩
    refine hloads.arrange_error ?_
    simp only [reach, hown, hplacement, hbase, hnodes, bind, Except.bind.eq_1, Except.bind.eq_2]

theorem unsettled_of_reach {settings : Settings} (hloads : Loads surroundings line settings)
    (hf : f.isA .valueError = false) (h : reach settings = .error f) :
    Unsettled surroundings line f := by
  rcases bind_eq_error.1 h with h | ⟨own, hown, h⟩
  · obtain ⟨hunmapped, rfl⟩ := (ContainerOperationsSettings.resolve_error_iff hf).1 h
    exact .service hloads hunmapped
  · rcases bind_eq_error.1 h with h | ⟨placement, hplacement, h⟩
    · obtain ⟨hunmapped, rfl⟩ := (PlacementSettings.resolve_error_iff hf).1 h
      exact .placement hloads hown hunmapped
    · rcases bind_eq_error.1 h with h | ⟨base, hbase, h⟩
      · obtain ⟨words, rfl⟩ := Http.Url.base_error h
        exact .address hloads hown hplacement h
      · rcases bind_eq_error.1 h with h | ⟨nodes, -, h⟩
        · obtain ⟨hunmapped, rfl⟩ := (DatanodeSettings.resolve_error_iff hf).1 h
          exact .nodes hloads hown hplacement hbase hunmapped
        · cases h

/-- What fails before the command without a word is a case of `Unsettled`, and each of these fails
so. -/
theorem unsettled_iff : Unsettled surroundings line f ↔
    line.arrange surroundings = .error f ∧ f.isA .valueError = false := by
  refine ⟨fun h => ⟨h.arrange_error, isA_of_untold h.untold⟩, fun ⟨h, hf⟩ => ?_⟩
  rcases bind_eq_error.1 h with h | ⟨settings, hsettings, h⟩
  · exact .file ((Config.loadSettings_error_iff hf).1 h) hf
  · rcases bind_eq_error.1 h with h | ⟨number, hnumber, h⟩
    · rw [(Log.numbered_error h).1] at hf
      cases hf
    · exact unsettled_of_reach ⟨hsettings, number, hnumber⟩ hf h

end Setup

/-! ## Carrying out -/

section Run

variable {surroundings : Surroundings} {line : CommandLine} {f : Failure} {x t : Session World}
  {service : NetworkService}

/-- The failures that leave a process: those before the command that commands do not tell of, that
something is no URL while the command is carried out, and that the capacity of containers is too
long to be written. -/
inductive Escapes (surroundings : Surroundings) (line : CommandLine) (x : Session World) :
    Failure → Prop
  | unsettled {f : Failure} : Unsettled surroundings line f → Escapes surroundings line x f
  | url {service : NetworkService} {t u : Session World} {words : String} :
    (line.prepare surroundings).runFrom x = (.ok service, t) →
    (line.command.perform service).runFrom t = (.error (.badUrl words), u) →
      Escapes surroundings line x (.badUrl words)
  | size {service : NetworkService} {t u : Session World} {containerId : Nat} :
    (line.prepare surroundings).runFrom x = (.ok service, t) →
    line.command = .size containerId →
    (service.size containerId).runFrom t = (.ok service.settings.containerSizeBytes, u) →
    Decimal.isOverlong service.settings.containerSizeBytes = true →
      Escapes surroundings line x .overlongInteger

/-- Commands tell of all failures that are foreseen but of those of URLs, and these have texts. -/
theorem of?_of_foreseen (h : f.Foreseen) : (∃ words, f = .badUrl words) ∨
    f.isOverlong = false ∧ ∃ status, ExitStatus.of? f = some status ∧ status.code ∈ [0, 3, 4] := by
  cases h with
  | badUrl words => exact .inl ⟨words, rfl⟩
  | value hf hworded => exact .inr ⟨hworded, .precondition, of?_of_value hf, by decide⟩
  | precondition hf =>
    cases f with
    | precondition => exact .inr ⟨rfl, .precondition, rfl, by decide⟩
    | _ => cases hf
  | storage hf =>
    cases f with
    | storage | sizeUnknown => exact .inr ⟨rfl, .storage, rfl, by decide⟩
    | _ => cases hf

/-- A failure with a text that commands tell of is written, and decides how the process ends. -/
theorem runFrom_tell_worded {status : ExitStatus} (h : ExitStatus.of? f = some status)
    (hworded : f.isOverlong = false) (s : Session World) :
    ∃ written, Command.errorOutput line.asJson f = .ok written ∧
      (line.tell f).runFrom s =
        (.ok status, { s with journal := s.journal ++ [.complained written] }) := by
  have hwritten := Command.errorOutput_eq line.asJson hworded
  refine ⟨_, hwritten, ?_⟩
  rw [runFrom_tell_some h, hwritten]

/-- The silent observers of a process. -/
def silentObservers : List Instrument.Observer :=
  [.other (.tracing 0 .silent), .other (.metrics .silent)]

/-- A process that has a service can send requests. -/
theorem ready_prepare (hx : Log.Clean x) (hpool : x.world.pool = {})
    (hclosed : ∀ n ∈ x.world.network.closed, n < x.world.network.opened)
    (h : (line.prepare surroundings).runFrom x = (.ok service, t)) :
    ∃ own placement nodes number,
      service = overNetwork own placement nodes (Instrument.telemetry 0 .silent .silent) ∧
      placement.carrier = .connection number ∧ Ready number [] t := by
  have hclean : Log.Clean t := by
    have honward := unremarkable_prepareFor silentObservers surroundings line x
    have hprepare : (line.prepareFor silentObservers surroundings).runFrom x =
      (.ok service, t) := h
    rw [hprepare] at honward
    exact honward.clean hx
  unfold prepare at h
  obtain ⟨settings, _, hsettings, h⟩ := Flow.exists_of_bind_ok h
  rw [Flow.runFrom_ofExcept] at hsettings
  obtain ⟨-, rfl⟩ := Prod.mk.inj hsettings
  obtain ⟨_, y, hconfigured, hconnect⟩ := Flow.exists_of_bind_ok h
  have hworld : y.world = x.world := by
    rw [← (Log.kept_of_configureFrom settings.logging line.logLevel x).1, hconfigured]
  rw [← hworld] at hpool hclosed
  obtain ⟨own, placement, nodes, hservice, -, hcarrier, hattached⟩ :=
    attached_connect hconnect hpool hclosed
  obtain ⟨-, -, -, -, -, -, -, -, -, -, -, rfl⟩ := connect_overNetwork hconnect
  have hopen : Open y.world.network.opened (Undisturbed.connected y) :=
    fun hmem => Nat.lt_irrefl _ (hclosed _ hmem)
  exact ⟨own, placement, nodes, _, hservice, hcarrier, hclean, hattached, hopen,
    List.forall_mem_nil _⟩

theorem run_of_unprepared (h : (line.prepare surroundings).runFrom x = (.error f, t)) :
    (line.run surroundings).runFrom x = (line.tell f).runFrom t :=
  @runFrom_runFor_error silentObservers surroundings line x f t h

theorem run_of_prepared (h : (line.prepare surroundings).runFrom x = (.ok service, t)) :
    (line.run surroundings).runFrom x = (line.finish service).runFrom t :=
  @runFrom_runFor_ok silentObservers surroundings line x service t h

theorem prepare_error_iff : ((line.prepare surroundings).runFrom x).1 = .error f ↔
    line.arrange surroundings = .error f :=
  @prepareFor_error_iff surroundings line f x silentObservers

variable (hx : Log.Clean x) (hpool : x.world.pool = {})
  (hclosed : ∀ n ∈ x.world.network.closed, n < x.world.network.opened)

include hx hpool hclosed

/-- A process that has a service carries its command out: that fails as is foreseen, and what it
results in can be written, unless it is a capacity that is too long. -/
theorem performs (hprepare : (line.prepare surroundings).runFrom x = (.ok service, t)) :
    let performed := (line.command.perform service).runFrom t
    Log.Clean performed.2 ∧ service.shutDown.Settles ∧
      (∀ f, performed.1 = .error f → f.Foreseen) ∧
      ∀ result, performed.1 = .ok result → (∃ j, result.Written j) ∧
        (result.isOverlong = false ∨ ∃ containerId, line.command = .size containerId ∧
          result = .int service.settings.containerSizeBytes) := by
  obtain ⟨own, placement, nodes, number, rfl, hcarrier, hready⟩ :=
    ready_prepare hx hpool hclosed hprepare
  obtain ⟨hend, -, -, hforeseen⟩ := @Command.foresees_perform own placement nodes _ number
    (Instrument.discreet_telemetry_silent 0) hcarrier line.command t hready
  exact ⟨hend.clean, settles_shutDown, hforeseen, fun result hresult =>
    Command.gives_perform line.command t result hresult⟩

/-- A command that fails ends the process as the failure is told. -/
theorem outcome_of_failed {u : Session World}
    (hprepare : (line.prepare surroundings).runFrom x = (.ok service, t))
    (hperform : (line.command.perform service).runFrom t = (.error f, u)) :
    ((line.run surroundings).runFrom x).1 = ((line.tell f).runFrom u).1 := by
  obtain ⟨hclean, hdown, -⟩ := performs hx hpool hclosed hprepare
  rw [hperform] at hclean
  have htold : Log.Clean ((line.tell f).runFrom u).2 :=
    hclean.alike (line.tell_cases f u).1
  obtain ⟨w, hw, -⟩ := hdown _ htold
  rw [run_of_prepared hprepare, runFrom_finish_error hperform rfl hw]
  rfl

/-- A command that has a result ends the process in success, unless the result is too long. -/
theorem outcome_of_result {u : Session World} {result : Value}
    (hprepare : (line.prepare surroundings).runFrom x = (.ok service, t))
    (hperform : (line.command.perform service).runFrom t = (.ok result, u)) :
    ((line.run surroundings).runFrom x).1 =
      if result.isOverlong then .error .overlongInteger else .ok .success := by
  obtain ⟨hclean, hdown, -, hresult⟩ := performs hx hpool hclosed hprepare
  rw [hperform] at hclean hresult
  obtain ⟨⟨j, hwritten⟩, -⟩ := hresult result rfl
  obtain ⟨w, hw, -⟩ := hdown u hclean
  rw [run_of_prepared hprepare, runFrom_finish_ok hperform hw, Flow.outcome_bind,
    Flow.runFrom_ofExcept, Command.output_of_written hwritten]
  cases result.isOverlong <;> rfl

/-- What escapes a process is what it ends in. -/
theorem Escapes.outcome (h : Escapes surroundings line x f) :
    ((line.run surroundings).runFrom x).1 = .error f := by
  cases h with
  | unsettled h =>
    obtain ⟨hprepare, -⟩ := unsettled_iff.1 h
    have hrun : (line.prepare surroundings).runFrom x =
        (.error f, ((line.prepare surroundings).runFrom x).2) :=
      Prod.ext (prepare_error_iff.2 hprepare) rfl
    rw [run_of_unprepared hrun, runFrom_tell_none h.untold]
  | url hprepare hperform =>
    rw [outcome_of_failed hx hpool hclosed hprepare hperform, runFrom_tell_none rfl]
  | @size service t u containerId hprepare hcommand hsize hover =>
    have hperform : (line.command.perform service).runFrom t =
        (.ok (.int service.settings.containerSizeBytes), u) := by
      rw [hcommand]
      exact Flow.runFrom_bind_ok hsize
    rw [outcome_of_result hx hpool hclosed hprepare hperform]
    exact if_pos hover

/-- A process ends with 0, 3 or 4, or something escapes. -/
theorem ends_or_escapes :
    (∃ status, ((line.run surroundings).runFrom x).1 = .ok status ∧ status.code ∈ [0, 3, 4]) ∨
      ∃ f, Escapes surroundings line x f := by
  cases hprepare : (line.prepare surroundings).runFrom x with
  | mk outcome t =>
    cases outcome with
    | error f =>
      have harrange := prepare_error_iff.1 (congrArg Prod.fst hprepare)
      cases hf : f.isA .valueError with
      | true =>
        obtain ⟨_, -, htell⟩ := @runFrom_tell_worded line f _ (of?_of_value hf)
          (isOverlong_arrange harrange) t
        rw [run_of_unprepared hprepare, htell]
        exact .inl ⟨.precondition, rfl, by decide⟩
      | false => exact .inr ⟨f, .unsettled (unsettled_iff.2 ⟨harrange, hf⟩)⟩
    | ok service =>
      obtain ⟨-, -, hforeseen, hresult⟩ := performs hx hpool hclosed hprepare
      cases hperform : (line.command.perform service).runFrom t with
      | mk performed u =>
        rw [hperform] at hforeseen hresult
        cases performed with
        | error f =>
          rcases of?_of_foreseen (hforeseen f rfl) with
            ⟨words, rfl⟩ | ⟨hworded, status, hstatus, hcode⟩
          · exact .inr ⟨_, .url hprepare hperform⟩
          · obtain ⟨_, -, htell⟩ := @runFrom_tell_worded line f _ hstatus hworded u
            rw [outcome_of_failed hx hpool hclosed hprepare hperform, htell]
            exact .inl ⟨status, rfl, hcode⟩
        | ok result =>
          obtain ⟨-, hcases⟩ := hresult result rfl
          cases hover : result.isOverlong with
          | false =>
            rw [outcome_of_result hx hpool hclosed hprepare hperform, hover]
            exact .inl ⟨.success, rfl, by decide⟩
          | true =>
            -- Nothing but the capacity of a container can be too long to be written.
            obtain hfits | ⟨containerId, hcommand, rfl⟩ := hcases
            · rw [hover] at hfits
              cases hfits
            · rw [hcommand] at hperform
              obtain ⟨bytes, v, hsize, hbytes⟩ := Flow.exists_of_bind_ok hperform
              cases hbytes
              exact .inr ⟨_, .size hprepare hcommand hsize hover⟩

omit hx hpool hclosed

/-- Nothing is written where neither part writes anything. -/
theorem journal_bind {α β : Type} {body : Flow World α} {next : α → Flow World β}
    (hb : ∀ s, (body.runFrom s).2.journal = s.journal)
    (hn : ∀ a s, ((next a).runFrom s).2.journal = s.journal) (s : Session World) :
    ((body >>= next).runFrom s).2.journal = s.journal := by
  rw [Flow.runFrom_bind, ← hb s]
  rcases body.runFrom s with ⟨_ | a, t⟩
  · rfl
  · exact hn a t

/-- Setting out writes nothing. -/
theorem journal_prepare (surroundings : Surroundings) (line : CommandLine) (x : Session World) :
    ((line.prepare surroundings).runFrom x).2.journal = x.journal := by
  have hexcept : ∀ {α : Type} (outcome : Except Failure α) (s : Session World),
      ((Flow.ofExcept outcome : Flow World α).runFrom s).2.journal = s.journal := fun _ _ => rfl
  have hpure : ∀ {α : Type} (a : α) (s : Session World),
      ((pure a : Flow World α).runFrom s).2.journal = s.journal := fun _ _ => rfl
  have hnetwork : ∀ s : Session World,
      ((Http.Network.connect World.networkSlot).runFrom s).2.journal = s.journal := fun _ => rfl
  have hplacement : ∀ (placement : PlacementSettings) (s : Session World),
      ((Placement.connect World.networkSlot placement
        (Instrument.telemetry 0 .silent .silent)).runFrom s).2.journal = s.journal := by
    intro placement
    unfold Placement.connect Client.connect
    exact journal_bind (journal_bind (hexcept _) fun _ => journal_bind hnetwork fun _ => hpure _)
      fun _ => hpure _
  unfold prepare Service.connect
  refine journal_bind (hexcept _) (fun settings => ?_) x
  refine journal_bind (fun s => (Log.kept_of_configureFrom _ _ s).2) fun _ => ?_
  refine journal_bind (hexcept _) fun own => journal_bind (hexcept _) fun placement => ?_
  refine journal_bind (hplacement placement) fun _ => journal_bind (hexcept _) fun nodes => ?_
  exact hpure _

end Run

/-- **A process ends with 0, 3 or 4 unless something escapes.** Whatever the configuration, the
variables, the command line and the answers of the network: a process ends with one of these if
there is nothing that `Escapes`, and else in the failure that does. If the command is not come to,
because settings cannot be loaded, logging cannot be set up or the service cannot be connected, then
either this is one of the cases of `Unsettled`, which end the process without a word, or the process
ends with 3 and writes nothing but the failure, mapped as one of an argument, on standard error.

This is about what is done with a command line once the program is there. Settings are also loaded
when the program is put together, from the variables and the standard file; a process in which they
cannot be loaded then does not come to its command line, and ends with 1. -/
theorem run_exits_iff {surroundings : Surroundings} {line : CommandLine} {x : Session World}
    (hx : Log.Clean x) (hpool : x.world.pool = {})
    (hclosed : ∀ n ∈ x.world.network.closed, n < x.world.network.opened) :
    let run := (line.run surroundings).runFrom x
    ((∃ status, run.1 = .ok status ∧ status.code ∈ [0, 3, 4]) ↔
      ∀ f, ¬ Escapes surroundings line x f) ∧
    (∀ f, run.1 = .error f ↔ Escapes surroundings line x f) ∧
    ∀ f t, (line.prepare surroundings).runFrom x = (.error f, t) →
      (Unsettled surroundings line f ∧ run.1 = .error f ∧ run.2.journal = x.journal) ∨
      (f.isA .valueError = true ∧ run.1.map ExitStatus.code = .ok 3 ∧
        ∃ written words, run.2.journal = x.journal ++ [.complained written] ∧
          Command.errorOutput line.asJson f = .ok written ∧ f.text = .ok words ∧
          f.normalized = .ok f.detail ∧
          f.detail = .validation words ErrorDetail.invalidArgument
            (Labels.ofList [("exception_type", f.kind)]) ∧
          (line.asJson = true → Json.read written =
            .ok (.object [("error", Value.detailJson f.detail)]))) := by
  intro run
  have houtcome : ∀ f, Escapes surroundings line x f → run.1 = .error f :=
    fun f h => h.outcome hx hpool hclosed
  have hends : (∃ status, run.1 = .ok status ∧ status.code ∈ [0, 3, 4]) ∨
      ∃ f, Escapes surroundings line x f := ends_or_escapes hx hpool hclosed
  refine ⟨⟨?_, fun hnone => ?_⟩, fun f => ⟨fun hf => ?_, houtcome f⟩, fun f t hprepare => ?_⟩
  · rintro ⟨status, hstatus, -⟩ f hescapes
    cases hstatus.symm.trans (houtcome f hescapes)
  · rcases hends with hends | ⟨f, hescapes⟩
    · exact hends
    · exact absurd hescapes (hnone f)
  · rcases hends with ⟨status, hstatus, -⟩ | ⟨f', hescapes⟩
    · cases hf.symm.trans hstatus
    · cases hf.symm.trans (houtcome f' hescapes)
      exact hescapes
  · have hjournal : t.journal = x.journal := by
      rw [← journal_prepare surroundings line x, hprepare]
    have harrange := prepare_error_iff.1 (congrArg Prod.fst hprepare)
    cases hf : f.isA .valueError with
    | false =>
      have hunsettled : Unsettled surroundings line f := unsettled_iff.2 ⟨harrange, hf⟩
      have hrun : run = (.error f, t) :=
        (run_of_unprepared hprepare).trans (runFrom_tell_none hunsettled.untold t)
      rw [hrun]
      exact .inl ⟨hunsettled, rfl, hjournal⟩
    | true =>
      have hworded := isOverlong_arrange harrange
      obtain ⟨written, hwritten, htell⟩ :=
        @runFrom_tell_worded line f _ (of?_of_value hf) hworded t
      have hrun : run = _ := (run_of_unprepared hprepare).trans htell
      rw [hrun]
      refine .inr ⟨rfl, rfl, written, f.words, congrArg (· ++ _) hjournal, hwritten,
        Failure.text_of_worded hworded, Failure.normalized_of_worded hworded, f.detail_of_value hf, ?_⟩
      intro hjson
      rw [hjson] at hwritten
      exact Command.read_errorOutput hwritten

/-- Logging is to be set to a level that there is none of, by a variable that is only found when the
command line is there. Where it is found from the start the process ends with 1. -/
theorem run_exits_iff_loud :
    let surroundings : Surroundings := { environment := [("STOWAGE_LOGGING__LEVEL", "loud")] }
    let line : CommandLine := { command := .size 7, asJson := true }
    let x := begun []
    let run := (line.run surroundings).runFrom x
    Log.Clean x ∧ x.world.pool = {} ∧
      (∀ n ∈ x.world.network.closed, n < x.world.network.opened) ∧
      (∀ f, ¬ Escapes surroundings line x f) ∧ run.1.map ExitStatus.code = .ok 3 ∧
      ∃ (f : Failure) (written : String), f.isA .valueError = true ∧
        run.2.journal = [.complained written] ∧
        Json.read written = .ok (.object [("error", Value.detailJson f.detail)]) := by
  intro surroundings line x run
  have hx : Log.Clean x := List.forall_mem_nil _
  have hpool : x.world.pool = {} := rfl
  have hclosed : ∀ n ∈ x.world.network.closed, n < x.world.network.opened :=
    List.forall_mem_nil _
  have hcode : (run.1.mapError Failure.brief).map ExitStatus.code = .ok 3 := by decide +kernel
  have hunprepared : ((line.prepare surroundings).runFrom x).1.isOk = false := by decide +kernel
  obtain ⟨hends, hescapes, htold⟩ := @run_exits_iff surroundings line x hx hpool hclosed
  obtain ⟨status, hstatus⟩ : ∃ status, run.1 = .ok status := by
    cases hrun : run.1 with
    | error f =>
      rw [hrun] at hcode
      cases hcode
    | ok status => exact ⟨status, rfl⟩
  have hnone : ∀ f, ¬ Escapes surroundings line x f := by
    intro f hf
    cases hstatus.symm.trans ((hescapes f).2 hf)
  cases hprepare : (line.prepare surroundings).runFrom x with
  | mk outcome t =>
    rw [hprepare] at hunprepared
    cases outcome with
    | ok service => cases hunprepared
    | error f =>
      rcases htold f t hprepare with
        ⟨hunsettled, -⟩ | ⟨hf, hthree, written, -, hjournal, -, -, -, -, hread⟩
      · exact absurd (.unsettled hunsettled) (hnone f)
      · exact ⟨hx, hpool, hclosed, hnone, hthree, f, written, hf, hjournal, hread rfl⟩

/-- A variable sets something other than a mapping for the service. The process ends neither with 0
nor with 3 or 4, and nothing is written. -/
theorem not_exits_unmapped :
    let surroundings : Surroundings :=
      { environment := [("STOWAGE_COMPONENTS__SERVICE__CONTAINER_OPERATIONS", "5")] }
    let line : CommandLine := { command := .size 7 }
    let run := (line.run surroundings).runFrom (begun [])
    (¬ ∃ status, run.1 = .ok status ∧ status.code ∈ [0, 3, 4]) ∧ run.2.journal = [] ∧
      (run.1.mapError Failure.brief).map ExitStatus.code = .error ("TypeError: " ++
        "components.service.container_operations must resolve to an object mapping") := by
  intro surroundings line run
  have hfails : (run.1.mapError Failure.brief).map ExitStatus.code = .error ("TypeError: " ++
      "components.service.container_operations must resolve to an object mapping") := by
    decide +kernel
  have hjournal : run.2.journal.isEmpty = true := by decide +kernel
  refine ⟨?_, List.isEmpty_iff.1 hjournal, hfails⟩
  rintro ⟨status, hstatus, -⟩
  rw [hstatus] at hfails
  cases hfails

end CommandLine

end Stowage
