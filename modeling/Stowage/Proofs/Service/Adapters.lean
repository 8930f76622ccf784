import Stowage.Proofs.Service.Sent

/-!
What the adapters send.

An action on the data of a container sends at most one request, which is about data, and succeeds
only if its answer is let pass (`DataStep`). A report of completion and the removal of a record are
final (`FinalStep`). Everything else that container operations send is plain.
-/

namespace Stowage.Service

open Http (Request Answer Client Ask)

variable {script : List Answer} {start number : Nat} {calm : Prop} {α β : Type}

/-! ## Steps -/

/-- What an action on the data of a container sends, and how that goes with its outcome. -/
inductive DataStep {α : Type} (calm : Prop) : Except Failure α → List Sending → Prop
  | unsent (f : Failure) : DataStep calm (.error f) []
  | sent (request : Request) (answer : Answer) (outcome : Except Failure α) :
    request.isData = true → request.completes = false →
    (∀ a, outcome = .ok a → Confirms request answer) →
    (calm → Confirms request answer → ∃ a, outcome = .ok a) →
    DataStep calm outcome [(request, answer)]

/-- Requests that are neither about data nor final. -/
def Plain (more : List Sending) : Prop := ∀ e ∈ more, e.1.isPlain

/-- A final request, which is only not sent when not all is calm. -/
inductive FinalStep (calm : Prop) : List Sending → Prop
  | unsent : ¬ calm → FinalStep calm []
  | sent (request : Request) (answer : Answer) :
    request.isData = false → request.completes = true → FinalStep calm [(request, answer)]

theorem plain_nil : Plain [] := List.forall_mem_nil _

theorem DataStep.outcome {o : Except Failure α} {o' : Except Failure β} {more : List Sending}
    (h : DataStep calm o more) (ho : (∃ a, o = .ok a) ↔ ∃ b, o' = .ok b) :
    DataStep calm o' more := by
  cases h with
  | unsent f =>
    cases o' with
    | error g => exact .unsent g
    | ok b =>
      obtain ⟨a, ha⟩ := ho.2 ⟨b, rfl⟩
      cases ha
  | sent request answer _ hdata hfinal hpassed hcalm =>
    refine .sent request answer o' hdata hfinal (fun b hb => ?_) fun hc hp => ?_
    · obtain ⟨a, ha⟩ := ho.2 ⟨b, hb⟩
      exact hpassed a ha
    · exact ho.1 (hcalm hc hp)

/-- A call around an action sends what the action does. -/
theorem DataStep.passed {o : Except Failure α} {more : List Sending}
    (h : Gauge.Passed calm (DataStep calm) o more) : DataStep calm o more := by
  rcases h with h | ⟨hn, ⟨f, rfl⟩, rfl | ⟨o', h⟩⟩
  · exact h
  · exact .unsent f
  · cases h with
    | unsent => exact .unsent f
    | sent request answer _ hdata hfinal =>
      exact .sent request answer _ hdata hfinal (fun a ha => by cases ha) fun hc => absurd hc hn

/-- The requests of a call are plain if every request that it can make out is. -/
theorem Calls.plain {client : Client} {ask : Ask} {o : Except Failure α} {more : List Sending}
    (h : Calls number calm client ask o more)
    (hplain : ∀ n request, client.request n ask = .ok request → request.isPlain) : Plain more := by
  cases h with
  | unsent => exact plain_nil
  | sent other request answer _ hrequest =>
    intro e he
    rw [List.mem_singleton.1 he]
    exact hplain other request hrequest

/-! ## Adapters -/

section Adapters

variable {telemetry : List (Instrument.Concern World)} {client : Client}

/-- The placement service that a client reaches. -/
def placementOver (client : Client) (telemetry : List (Instrument.Concern World)) :
    Placement World := ⟨World.networkSlot, client, telemetry⟩

/-- The datanodes over the network. -/
def datanodesOver (telemetry : List (Instrument.Concern World)) : Datanode World :=
  ⟨World.networkSlot, telemetry⟩

/-- A flow that ends by dropping what it has got sends what it has sent. -/
theorem adds_dropped {body : Flow World α} (h : (sent script start number calm).Adds body
    (DataStep calm)) :
    (sent script start number calm).Adds (body >>= fun _ => pure ()) (DataStep calm) := by
  refine .bind h (fun f more hs => hs.outcome ⟨?_, ?_⟩) fun a more hs => .pure ?_
  · rintro ⟨_, h⟩
    cases h
  · rintro ⟨_, h⟩
    cases h
  · rw [List.append_nil]
    exact hs.outcome ⟨fun _ => ⟨(), rfl⟩, fun _ => ⟨a, rfl⟩⟩

theorem adds_containerCall (operation rest : String) {method : String} (containerId : Int)
    (trace : String) (query : Value) (hm : Text.upper method ≠ "GET") :
    (sent script start number calm).Adds ((datanodesOver telemetry).containerCall client operation
      method rest containerId trace query) (DataStep calm) := by
  refine .bind_ofExcept (fun f _ => .unsent f) fun url _ => ?_
  refine .mono (adds_call client operation _ rfl) fun o more h => ?_
  cases h with
  | unsent f => exact .unsent f
  | sent other request answer _ hrequest hpassed hcalm =>
    obtain ⟨hdata, hfinal⟩ := Client.isData_of_trace hrequest rfl rfl rfl hm
    exact .sent request answer o hdata hfinal hpassed hcalm

/-- A call around an action on the data of a container. -/
theorem adds_action (ht : ∀ c ∈ telemetry, c.Discreet) (name : String) (containerId : Int)
    {rest : List (String × Value)} (hrest : ∀ e ∈ rest, e.2.isOverlong = false)
    {body : Flow World Unit} (hb : (sent script start number calm).Adds body (DataStep calm)) :
    (sent script start number calm).Adds ((datanodesOver telemetry).component.call name
      (("container_id", .int containerId) :: rest) body) (DataStep calm) :=
  .call_int (fun _ => hb) ht name _ hrest (fun _ => .unsent _) fun _ _ _ h => DataStep.passed h

theorem fits_trace (trace : String) :
    ∀ e ∈ [("trace_id", Value.text trace)], e.2.isOverlong = false := by
  intro e he
  rw [List.mem_singleton.1 he]
  rfl

theorem adds_createData (ht : ∀ c ∈ telemetry, c.Discreet) (containerId : Int) (trace : String) :
    (sent script start number calm).Adds
      ((datanodesOver telemetry).create client containerId trace) (DataStep calm) := by
  have hm : Text.upper "PUT" ≠ "GET" := by rw [Http.upper_put]; decide
  exact adds_action ht _ containerId (fits_trace trace)
    (adds_dropped (adds_containerCall _ _ containerId trace .null hm))

theorem adds_closeData (ht : ∀ c ∈ telemetry, c.Discreet) (containerId : Int) (trace : String) :
    (sent script start number calm).Adds
      ((datanodesOver telemetry).close client containerId trace) (DataStep calm) := by
  have hm : Text.upper "POST" ≠ "GET" := by rw [Http.upper_post]; decide
  exact adds_action ht _ containerId (fits_trace trace)
    (adds_dropped (adds_containerCall _ _ containerId trace .null hm))

theorem adds_deleteData (ht : ∀ c ∈ telemetry, c.Discreet) (containerId : Int) (force : Bool)
    (trace : String) :
    (sent script start number calm).Adds
      ((datanodesOver telemetry).delete client containerId (.bool force) trace) (DataStep calm) := by
  have hm : Text.upper "DELETE" ≠ "GET" := by rw [Http.upper_delete]; decide
  refine adds_action ht _ containerId (fun e he => ?_)
    (adds_dropped (adds_containerCall _ _ containerId trace _ hm))
  simp only [List.mem_cons, List.not_mem_nil, or_false] at he
  rcases he with rfl | rfl <;> rfl

/-- What is plain stays so when nothing is sent afterwards. -/
theorem adds_plain_bind {body : Flow World α} {next : α → Flow World β}
    (hb : (sent script start number calm).Adds body fun _ more => Plain more)
    (hn : ∀ a, (sent script start number calm).Adds (next a) fun _ more => more = []) :
    (sent script start number calm).Adds (body >>= next) fun _ more => Plain more :=
  .last (R := fun _ more => Plain more) (fun _ hp => hp) hb hn

theorem adds_plain_call (operation : String) {ask : Ask} (hcheck : ask.checkStatus = true)
    (hplain : ∀ n request, client.request n ask = .ok request → request.isPlain) :
    (sent script start number calm).Adds
      (Http.Storage.call World.networkSlot client operation ask) fun _ more => Plain more :=
  .mono (adds_call client operation ask hcheck) fun _ _ h => h.plain hplain

theorem adds_readData (ht : ∀ c ∈ telemetry, c.Discreet) (containerId : Int) (trace : String) :
    (sent script start number calm).Adds
      ((datanodesOver telemetry).read client containerId trace) fun _ more => Plain more := by
  refine .call_int (P := fun _ more => Plain more) (fun _ => ?_) ht _ _ (fits_trace trace)
    (fun _ => plain_nil) fun _ o more h => h.of_list fun _ => plain_nil
  refine adds_plain_bind (.bind_ofExcept (fun _ _ => plain_nil) fun url _ => ?_)
    fun j => .ofExcept rfl
  exact adds_plain_call _ rfl fun n request h => Client.isPlain_of_get h Http.upper_get

theorem adds_createPipeline (ht : ∀ c ∈ telemetry, c.Discreet) (name : String)
    (members : List String) :
    (sent script start number calm).Adds
      ((datanodesOver telemetry).createPipeline client name members) fun _ more => Plain more := by
  refine .mono (.call (P := fun _ more => Plain more) ?_ ht _ fun e he => ?_)
    fun o more h => h.of_list fun _ => plain_nil
  · exact adds_plain_bind (adds_plain_call _ rfl fun n request h =>
      Client.isData_of_document h (Datanode.bodyOf_pipeline name members) Http.upper_post)
      fun _ => .pure rfl
  · rw [List.mem_singleton.1 he]
    rfl

theorem adds_allocate (ht : ∀ c ∈ telemetry, c.Discreet) (type : ReplicationType)
    (factor : ReplicationFactor) (owner : String) :
    (sent script start number calm).Adds
      ((placementOver client telemetry).allocate type factor owner) fun _ more => Plain more := by
  refine .mono (.call (P := fun _ more => Plain more) ?_ ht _ fun e he => ?_)
    fun o more h => h.of_list fun _ => plain_nil
  · exact adds_plain_bind (adds_plain_call _ rfl fun n request h =>
      Client.isData_of_document h (Placement.bodyOf_allocation type factor owner) Http.upper_post)
      fun _ => .ofExcept rfl
  · rw [List.mem_singleton.1 he]
    rfl

/-- What is asked of the placement service to report a stage change. -/
def reportAsk (event : StageEvent) : Ask where
  method := "POST"
  url := "/stage-changes"
  document := (Model.toValue event).dump

/-- A report sends what the client makes of it. -/
theorem adds_notify (ht : ∀ c ∈ telemetry, c.Discreet) (event : StageEvent)
    {P : List Sending → Prop}
    (hcall : (sent script start number calm).Adds
      (Http.Storage.call World.networkSlot client "notify_stage_change" (reportAsk event))
      fun _ more => P more) :
    (sent script start number calm).Adds
      ((placementOver client telemetry).notify (.ofMember event.subject) (.text event.subjectId)
        (.ofMember event.operation) (.ofMember event.phase))
      (Gauge.Passed calm fun _ more => P more) := by
  refine .call ?_ ht _ fun e he => ?_
  · rw [StageEvent.validate_parts]
    refine .bind_ofExcept (fun f hf => ?_) fun validated hvalidated => ?_
    · cases hf
    · rw [← Except.ok.inj hvalidated]
      exact .bind_pure hcall
  · rw [List.mem_singleton.1 he]
    rfl

/-- A request that reports a stage change is final if it reports completion. -/
theorem completes_report {n : Nat} {event : StageEvent} {request : Request}
    (h : client.request n (reportAsk event) = .ok request) : request.isData = false ∧
      request.completes = (Vocabulary.value event.phase == Vocabulary.value StagePhase.complete) :=
  Client.isData_of_document h event.bodyOf_dump Http.upper_post

theorem adds_begun (ht : ∀ c ∈ telemetry, c.Discreet) {event : StageEvent}
    (hphase : event.phase = .begun) :
    (sent script start number calm).Adds
      ((placementOver client telemetry).notify (.ofMember event.subject) (.text event.subjectId)
        (.ofMember event.operation) (.ofMember event.phase)) fun _ more => Plain more := by
  refine .mono (adds_notify ht event (adds_plain_call _ rfl fun n request h => ?_))
    fun o more hp => hp.of_list fun _ => plain_nil
  obtain ⟨hdata, hfinal⟩ := completes_report h
  rw [hphase] at hfinal
  exact ⟨hdata, hfinal.trans (by decide)⟩

/-- A call whose every request is final is a final step. -/
theorem adds_final_call (operation : String) {ask : Ask} (hcheck : ask.checkStatus = true)
    (hcarrier : calm → client.carrier = .connection number)
    (hmade : calm → ∃ request, client.request number ask = .ok request)
    (hfinal : ∀ n request, client.request n ask = .ok request →
      request.isData = false ∧ request.completes = true) :
    (sent script start number calm).Adds
      (Http.Storage.call World.networkSlot client operation ask)
      fun _ more => FinalStep calm more := by
  refine .mono (adds_call client operation ask hcheck) fun o more h => ?_
  cases h with
  | unsent f hn =>
    refine .unsent fun hc => ?_
    obtain ⟨request, hrequest⟩ := hmade hc
    exact hn hc (hcarrier hc) request hrequest
  | sent other request answer _ hrequest =>
    obtain ⟨hdata, hcompletes⟩ := hfinal other request hrequest
    exact .sent request answer hdata hcompletes

theorem adds_complete (ht : ∀ c ∈ telemetry, c.Discreet) {event : StageEvent}
    (hphase : event.phase = .complete)
    (hcarrier : calm → client.carrier = .connection number)
    (hmade : calm → ∃ url, client.base.resolve "/stage-changes" = .ok url) :
    (sent script start number calm).Adds
      ((placementOver client telemetry).notify (.ofMember event.subject) (.text event.subjectId)
        (.ofMember event.operation) (.ofMember event.phase)) fun _ more => FinalStep calm more := by
  refine .mono (adds_notify ht event (adds_final_call _ rfl hcarrier (fun hc => ?_)
    fun n request h => ?_)) fun o more hp => hp.of_list .unsent
  · obtain ⟨url, hurl⟩ := hmade hc
    exact Client.request_ok hurl event.bodyOf_dump rfl rfl rfl
  · obtain ⟨hdata, hfinal⟩ := completes_report h
    rw [hphase] at hfinal
    exact ⟨hdata, hfinal.trans (by decide)⟩

theorem adds_deleteRecord (ht : ∀ c ∈ telemetry, c.Discreet) {containerId : Int}
    (hid : Decimal.isOverlong containerId = false)
    (hheaders : client.headers = Placement.jsonHeaders)
    (hcarrier : calm → client.carrier = .connection number)
    (hmade : calm → ∃ url, client.base.resolve
      ("/containers/" ++ Decimal.integerText containerId ++ "") = .ok url) :
    (sent script start number calm).Adds
      ((placementOver client telemetry).deleteRecord containerId)
      fun _ more => FinalStep calm more := by
  refine .mono (.call (P := fun _ more => FinalStep calm more) ?_ ht _ fun e he => ?_)
    fun o more hp => hp.of_list .unsent
  · have hpath : Http.Storage.containerPath containerId "" =
        .ok ("/containers/" ++ Decimal.integerText containerId ++ "") := by
      unfold Http.Storage.containerPath
      rw [hid]
      rfl
    rw [hpath]
    refine .bind_ofExcept (fun f hf => ?_) fun path hp => .bind_pure ?_
    · cases hf
    · rw [← Except.ok.inj hp]
      refine adds_final_call _ rfl hcarrier (fun hc => ?_) fun n request h => ?_
      · obtain ⟨url, hurl⟩ := hmade hc
        exact Client.request_ok hurl rfl rfl rfl rfl
      · exact Client.completes_of_delete h hheaders rfl rfl rfl Http.upper_delete
  · rw [List.mem_singleton.1 he]
    exact hid

end Adapters

end Stowage.Service
