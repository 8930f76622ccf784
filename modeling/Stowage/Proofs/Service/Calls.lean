import Stowage.Proofs.Service.Errands
import Stowage.Proofs.Service.Remote

/-!
What a call of a collaborator sends over the network.

A call of an adapter method sends one request or none (`RemoteMethod.sends`), and none only if no
request can be made of its arguments or the connection is not open. What is sent carries the trace
identifier that the call has been given, and none if it has not been given any (`Asks.trace?_eq`).
All other calls send nothing. `Sends` puts this together for the calls of a service over the
network.
-/

namespace Stowage

open Http (Client Request Ask)

/-! ## Trace identifiers of requests -/

namespace Http.Client

variable {client : Client} {number : Nat} {ask : Ask} {request : Request}

/-- A request carries the trace identifier that is asked for, and no other. -/
theorem trace?_eq (h : client.request number ask = .ok request)
    (hc : client.headers = Placement.jsonHeaders) (hh : ask.headers = .null)
    (hd : ask.trace.isSome → ask.document = .null) : request.trace? = ask.trace := by
  cases ht : ask.trace with
  | none => exact Service.trace?_of_untraced h hc ht hh
  | some trace => exact Service.trace?_of_traced h ht hh (hd (by rw [ht]; rfl))

end Http.Client

/-! ## Methods -/

namespace RemoteMethod

variable {client : Client} {number : Nat} {request : Request} {m : RemoteMethod}
  {telemetry : List (Instrument.Concern World)} {s : Session World}

/-- The trace identifier that a method is given. -/
def trace? : RemoteMethod → Option String
  | createData _ trace | closeData _ trace | readData _ trace | deleteData _ _ trace => some trace
  | _ => none

theorem trace_askAbout {containerId : Int} {rest : String} {make : String → Ask} {ask : Ask}
    (h : askAbout containerId rest make = .ok ask) {trace : Option String}
    (hmake : ∀ url, (make url).trace = trace ∧ (make url).document = .null) :
    ask.trace = trace ∧ ask.document = .null := by
  unfold askAbout at h
  generalize Http.Storage.containerPath containerId rest = path at h
  cases path with
  | error f => cases h
  | ok url =>
    cases h
    exact hmake url

/-- A method asks with the trace identifier that it is given, and then without a document. -/
theorem trace_ask {ask : Ask} (h : m.ask = .ok ask) :
    ask.trace = m.trace? ∧ (ask.trace.isSome → ask.document = .null) := by
  cases m with
  | deleteRecord | getRecord | createData | deleteData | closeData | readData =>
    obtain ⟨htrace, hdocument⟩ := trace_askAbout h fun _ => ⟨rfl, rfl⟩
    exact ⟨htrace, fun _ => hdocument⟩
  | allocate | notify | listRecords | queryNodes | replicate | createPipeline =>
    rw [← Except.ok.inj h]
    exact ⟨rfl, fun hsome => by cases hsome⟩

/-- A request that a method asks carries the trace identifier that the method is given, or none. -/
theorem Asks.trace?_eq (h : m.Asks client number request)
    (hc : client.headers = Placement.jsonHeaders) : request.trace? = m.trace? := by
  obtain ⟨ask, hask, hmade⟩ := bind_eq_ok.1 h.2
  obtain ⟨htrace, hdocument⟩ := trace_ask hask
  rw [Client.trace?_eq hmade hc (shaped_ask hask).headers hdocument, htrace]

/-- **A call of a method sends one request or none**, and nothing else that it does is seen. If it
sends none, none can be made of its arguments, or the connection for it is not open. -/
theorem sends (ht : ∀ c ∈ telemetry, c.Discreet) (hs : Log.Writable s) (m : RemoteMethod)
    (client : Client) :
    (s.Alike ((m.run client telemetry).runFrom s).2 ∧
      ∀ number request, m.Asks client number request → ¬ Service.Open number s) ∨
    ∃ number request, m.Asks client number request ∧
      (Service.afterSending s request).Alike ((m.run client telemetry).runFrom s).2 := by
  have hcomponent : ∀ c ∈ (m.component client telemetry).telemetry, c.Discreet := by
    cases m <;> exact ht
  rw [run_eq]
  unfold Instrument.Component.call
  cases hreferences : Instrument.references (m.supplied.map Prod.fst) m.supplied with
  | error f =>
    refine .inl ⟨.refl s, fun number request hasks _ => ?_⟩
    obtain ⟨labels, hl⟩ := Instrument.references_ok (fits_supplied hasks) (m.supplied.map Prod.fst)
    rw [hreferences] at hl
    cases hl
  | ok labels =>
    rcases Instrument.Operation.run_transparent
      (Gauge.discreet_concerns hcomponent m.operation) labels (m.body client) s with
      ⟨hw, -⟩ | ⟨s₁, ha, hb, -⟩
    · exact absurd hs hw
    · rcases Service.body_cases m client s₁ with ⟨f, hf⟩ | ⟨number, request, hasks, hr⟩
      · rw [hf] at hb
        refine .inl ⟨ha.trans hb, fun number request hasks hopen => ?_⟩
        have hsent := runFrom_body hasks (hopen.alike ha)
        have hjournal := congrArg (fun r => r.2.journal.length) (hf.symm.trans hsent)
        simp [Service.afterSending] at hjournal
      · rw [hr] at hb
        refine .inr ⟨number, request, hasks, .trans ?_ hb⟩
        have hrequests : s₁.requests = s.requests := ha.requests
        refine ⟨?_, ha.context, ha.logging, ?_⟩
        · simp only [Service.afterSending, ha.world]
        · unfold Session.requests at hrequests ⊢
          simp only [Service.afterSending, List.filterMap_append, hrequests]

end RemoteMethod

/-! ## Calls -/

namespace Service

variable {own : ContainerOperationsSettings} {placement client : Client} {nodes : DatanodeSettings}
  {telemetry : List (Instrument.Concern World)} {step : Step NetworkHandle} {m : RemoteMethod}

/-- The trace identifier that a call is given. -/
def Step.trace? {η : Type} : Step η → Option String
  | .createData _ _ trace | .closeData _ _ trace | .readData _ _ trace | .deleteData _ _ _ trace =>
    some trace
  | _ => none

/-- The method that a call is of, and the client that it asks. -/
def Step.method? (placement : Client) : Step NetworkHandle → Option (Client × RemoteMethod)
  | .allocate type factor owner => some (placement, .allocate type factor owner)
  | .notify event => some (placement, .notify event)
  | .deleteRecord containerId => some (placement, .deleteRecord containerId)
  | .getRecord containerId => some (placement, .getRecord containerId)
  | .listRecords start count => some (placement, .listRecords start count)
  | .queryNodes states scope pool => some (placement, .queryNodes states scope pool)
  | .replicate type factor pool => some (placement, .replicate type factor pool)
  | .createPipeline handle name members => some (handle.client, .createPipeline name members)
  | .createData handle containerId trace => some (handle.client, .createData containerId trace)
  | .closeData handle containerId trace => some (handle.client, .closeData containerId trace)
  | .readData handle containerId trace => some (handle.client, .readData containerId trace)
  | .deleteData handle containerId force trace =>
    some (handle.client, .deleteData containerId force trace)
  | .closePlacement | .acquire .. | .release _ | .closePool => none

theorem trace?_of_method? (h : step.method? placement = some (client, m)) :
    step.trace? = m.trace? := by
  cases step <;> cases h <;> rfl

theorem perform_of_method? (h : step.method? placement = some (client, m)) (s : Session World) :
    (((overNetwork own placement nodes telemetry).parts.perform step).runFrom s).2 =
      ((m.run client telemetry).runFrom s).2 := by
  cases step <;> cases h <;> rfl

/-- What a call sends: nothing, or one request of the method that it is of, with the trace
identifier that it is given. On the data of a container nothing is sent only if no request can be
made. -/
inductive Sends (placement : Client) (step : Step NetworkHandle) : List Request → Prop
  | nothing : (step.trace?.isSome → ∀ client m, step.method? placement = some (client, m) →
      ∀ number request, ¬ m.Asks client number request) → Sends placement step []
  | request {client : Client} {m : RemoteMethod} {number : Nat} {request : Request} :
    step.method? placement = some (client, m) → m.Asks client number request →
    request.trace? = step.trace? → Sends placement step [request]

end Service

end Stowage
