import Stowage.Proofs.Container.Grammar
import Stowage.Proofs.Service.Classified

/-!
What responses records are read off.

Allocating a container and asking for its record give a record exactly when a response arrives that
is no failure and whose document has the form of a record. Whatever else such a response holds, also
if it is empty or no document at all, is reported as invalid (`records_decoded`).
-/

namespace Stowage.Service

open Http (Request Response Answer Client)

variable {m : RemoteMethod} {request : Request} {answer : Answer} {response : Response}
  {document : Json} {result : m.Result}

/-- A method gives a result exactly when a response arrives that is no failure and whose document
has a form. If such a response has no such document, that is reported as an invalid response, which
another attempt would not mend. -/
structure Decoded (m : RemoteMethod) (form : Json → m.Result → Prop) (request : Request)
    (answer : Answer) (outcome : Except Failure m.Result) : Prop where
  given : ∀ result, outcome = .ok result ↔ ∃ response document, Arrives request answer response ∧
    ¬Refuses response ∧ Documents response document ∧ form document result
  invalid : ∀ response, Arrives request answer response → ¬Refuses response →
    (∀ document result, Documents response document → ¬form document result) →
    ∃ message detail, outcome = .error (.storage message m.operation detail) ∧
      detail.code = "INVALID_RESPONSE" ∧ detail.category = .dependency ∧ detail.retryable = false

/-- Forms that hold of the same documents are decoded alike. -/
theorem Decoded.congr {form other : Json → m.Result → Prop} {outcome : Except Failure m.Result}
    (h : Decoded m form request answer outcome)
    (hform : ∀ document result, form document result ↔ other document result) :
    Decoded m other request answer outcome := by
  have heq : form = other := by
    funext document result
    exact propext (hform document result)
  rwa [← heq]

/-- A response that is no failure is decoded. -/
theorem outcome_of_arrives (hprotocol : request.url.namesProtocol = true)
    (harrives : Arrives request answer response) (haccepts : ¬Refuses response) :
    m.outcome request answer =
      ((Client.documentOf request response).mapError (Http.Storage.explain m.operation) >>=
        m.decode) := by
  have hreceived := received_arrives hprotocol harrives
  rw [Bool.eq_false_iff.2 (mt refuses_iff.2 haccepts)] at hreceived
  unfold RemoteMethod.outcome Client.documentFrom
  rw [hreceived]
  rfl

/-- A method gives what the document of the response holds. -/
theorem decoded_outcome (hprotocol : request.url.namesProtocol = true) :
    Decoded m (Holds m) request answer (m.outcome request answer) where
  given result := by
    constructor
    · intro h
      have hanswer : ∀ words, answer ≠ .badUrl words := by
        rintro words rfl
        cases h
      rcases lost_or_strays_or_arrives request hanswer with ⟨words, hlost⟩ | ⟨f, hstrays⟩ |
        ⟨response, harrives⟩
      · have hreported := outcome_lost (m := m) hprotocol hlost
        rw [h] at hreported
        cases hreported with
        | given response document _ ha hr hd hh => exact ⟨response, document, ha, hr, hd, hh⟩
      · cases h.symm.trans (outcome_strays hprotocol hstrays)
      · have hreported := outcome_arrives (m := m) hprotocol harrives
        rw [h] at hreported
        cases hreported with
        | given response document _ ha hr hd hh => exact ⟨response, document, ha, hr, hd, hh⟩
    · rintro ⟨response, document, harrives, haccepts, hdocument, hholds⟩
      rw [outcome_of_arrives hprotocol harrives haccepts, documentOf_eq_ok.2 hdocument]
      exact decode_eq_ok_iff.2 hholds
  invalid response harrives haccepts hnone := by
    rw [outcome_of_arrives hprotocol harrives haccepts]
    cases hdocument : Client.documentOf request response with
    | error f =>
      obtain ⟨kind, rfl⟩ := documentOf_error hdocument
      exact ⟨_, _, rfl, rfl, rfl, rfl⟩
    | ok document =>
      cases hdecode : m.decode document with
      | ok result =>
        exact absurd (decode_eq_ok_iff.1 hdecode) (hnone _ _ (documentOf_eq_ok.1 hdocument))
      | error f =>
        obtain ⟨reason, rfl⟩ := decode_eq_error hdecode
        exact ⟨_, _, hdecode, rfl, rfl, rfl⟩

/-- **Records are decoded by the form of a record.** Let a container be allocated, or its record be
asked for, over an open connection, and let a request be made for that. Whatever answers it, a
record is given exactly when a response arrives that is no failure and whose document has the form
of that record. If such a response has none, because it is empty, or no document, or one of another
form, the call fails as a storage call with an invalid response. -/
theorem records_decoded {client : Client} {telemetry : List (Instrument.Concern World)}
    (ht : ∀ c ∈ telemetry, c.Discreet) {number : Nat} {s : Session World} (hopen : Open number s)
    (hs : Log.Writable s) :
    (∀ type factor owner request,
      (RemoteMethod.allocate type factor owner).Asks client number request →
      request.url.namesProtocol = true →
      Decoded (.allocate type factor owner) Json.RecordForm request s.world.network.next.1
        (((RemoteMethod.allocate type factor owner).run client telemetry).runFrom s).1) ∧
    ∀ containerId request, (RemoteMethod.getRecord containerId).Asks client number request →
      request.url.namesProtocol = true →
      Decoded (.getRecord containerId) Json.RecordForm request s.world.network.next.1
        (((RemoteMethod.getRecord containerId).run client telemetry).runFrom s).1 := by
  constructor
  · intro type factor owner request hrequest hprotocol
    rw [RemoteMethod.outcome_run ht hrequest hopen hs]
    exact (decoded_outcome hprotocol).congr fun _ _ => Json.describes_record_iff
  · intro containerId request hrequest hprotocol
    rw [RemoteMethod.outcome_run ht hrequest hopen hs]
    exact (decoded_outcome hprotocol).congr fun _ _ => Json.describes_record_iff

/-- The bytes of a document in which the number of the container is a truth value and all that may
be left out is. -/
def laxBody : List Nat := [
  123, 34, 99, 111, 110, 116, 97, 105, 110, 101, 114, 95, 105, 100, 34, 58, 32, 116, 114,
  117, 101, 44, 32, 34, 112, 105, 112, 101, 108, 105, 110, 101, 34, 58, 32, 123, 125, 125]

/-- The record of a container is asked for, and comes in a form that is converted. -/
theorem records_decoded_lax :
    let m : RemoteMethod := .getRecord 7
    let telemetry : List (Instrument.Concern World) := Instrument.telemetry 0 .silent .silent
    let s := respondingWith { status := 200, body := laxBody }
    let outcome := ((m.run placementClient telemetry).runFrom s).1
    let pipeline : Pipeline := ⟨none, [], "", .allocated, .standAlone, .one, .inl rfl⟩
    let record : ContainerRecord := ⟨1, pipeline, .allocated, 0, 0, 0, ""⟩
    (∀ c ∈ telemetry, c.Discreet) ∧ Open 0 s ∧ Log.Writable s ∧ outcome = .ok record ∧
      ∃ request, m.Asks placementClient 0 request ∧ request.url.namesProtocol = true ∧
        ∃ response document, Arrives request s.world.network.next.1 response ∧
          ¬Refuses response ∧ Documents response document ∧ document.RecordForm record := by
  intro m telemetry s outcome pipeline record
  have ht : ∀ c ∈ telemetry, c.Discreet := Instrument.discreet_telemetry_silent 0
  have hopen : Open 0 s := List.not_mem_nil
  have hs : Log.Writable s := .inr (List.forall_mem_nil _)
  have hgiven : outcome = .ok record := eq_ok_of_toOption (by decide +kernel)
  have hmade : ((m.ask >>= fun ask => placementClient.request 0 ask).toOption.map fun request =>
      request.url.namesProtocol) = some true := by decide +kernel
  obtain ⟨request, hrequest, hnames⟩ := Option.map_eq_some_iff.1 hmade
  have hasks : m.Asks placementClient 0 request := ⟨rfl, eq_ok_of_toOption hrequest⟩
  have hdecoded := (records_decoded ht hopen hs).2 7 request hasks hnames
  exact ⟨ht, hopen, hs, hgiven, request, hasks, hnames, (hdecoded.given record).1 hgiven⟩

end Stowage.Service
