import Stowage.Proofs.Container.Documents
import Stowage.Proofs.Json.Bounded
import Stowage.Proofs.Service.Confirmed
import Stowage.Proofs.Service.Remote

/-!
How the failures of remote calls are classified.

A request is lost (`Lost`), or a response to it arrives (`Arrives`), or the response sends on to a
location that cannot be completed (`Strays`). What a method has to end with in the first two cases
is said by `Reported`: a result that the document of the response holds, or a failure of a storage
call with the detail that `Classified` gives. `reported_iff` says that every method does so, unless
the response strays.
-/

namespace Stowage

open Http (Request Response Answer Client Url Headers)

namespace Service

/-! ## What becomes of a request -/

/-- A response sends on to a location. -/
def SendsOn (packed : Response) (location : String) : Prop :=
  packed.isRedirect = true ∧ Headers.get? packed.headers "Location" = some location

/-- Whichever location a response sends on to, it is a URL, and can be completed by the host, by the
place and by the fragment that were asked for. -/
def Leads (request : Request) (packed : Response) : Prop :=
  ∀ location, SendsOn packed location → ∃ url next, Url.parse location = .ok url ∧
    request.url.onward url = .ok next

/-- No response to a request is got hold of, and these are the words of the transport: there is
none, it sends on to something that is no URL, or its body cannot be unpacked. -/
inductive Lost (request : Request) : Answer → String → Prop
  | unanswered (kind message : String) : Lost request (.unanswered kind message) message
  | misdirected (packed : Response) (location : String) (f : Failure) : SendsOn packed location →
    Url.parse location = .error f →
    Lost request (.response packed) ("Invalid URL in location header: " ++ f.words ++ ".")
  | packed (packed : Response) (fault : Deflate.Fault) : Leads request packed →
    packed.unpacked = .error fault → Lost request (.response packed) fault.message

/-- The response to a request sends on to a URL that cannot be completed: it has a protocol but no
host and cannot take the one of the request, or what it means beside the URL of the request is no
URL, or it cannot take the fragment. -/
def Strays (request : Request) (answer : Answer) (f : Failure) : Prop :=
  ∃ packed location url, answer = .response packed ∧ SendsOn packed location ∧
    Url.parse location = .ok url ∧ request.url.onward url = .error f

/-- A response to a request arrives: it sends on to nowhere or to a URL, and its body can be
unpacked. -/
def Arrives (request : Request) (answer : Answer) (response : Response) : Prop :=
  ∃ packed, answer = .response packed ∧ Leads request packed ∧ packed.unpacked = .ok response

/-- A response is refused with words of its own: its body is an object whose `error` is an object
with a message that counts as true. -/
def Enveloped (response : Response) (members : List (String × Json)) (message : Json) : Prop :=
  ∃ fields, Http.Body.json response.body = .ok (.object fields) ∧
    fields.lookup "error" = some (.object members) ∧
      members.lookup "message" = some message ∧ message.toValue.isTrue = true

/-- The document of a response; that of an empty body is null. -/
def Documents (response : Response) (document : Json) : Prop :=
  response.body = [] ∧ document = .null ∨
    response.body ≠ [] ∧ Http.Body.json response.body = .ok document

/-- The status of a response is that of a failure. -/
def Refuses (response : Response) : Prop := 400 ≤ response.status ∧ response.status ≤ 599

/-! ## What is reported -/

/-- What every detail says about a request. -/
def requestLabels (request : Request) : Labels :=
  .ofList [("method", request.method), ("url", request.url.text)]

/-- The status of a response to a request, in words. -/
def statusWords (request : Request) (response : Response) : String :=
  "HTTP " ++ Decimal.integerText response.status ++ " for " ++ request.method ++ " " ++
    request.url.text

/-- The detail that a response carries in its envelope. -/
def envelopedDetail (request : Request) (members : List (String × Json)) (message : Json) :
    ErrorDetail where
  code := match members.lookup "code" with
    | some code => if code.toValue.isTrue then code.toValue.display else "DEPENDENCY_FAILURE"
    | none => "DEPENDENCY_FAILURE"
  message := message.toValue.display
  category := match members.lookup "category" with
    | some category => ErrorCategory.parse category.toValue.display
    | none => .dependency
  retryable := match members.lookup "retryable" with
    | some retryable => retryable.toValue.isTrue
    | none => false
  metadata := requestLabels request

/-- The detail of a request that failed. -/
inductive Classified (request : Request) (answer : Answer) : ErrorDetail → Prop
  | unavailable (words : String) : Lost request answer words →
    Classified request answer {
      code := "DEPENDENCY_UNAVAILABLE"
      message := "HTTP request failed for " ++ request.method ++ " " ++ request.url.text ++ ": " ++
        words
      category := .dependency
      retryable := true
      metadata := requestLabels request }
  | enveloped (response : Response) (members : List (String × Json)) (message : Json) :
    Arrives request answer response → Refuses response → Enveloped response members message →
    Classified request answer (envelopedDetail request members message)
  | notFound (response : Response) : Arrives request answer response → response.status = 404 →
    (∀ members message, ¬ Enveloped response members message) →
    Classified request answer {
      code := "NOT_FOUND"
      message := statusWords request response
      category := .notFound
      retryable := false
      metadata := (requestLabels request).insert "status_code" "404" }
  | refused (response : Response) : Arrives request answer response → Refuses response →
    response.status ≠ 404 → (∀ members message, ¬ Enveloped response members message) →
    Classified request answer {
      code := "DEPENDENCY_FAILURE"
      message := statusWords request response
      category := .dependency
      retryable := 500 ≤ response.status || response.status = 429
      metadata := (requestLabels request).insert "status_code"
        (Decimal.integerText response.status) }
  | unreadable (response : Response) : Arrives request answer response → ¬ Refuses response →
    (∀ document, ¬ Documents response document) →
    Classified request answer {
      code := "INVALID_RESPONSE"
      message := "Invalid JSON response for " ++ request.method ++ " " ++ request.url.text
      category := .dependency
      retryable := false
      metadata := requestLabels request }

/-- A document holds what a method gives. -/
def Holds : (m : RemoteMethod) → Json → m.Result → Prop
  | .allocate .., j, record | .getRecord .., j, record => j.Describes record
  | .listRecords .., j, records => ∃ items, HttpFailure.member? "containers" j = some (.list items) ∧
    List.Forall₂ Json.Describes items records
  | .queryNodes .., j, nodes => j.Describes nodes
  | .replicate .., j, pipeline => j.Describes pipeline
  | .readData .., j, data => ∃ found, HttpFailure.member? "container_data" j = some found ∧
    found.Describes data
  | .notify .., _, _ | .deleteRecord .., _, _ | .createData .., _, _ | .deleteData .., _, _
  | .closeData .., _, _ | .createPipeline .., _, _ => True

/-- The failure of a method whose answer does not hold what the method gives. -/
def unfit (m : RemoteMethod) (reason : String) : Failure :=
  let message := m.operation ++ " failed: invalid " ++ m.side ++ " response: " ++ reason
  .storage message m.operation {
    code := "INVALID_RESPONSE"
    message
    category := .dependency
    retryable := false }

/-- What a method has to end with. -/
inductive Reported (m : RemoteMethod) (request : Request) (answer : Answer) :
    Except Failure m.Result → Prop
  | failed (detail : ErrorDetail) : Classified request answer detail →
    Reported m request answer
      (.error (.storage (m.operation ++ " failed: " ++ detail.message) m.operation detail))
  | unfit (response : Response) (document : Json) (reason : String) :
    Arrives request answer response → ¬ Refuses response → Documents response document →
    (∀ result, ¬ Holds m document result) → Reported m request answer (.error (unfit m reason))
  | given (response : Response) (document : Json) (result : m.Result) :
    Arrives request answer response → ¬ Refuses response → Documents response document →
    Holds m document result → Reported m request answer (.ok result)

/-! ## Cases of an answer -/

section Cases

variable {request : Request} {answer : Answer} {response : Response}

theorem refuses_iff : Refuses response ↔ response.isError = true := by
  simp [Refuses, Response.isError]

/-- Whatever answers a request, it is lost, or strays, or a response arrives. -/
theorem lost_or_strays_or_arrives (request : Request) (hanswer : ∀ words, answer ≠ .badUrl words) :
    (∃ words, Lost request answer words) ∨ (∃ f, Strays request answer f) ∨
      ∃ response, Arrives request answer response := by
  cases answer with
  | unanswered kind message => exact .inl ⟨message, .unanswered kind message⟩
  | badUrl words => exact absurd rfl (hanswer words)
  | response packed =>
    by_cases hleads : Leads request packed
    · cases hunpacked : packed.unpacked with
      | error fault => exact .inl ⟨_, .packed packed fault hleads hunpacked⟩
      | ok response => exact .inr (.inr ⟨response, packed, rfl, hleads, hunpacked⟩)
    · unfold Leads at hleads
      push Not at hleads
      obtain ⟨location, hsends, hnone⟩ := hleads
      cases hparse : Url.parse location with
      | error f => exact .inl ⟨_, .misdirected packed location f hsends hparse⟩
      | ok url =>
        cases honward : request.url.onward url with
        | error f => exact .inr (.inl ⟨f, packed, location, url, rfl, hsends, hparse, honward⟩)
        | ok next => exact absurd honward (hnone url next hparse)

/-- What strays fails for a URL. -/
theorem Strays.badUrl {f : Failure} (h : Strays request answer f) : ∃ words, f = .badUrl words := by
  obtain ⟨_, _, _, _, _, _, honward⟩ := h
  exact Url.onward_error honward

theorem unpacked_ok {packed : Response} (h : packed.unpacked = .ok response) :
    Client.unpacked request packed = .ok response := by
  unfold Client.unpacked
  rw [h]

variable (hprotocol : request.url.namesProtocol = true) {packed : Response}

include hprotocol

/-- What follows from a response is found out where it sends on to. -/
theorem aftermath_of_sendsOn {location : String} (h : SendsOn packed location) :
    Client.aftermath request packed = (Client.follow request location).map fun _ => () := by
  unfold Client.aftermath
  simp only [hprotocol, h.1, h.2, Bool.not_true, Bool.false_eq_true, if_false, if_true]

theorem aftermath_of_leads (h : Leads request packed) :
    Client.aftermath request packed = .ok () := by
  by_cases hsends : ∃ location, SendsOn packed location
  · obtain ⟨location, hsends⟩ := hsends
    obtain ⟨url, next, hparse, honward⟩ := h location hsends
    rw [aftermath_of_sendsOn hprotocol hsends]
    unfold Client.follow
    simp only [hparse, honward]
    rfl
  · unfold Client.aftermath
    rw [hprotocol]
    by_cases hredirect : packed.isRedirect = true
    · cases hlocation : Headers.get? packed.headers "Location" with
      | none =>
        simp only [hredirect]
        rfl
      | some location => exact absurd ⟨location, hredirect, hlocation⟩ hsends
    · simp only [hredirect]
      rfl

theorem received_lost {words : String} (h : Lost request answer words) :
    ∃ kind, Client.received request answer =
      .error (Client.unanswered request.method request.url.text kind words) := by
  cases h with
  | unanswered kind => exact ⟨kind, rfl⟩
  | misdirected packed location f hsends hparse =>
    refine ⟨"RemoteProtocolError", ?_⟩
    have hfollow : Client.follow request location = .error (Client.unanswered request.method
        request.url.text "RemoteProtocolError"
        ("Invalid URL in location header: " ++ f.words ++ ".")) := by
      unfold Client.follow
      rw [hparse]
    simp only [Client.received, aftermath_of_sendsOn hprotocol hsends, hfollow, Except.map, bind,
      Except.bind]
  | packed packed fault hleads hunpacked =>
    refine ⟨"DecodingError", ?_⟩
    simp only [Client.received, aftermath_of_leads hprotocol hleads, Client.unpacked, hunpacked,
      bind, Except.bind]

theorem received_strays {f : Failure} (h : Strays request answer f) :
    Client.received request answer = .error f := by
  obtain ⟨packed, location, url, rfl, hsends, hparse, honward⟩ := h
  have hfollow : Client.follow request location = .error f := by
    unfold Client.follow
    rw [hparse]
    exact honward
  simp only [Client.received, aftermath_of_sendsOn hprotocol hsends, hfollow, Except.map, bind,
    Except.bind]

theorem received_arrives (h : Arrives request answer response) :
    Client.received request answer = if response.isError then
      .error (.http (response.statusFailure request.method request.url.text))
    else .ok response := by
  obtain ⟨packed, rfl, hleads, hunpacked⟩ := h
  simp only [Client.received, aftermath_of_leads hprotocol hleads, unpacked_ok hunpacked, bind,
    Except.bind]

end Cases

/-! ## Details -/

section Details

variable {request : Request} {answer : Answer} {response : Response} {m : RemoteMethod}

theorem isOverlong_json {body : List Nat} {j : Json} (h : Http.Body.json body = .ok j) :
    j.isOverlong = false := by
  unfold Http.Body.json at h
  split at h
  · cases h
  · split at h
    · rename_i hread
      cases h
      exact Json.isOverlong_readList hread
    · cases h

/-- The envelope of a response, as it is found. -/
theorem envelope?_eq_some {members : List (String × Json)} :
    HttpFailure.envelope? response.document = some members ↔
      ∃ message, Enveloped response members message := by
  unfold HttpFailure.envelope? Response.document Enveloped
  constructor
  · intro h
    split at h
    · rename_i found herror
      split at h
      · rename_i message hmessage
        split at h
        · rename_i htrue
          cases h
          cases hbody : Http.Body.json response.body with
          | error fault =>
            rw [hbody] at herror
            cases herror
          | ok body =>
            rw [hbody] at herror
            cases body with
            | object fields => exact ⟨message, fields, rfl, herror, hmessage, htrue⟩
            | _ => cases herror
        · cases h
      · cases h
    · cases h
  · rintro ⟨message, fields, hbody, herror, hmessage, htrue⟩
    rw [hbody]
    simp only [HttpFailure.member?, herror, hmessage, htrue, if_true]

/-- What a response says of its failure can always be written. -/
theorem isUnwritable_statusFailure (response : Response) (method url : String) :
    (response.statusFailure method url).isUnwritable = false := by
  unfold HttpFailure.isUnwritable Response.statusFailure
  dsimp only
  cases henvelope : HttpFailure.envelope? response.document with
  | none => rfl
  | some members =>
    obtain ⟨message, fields, hbody, herror, -⟩ := envelope?_eq_some.1 henvelope
    have hfields : Json.anyMemberOverlong fields = false := isOverlong_json hbody
    have hmembers : Json.anyMemberOverlong members = false :=
      Json.isOverlong_of_lookup hfields herror
    change HttpFailure.isOverlong members = false
    unfold HttpFailure.isOverlong
    rw [List.any_eq_false]
    intro key _
    cases hlookup : members.lookup key with
    | none => simp
    | some j => simp [Json.isOverlong_of_lookup hmembers hlookup]

theorem envelopeDetail_eq {members : List (String × Json)} {message : Json}
    (h : Enveloped response members message) :
    HttpFailure.envelopeDetail members (requestLabels request) =
      envelopedDetail request members message := by
  obtain ⟨_, -, -, hmessage, htrue⟩ := h
  have hwords : (HttpFailure.wordOf? members "message").getD "" = message.toValue.display := by
    unfold HttpFailure.wordOf?
    simp only [hmessage, htrue, if_true, Option.getD_some]
  have hcode : (HttpFailure.wordOf? members "code").getD ErrorDetail.dependencyFailure =
      match members.lookup "code" with
      | some code => if code.toValue.isTrue then code.toValue.display else "DEPENDENCY_FAILURE"
      | none => "DEPENDENCY_FAILURE" := by
    unfold HttpFailure.wordOf?
    cases members.lookup "code" with
    | none => rfl
    | some code =>
      cases htruth : code.toValue.isTrue <;> simp [htruth, ErrorDetail.dependencyFailure]
  exact (ErrorDetail.mk.injEq ..).mpr ⟨hcode, hwords, rfl, rfl, rfl⟩

/-- The detail of a failure that the status of a response tells. -/
theorem classified_status (harrives : Arrives request answer response)
    (hrefuses : Refuses response) : Classified request answer
      (response.statusFailure request.method request.url.text).detail := by
  unfold HttpFailure.detail Response.statusFailure
  dsimp only
  cases henvelope : HttpFailure.envelope? response.document with
  | some members =>
    obtain ⟨message, hmessage⟩ := envelope?_eq_some.1 henvelope
    have hdetail := @envelopeDetail_eq request _ _ _ hmessage
    unfold requestLabels at hdetail
    dsimp only
    rw [hdetail]
    exact .enveloped response members message harrives hrefuses hmessage
  | none =>
    have hnone : ∀ members message, ¬ Enveloped response members message := by
      intro members message h
      cases henvelope.symm.trans (envelope?_eq_some.2 ⟨message, h⟩)
    by_cases hmissing : response.status = 404
    · have hstatus : Decimal.integerText 404 = "404" := by decide +kernel
      have hclassified := Classified.notFound response harrives hmissing hnone
      unfold statusWords at hclassified
      rw [hmissing, hstatus] at hclassified
      simp only [hmissing, if_true, hstatus]
      exact hclassified
    · simp only [hmissing, if_false]
      exact .refused response harrives hrefuses hmissing hnone

/-! ## Results -/

theorem decode_eq_ok {α : Type} [Model α] {side operation : String} {j : Json} {a : α} :
    Http.Storage.decode α side operation j = .ok a ↔ j.Describes a := by
  unfold Http.Storage.decode Json.Describes
  cases (Model.check j.toValue : Checked α) <;> simp

theorem decode_error {α : Type} [Model α] {side operation : String} {j : Json} {f : Failure}
    (h : Http.Storage.decode α side operation j = .error f) :
    ∃ reason, f = Http.Storage.invalidResponse side operation reason := by
  unfold Http.Storage.decode at h
  cases hc : (Model.check j.toValue : Checked α) with
  | fits a =>
    rw [hc] at h
    cases h
  | faulty issues =>
    rw [hc] at h
    cases h
    exact ⟨_, rfl⟩

theorem mapM_decode_eq_ok {α : Type} [Model α] {side operation : String} {items : List Json}
    {as : List α} : items.mapM (Http.Storage.decode α side operation) = .ok as ↔
      List.Forall₂ Json.Describes items as := by
  induction items generalizing as with
  | nil =>
    rw [List.forall₂_nil_left_iff]
    exact ⟨fun h => (Except.ok.inj h).symm, fun h => congrArg Except.ok h.symm⟩
  | cons j r ih =>
    rw [List.mapM_cons, bind_eq_ok, List.forall₂_cons_left_iff]
    constructor
    · rintro ⟨a, ha, h⟩
      obtain ⟨rest, hrest, h⟩ := bind_eq_ok.1 h
      exact ⟨a, rest, decode_eq_ok.1 ha, ih.1 hrest, (Except.ok.inj h).symm⟩
    · rintro ⟨a, rest, ha, hrest, rfl⟩
      exact ⟨a, decode_eq_ok.2 ha, bind_eq_ok.2 ⟨rest, ih.2 hrest, rfl⟩⟩

theorem recordsOf_eq_ok {j : Json} {records : List ContainerRecord} :
    Placement.recordsOf j = .ok records ↔ ∃ items,
      HttpFailure.member? "containers" j = some (.list items) ∧
        List.Forall₂ Json.Describes items records := by
  unfold Placement.recordsOf
  split
  · rename_i items hitems
    rw [mapM_decode_eq_ok]
    constructor
    · exact fun h => ⟨items, hitems, h⟩
    · rintro ⟨other, hother, h⟩
      cases hitems.symm.trans hother
      exact h
  · rename_i hnone
    refine ⟨fun h => (by cases h), ?_⟩
    rintro ⟨items, hitems, -⟩
    exact absurd hitems (hnone items)

theorem recordsOf_error {j : Json} {f : Failure} (h : Placement.recordsOf j = .error f) :
    ∃ reason, f = Http.Storage.invalidResponse "placement" "list_container" reason := by
  unfold Placement.recordsOf at h
  split at h
  · exact mapM_error (fun _ _ => decode_error) h
  · cases h
    exact ⟨_, rfl⟩

theorem dataOf_eq_ok {j : Json} {data : ContainerData} :
    Datanode.dataOf j = .ok data ↔ ∃ found,
      HttpFailure.member? "container_data" j = some found ∧ found.Describes data := by
  unfold Datanode.dataOf
  cases HttpFailure.member? "container_data" j with
  | none =>
    refine ⟨fun h => (by cases h), ?_⟩
    rintro ⟨found, hfound, -⟩
    cases hfound
  | some found =>
    rw [decode_eq_ok]
    constructor
    · exact fun h => ⟨found, rfl, h⟩
    · rintro ⟨other, hother, h⟩
      cases hother
      exact h

theorem dataOf_error {j : Json} {f : Failure} (h : Datanode.dataOf j = .error f) :
    ∃ reason, f = Http.Storage.invalidResponse "datanode" "read_container" reason := by
  unfold Datanode.dataOf at h
  split at h
  · exact decode_error h
  · cases h
    exact ⟨_, rfl⟩

/-- A method gives what the document holds. -/
theorem decode_eq_ok_iff {document : Json} {result : m.Result} :
    m.decode document = .ok result ↔ Holds m document result := by
  cases m with
  | allocate | getRecord | queryNodes | replicate => exact decode_eq_ok
  | listRecords => exact recordsOf_eq_ok
  | readData => exact dataOf_eq_ok
  | notify | deleteRecord | createData | deleteData | closeData | createPipeline =>
    exact ⟨fun _ => trivial, fun _ => rfl⟩

theorem decode_eq_error {document : Json} {f : Failure} (h : m.decode document = .error f) :
    ∃ reason, f = unfit m reason := by
  cases m with
  | allocate | getRecord | queryNodes | replicate => exact decode_error h
  | listRecords => exact recordsOf_error h
  | readData => exact dataOf_error h
  | notify | deleteRecord | createData | deleteData | closeData | createPipeline => cases h

theorem documentOf_eq_ok {document : Json} :
    Client.documentOf request response = .ok document ↔ Documents response document := by
  unfold Client.documentOf Documents
  cases hbody : response.body with
  | nil => simp [eq_comm]
  | cons byte r => cases Http.Body.json (byte :: r) <;> simp

/-- What is answered with no document is reported as such. -/
theorem documentOf_error {f : Failure} (h : Client.documentOf request response = .error f) :
    ∃ kind, f = .http {
      message := "Invalid JSON response for " ++ request.method ++ " " ++ request.url.text
      method := request.method
      url := request.url.text
      retryable := false
      fault := .body response.status response.shownText kind } := by
  unfold Client.documentOf at h
  split at h
  · cases h
  · split at h
    · cases h
    · cases h
      exact ⟨_, rfl⟩

end Details

/-! ## Every method -/

section Methods

variable {m : RemoteMethod} {request : Request} {answer : Answer}
  (hprotocol : request.url.namesProtocol = true)

include hprotocol

theorem outcome_lost {words : String} (h : Lost request answer words) :
    Reported m request answer (m.outcome request answer) := by
  obtain ⟨kind, hreceived⟩ := received_lost hprotocol h
  unfold RemoteMethod.outcome Client.documentFrom
  rw [hreceived]
  exact .failed _ (.unavailable words h)

theorem outcome_strays {f : Failure} (h : Strays request answer f) :
    m.outcome request answer = .error f := by
  obtain ⟨words, rfl⟩ := h.badUrl
  unfold RemoteMethod.outcome Client.documentFrom
  rw [received_strays hprotocol h]
  rfl

theorem outcome_arrives {response : Response} (h : Arrives request answer response) :
    Reported m request answer (m.outcome request answer) := by
  have hreceived := received_arrives hprotocol h
  unfold RemoteMethod.outcome Client.documentFrom
  by_cases hrefuses : Refuses response
  · rw [refuses_iff.1 hrefuses, if_pos rfl] at hreceived
    rw [hreceived]
    change Reported m request answer (.error (HttpFailure.toStorage _ _))
    unfold HttpFailure.toStorage
    rw [isUnwritable_statusFailure]
    exact .failed _ (classified_status h hrefuses)
  · rw [Bool.eq_false_iff.2 (mt refuses_iff.2 hrefuses)] at hreceived
    rw [hreceived]
    cases hdocument : Client.documentOf request response with
    | error f =>
      have hnone : ∀ document, ¬ Documents response document := by
        intro document hd
        cases hdocument.symm.trans (documentOf_eq_ok.2 hd)
      obtain ⟨kind, rfl⟩ := documentOf_error hdocument
      simp only [Bool.false_eq_true, if_false, bind, Except.bind, hdocument]
      exact .failed _ (.unreadable response h hrefuses hnone)
    | ok document =>
      have hd := documentOf_eq_ok.1 hdocument
      simp only [Bool.false_eq_true, if_false, bind, Except.bind, hdocument, Except.mapError]
      cases hdecode : m.decode document with
      | ok result =>
        exact .given response document result h hrefuses hd (decode_eq_ok_iff.1 hdecode)
      | error f =>
        obtain ⟨reason, rfl⟩ := decode_eq_error hdecode
        refine .unfit response document reason h hrefuses hd fun result hholds => ?_
        cases hdecode.symm.trans (decode_eq_ok_iff.2 hholds)

/-- A method ends as it has to, unless the response strays. -/
theorem reported_outcome_iff (hanswer : ∀ words, answer ≠ .badUrl words) :
    Reported m request answer (m.outcome request answer) ↔ ∀ f, ¬ Strays request answer f := by
  constructor
  · intro h f hstrays
    obtain ⟨words, rfl⟩ := hstrays.badUrl
    rw [outcome_strays hprotocol hstrays] at h
    cases h
  · intro hno
    rcases lost_or_strays_or_arrives request hanswer with ⟨words, h⟩ | ⟨f, h⟩ | ⟨response, h⟩
    · exact outcome_lost hprotocol h
    · exact absurd h (hno f)
    · exact outcome_arrives hprotocol h

end Methods

/-- Every failure that is reported is one of a storage call of the method, and says so in front. -/
theorem Reported.error {m : RemoteMethod} {request : Request} {answer : Answer} {f : Failure}
    (h : Reported m request answer (.error f)) : ∃ words detail,
      f = .storage (m.operation ++ " failed: " ++ words) m.operation detail := by
  cases h with
  | failed detail => exact ⟨_, detail, rfl⟩
  | unfit response document reason =>
    have hwords : m.operation ++ " failed: invalid " ++ m.side ++ " response: " ++ reason =
        m.operation ++ " failed: " ++ ("invalid " ++ m.side ++ " response: " ++ reason) := by
      have hcut : " failed: invalid " = " failed: " ++ "invalid " := rfl
      rw [hcut]
      simp only [String.append_assoc]
    unfold Service.unfit
    rw [hwords]
    exact ⟨_, _, rfl⟩

/-- **How remote calls fail.** Let a method of an adapter be called over an open connection. If a
request can be made of its arguments then, whatever answers it, the method gives a result that the
document of the response holds, or fails as a storage call of its name with the detail of the answer,
unless the response sends on to a URL that cannot be completed. In that case, and if no request can
be made, the method fails for a URL or for want of text, which is no failure of a storage call. -/
theorem reported_iff {m : RemoteMethod} {client : Client}
    {telemetry : List (Instrument.Concern World)} (ht : ∀ c ∈ telemetry, c.Discreet) {number : Nat}
    {s : Session World} (hcarrier : client.carrier = .connection number)
    (hprotocol : ∀ request, m.Asks client number request → request.url.namesProtocol = true)
    (hopen : Open number s) (hs : Log.Writable s)
    (hanswer : ∀ words, s.world.network.next.1 ≠ .badUrl words) :
    let answer := s.world.network.next.1
    let outcome := ((m.run client telemetry).runFrom s).1
    (∀ request, m.Asks client number request →
      (Reported m request answer outcome ↔ ∀ f, ¬ Strays request answer f) ∧
      (∀ f, Strays request answer f → outcome = .error f ∧ Unmade f ∧ f.isStorage = false) ∧
      (Reported m request answer outcome → ∀ f, outcome = .error f → ∃ words detail,
        f = .storage (m.operation ++ " failed: " ++ words) m.operation detail)) ∧
    ((∀ request, ¬ m.Asks client number request) →
      ∃ f, outcome = .error f ∧ Unmade f ∧ f.isStorage = false) := by
  intro answer outcome
  refine ⟨fun request hrequest => ?_, fun hunmade => ?_⟩
  · have houtcome : outcome = m.outcome request answer :=
      RemoteMethod.outcome_run ht hrequest hopen hs
    have hp := hprotocol request hrequest
    rw [houtcome]
    refine ⟨reported_outcome_iff hp hanswer, fun f hstrays => ?_, fun h f hf => ?_⟩
    · have hf := outcome_strays (m := m) hp hstrays
      obtain ⟨words, rfl⟩ := hstrays.badUrl
      exact ⟨hf, .badUrl words, rfl⟩
    · rw [hf] at h
      exact h.error
  · obtain ⟨f, hf, hunmade⟩ := RemoteMethod.outcome_run_unmade ht hcarrier hunmade hs
    exact ⟨f, hf, hunmade, hunmade.isStorage⟩

/-- A session in which one connection is open, and the network answers with a response. -/
def respondingWith (response : Response) : Session World where
  world := { network := { answers := [.response response], opened := 1 }, traceOf := fun _ => "t" }

/-- The record of a container is asked for, and there is none. -/
theorem reported_iff_notFound :
    let m : RemoteMethod := .getRecord 7
    let telemetry : List (Instrument.Concern World) := Instrument.telemetry 0 .silent .silent
    let s := respondingWith { status := 404 }
    let outcome := ((m.run placementClient telemetry).runFrom s).1
    (∀ c ∈ telemetry, c.Discreet) ∧
      (∀ request, m.Asks placementClient 0 request → request.url.namesProtocol = true) ∧
      Open 0 s ∧ Log.Writable s ∧ (∀ words, s.world.network.next.1 ≠ .badUrl words) ∧
      ∃ request, m.Asks placementClient 0 request ∧
        (Reported m request s.world.network.next.1 outcome ↔
          ∀ f, ¬ Strays request s.world.network.next.1 f) := by
  intro m telemetry s outcome
  have ht : ∀ c ∈ telemetry, c.Discreet := Instrument.discreet_telemetry_silent 0
  have hopen : Open 0 s := List.not_mem_nil
  have hs : Log.Writable s := .inr (List.forall_mem_nil _)
  have hanswer : ∀ words, s.world.network.next.1 ≠ .badUrl words := fun _ h => by cases h
  have hmade : ((m.ask >>= fun ask => placementClient.request 0 ask).toOption.map fun request =>
      request.url.namesProtocol) = some true := by decide +kernel
  obtain ⟨request, hrequest, hnames⟩ := Option.map_eq_some_iff.1 hmade
  have hasks : m.Asks placementClient 0 request := ⟨rfl, eq_ok_of_toOption hrequest⟩
  have hprotocol : ∀ request, m.Asks placementClient 0 request →
      request.url.namesProtocol = true := by
    intro other hother
    rw [← Except.ok.inj (hasks.2.symm.trans hother.2)]
    exact hnames
  exact ⟨ht, hprotocol, hopen, hs, hanswer, request, hasks,
    ((reported_iff ht rfl hprotocol hopen hs hanswer).1 request hasks).1⟩

/-- Whether something has failed for a URL that is none. -/
def failsForUrl {α : Type} (outcome : Except Failure α) : Bool :=
  match outcome with
  | .error (.badUrl _) => true
  | _ => false

theorem exists_of_failsForUrl {α : Type} {outcome : Except Failure α}
    (h : failsForUrl outcome = true) : ∃ words, outcome = .error (.badUrl words) := by
  unfold failsForUrl at h
  split at h
  · exact ⟨_, rfl⟩
  · cases h

/-- The record of a container is asked for, and the response sends on to a mail address: that is
neither a record nor a failure of a storage call. -/
theorem not_reported_mail :
    let m : RemoteMethod := .getRecord 7
    let s := respondingWith { status := 302, headers := [("Location", "mailto:a@b")] }
    let outcome := ((m.run placementClient (Instrument.telemetry 0 .silent .silent)).runFrom s).1
    (∃ words, outcome = .error (.badUrl words)) ∧ (∀ record, outcome ≠ .ok record) ∧
      ∀ message operation detail, outcome ≠ .error (.storage message operation detail) := by
  intro m s outcome
  obtain ⟨words, hwords⟩ := exists_of_failsForUrl
    (by decide +kernel : failsForUrl outcome = true)
  rw [hwords]
  exact ⟨⟨words, rfl⟩, fun _ h => (by cases h), fun _ _ _ h => (by cases h)⟩

end Service

end Stowage
