import Stowage.Proofs.Service.Shape

/-!
Errands: the requests that an operation has to make, in order.

An errand says who is asked, with which method, at which place, and what goes along; a request may
be the one that an errand means (`Errand.IsRequest`). What is sent on a list of errands is
`Carried`: requests for the errands in their order, the next one only after an answer that is let
pass, and all of them if this ends well. The rules follow the ways in which flows are put together,
and there is one statement for each step that container operations are made of.
-/

namespace Stowage

open Http (Request Client Ask Url)

/-! ## Errands -/

/-- Who is asked: the placement service, or the node that requests to a pipeline go to. -/
inductive Recipient where
  | placement
  | node (pipeline : Pipeline)

/-- Where settings say that someone is. -/
def Recipient.address (placement : PlacementSettings) (nodes : DatanodeSettings) :
    Recipient → Except Failure String
  | .placement => .ok placement.baseUrl
  | .node pipeline => Pool.targetUrl nodes pipeline

/-- A request to be made. `traced` says that it carries a trace identifier. -/
structure Errand where
  recipient : Recipient
  method : String
  place : String
  query : Http.Query := []
  body : Option Json := none
  traced : Bool := false

namespace Errand

/-- The URL of an errand, from that of its place. -/
def queried (e : Errand) (url : Url) : Except Failure Url :=
  if e.query.isEmpty then .ok url else url.withQuery (some e.query.text)

/-- The request is the one that an errand means, with recipients at their addresses. -/
structure IsRequest (e : Errand) (address : Recipient → Except Failure String) (r : Request) :
    Prop where
  method : r.method = e.method
  url : ∃ text base place, address e.recipient = .ok text ∧
    (Url.parse text).bind Url.asBase = .ok base ∧ base.resolve e.place = .ok place ∧
      e.queried place = .ok r.url
  body : r.body = e.body
  traced : r.trace?.isSome = e.traced

/-- The place of a container, or one below it. -/
def container (containerId : Int) (rest : String) : String :=
  "/containers/" ++ Decimal.integerText containerId ++ rest

def allocate (type : ReplicationType) (factor : ReplicationFactor) (owner : String) : Errand where
  recipient := .placement
  method := "POST"
  place := "/containers"
  body := some (.object [
    ("replication_type", .text (Vocabulary.value type)),
    ("replication_factor", .text (Vocabulary.value factor)),
    ("owner", .text owner)])

def getRecord (containerId : Int) : Errand where
  recipient := .placement
  method := "GET"
  place := container containerId ""

def deleteRecord (containerId : Int) : Errand where
  recipient := .placement
  method := "DELETE"
  place := container containerId ""

def listRecords (start count : Int) : Errand where
  recipient := .placement
  method := "GET"
  place := "/containers"
  query := [("start", [Decimal.integerText start]), ("count", [Decimal.integerText count])]

/-- Report a stage of an operation on a container. -/
def report (containerId : Int) (operation : StageOperation) (phase : StagePhase) : Errand where
  recipient := .placement
  method := "POST"
  place := "/stage-changes"
  body := some (.object [
    ("subject", .text (Vocabulary.value StageSubject.container)),
    ("subject_id", .text (Decimal.integerText containerId)),
    ("operation", .text (Vocabulary.value operation)),
    ("phase", .text (Vocabulary.value phase))])

/-- Make a pipeline real. -/
def createPipeline (pipeline : Pipeline) : Errand where
  recipient := .node pipeline
  method := "POST"
  place := "/pipelines"
  body := some (.object [
    ("pipeline_name", .text (pipeline.name.getD "")),
    ("members", .list (pipeline.members.map .text))])

/-- Something about the data of a container, asked of the node that leads a pipeline. -/
def data (pipeline : Pipeline) (method rest : String) (containerId : Int) : Errand where
  recipient := .node pipeline
  method := method
  place := container containerId rest
  traced := true

def deleteData (pipeline : Pipeline) (containerId : Int) (force : Bool) : Errand :=
  { data pipeline "DELETE" "" containerId with
    query := [("force", [if force then "true" else "false"])] }

/-! ### Lists of them -/

/-- Make sure that a pipeline is real. -/
def preparation (pipeline : Pipeline) : List Errand :=
  if pipeline.state = .allocated then [createPipeline pipeline] else []

/-- Something about the data of a container between the reports of its beginning and of its end. -/
def reported (containerId : Int) (operation : StageOperation) (e : Errand) : List Errand :=
  [report containerId operation .begun, e, report containerId operation .complete]

end Errand

namespace Service

variable {address : Recipient → Except Failure String} {client : Client}

/-! ## Asking -/

/-- The client reaches a recipient at its address. -/
structure Serves (client : Client) (address : Recipient → Except Failure String)
    (recipient : Recipient) : Prop where
  headers : client.headers = Placement.jsonHeaders
  base : ∃ text, address recipient = .ok text ∧
    (Url.parse text).bind Url.asBase = .ok client.base

/-- What is asked of a client is an errand. -/
structure Asks (ask : Ask) (e : Errand) : Prop where
  method : Text.upper ask.method = e.method
  url : ask.url = e.place
  query : ∀ place url, Client.withQuery place ask.query = .ok url → e.queried place = .ok url
  body : Client.bodyOf ask.document = .ok e.body
  headers : ask.headers = .null
  traced : ask.trace.isSome = e.traced
  bare : ask.trace.isSome → ask.document = .null

theorem Asks.of_document {method url : String} {document : Value} {e : Errand}
    (hm : Text.upper method = e.method) (hu : url = e.place)
    (hb : Client.bodyOf document = .ok e.body) (hq : e.query = []) (ht : e.traced = false) :
    Asks { method, url, document } e where
  method := hm
  url := hu
  query _ _ h := by
    rw [Errand.queried, hq]
    exact h
  body := hb
  headers := rfl
  traced := ht.symm
  bare h := by cases h

theorem trace?_of_untraced {n : Nat} {ask : Ask} {r : Request}
    (h : client.request n ask = .ok r) (hc : client.headers = Placement.jsonHeaders)
    (ht : ask.trace = none) (hh : ask.headers = .null) : r.trace? = none := by
  obtain ⟨-, given, body, -, hgiven, -, -, -, -, -, hheaders⟩ := Client.request_parts h
  unfold Client.givenHeaders at hgiven
  rw [ht, hh] at hgiven
  cases hgiven
  unfold Request.trace?
  rw [hheaders, hc]
  cases body.isSome <;> decide

theorem trace?_of_traced {n : Nat} {ask : Ask} {r : Request} {trace : String}
    (h : client.request n ask = .ok r) (ht : ask.trace = some trace) (hh : ask.headers = .null)
    (hd : ask.document = .null) : r.trace? = some trace := by
  obtain ⟨given, body, hgiven, hbody, -, -, -, hheaders⟩ := Client.request_eq_ok h
  rw [hd] at hbody
  cases hbody
  unfold Request.trace?
  rw [hheaders rfl, Client.givenHeaders_trace ht hh hgiven, Client.get?_override_self]

/-- Who asks an errand of a client that serves its recipient makes out the request that is meant. -/
theorem Asks.isRequest {ask : Ask} {e : Errand} (ha : Asks ask e)
    (hs : Serves client address e.recipient) {n : Nat} {r : Request}
    (h : client.request n ask = .ok r) : e.IsRequest address r := by
  obtain ⟨place, given, body, hplace, -, hurl, hbody, -, hmethod, hb, -⟩ := Client.request_parts h
  obtain ⟨text, htext, hbase⟩ := hs.base
  refine ⟨hmethod.trans ha.method, ⟨text, client.base, place, htext, hbase, ?_, ?_⟩, ?_, ?_⟩
  · rw [← ha.url]
    exact hplace
  · exact ha.query place r.url hurl
  · rw [hb, ← Except.ok.inj (hbody.symm.trans ha.body)]
  · -- besides the client's own headers, only those of the trace identifier are given
    rw [← ha.traced]
    cases ht : ask.trace with
    | none => rw [trace?_of_untraced h hs.headers ht ha.headers]
    | some trace => rw [trace?_of_traced h ht ha.headers (ha.bare (by rw [ht]; rfl))]

/-! ## Carrying out -/

/-- What has been sent on a list of errands; `wholly` says whether that ended well. -/
inductive Carried (address : Recipient → Except Failure String) :
    List Errand → (wholly : Bool) → List Sending → Prop
  | done : Carried address [] true []
  | stopped (errands : List Errand) : Carried address errands false []
  | refused {e : Errand} {request : Request} (answer : Http.Answer) (errands : List Errand) :
    e.IsRequest address request → Carried address (e :: errands) false [(request, answer)]
  | passed {e : Errand} {request : Request} {answer : Http.Answer} {errands : List Errand}
    {wholly : Bool} {more : List Sending} :
    e.IsRequest address request → Confirms request answer → Carried address errands wholly more →
    Carried address (e :: errands) wholly ((request, answer) :: more)

namespace Carried

variable {errands later : List Errand} {wholly : Bool} {more rest : List Sending}

theorem idle : ∀ wholly, Carried address [] wholly []
  | true => .done
  | false => .stopped []

/-- What has ended well may be followed by a failure. -/
theorem failed (h : Carried address errands wholly more) : Carried address errands false more := by
  induction h with
  | done => exact .stopped []
  | stopped errands => exact .stopped errands
  | refused answer errands hrequest => exact .refused answer errands hrequest
  | passed hrequest hconfirms _ ih => exact .passed hrequest hconfirms ih

theorem left (h : Carried address errands false more) (later : List Errand) :
    Carried address (errands ++ later) false more := by
  -- the induction is on what has been sent, and the flag has to be a variable there
  generalize hw : false = wholly at h
  induction h with
  | done => cases hw
  | stopped errands => exact .stopped _
  | refused answer errands hrequest => exact .refused answer _ hrequest
  | passed hrequest hconfirms _ ih => exact .passed hrequest hconfirms (ih hw)

theorem append (h : Carried address errands true more) (hl : Carried address later wholly rest) :
    Carried address (errands ++ later) wholly (more ++ rest) := by
  generalize hw : true = done at h
  induction h with
  | done => exact hl
  | stopped errands => cases hw
  | refused answer errands hrequest => cases hw
  | passed hrequest hconfirms _ ih => exact .passed hrequest hconfirms (ih hw)

/-- The requests that have been sent are those of the first errands, in order; of all of them if
that ended well. -/
theorem exists_asked (h : Carried address errands wholly more) : ∃ asked, asked <+: errands ∧
    List.Forall₂ (fun e sending => Errand.IsRequest e address sending.1) asked more ∧
      (wholly = true → asked = errands) := by
  induction h with
  | done => exact ⟨[], List.prefix_rfl, .nil, fun _ => rfl⟩
  | stopped errands => exact ⟨[], List.nil_prefix, .nil, fun h => by cases h⟩
  | @refused e _ _ errands hrequest =>
    refine ⟨[e], ⟨errands, rfl⟩, .cons hrequest .nil, fun h => by cases h⟩
  | @passed e _ _ errands _ _ hrequest _ _ ih =>
    obtain ⟨asked, hprefix, hall, hwholly⟩ := ih
    refine ⟨e :: asked, List.cons_prefix_cons.2 ⟨rfl, hprefix⟩, .cons hrequest hall, fun h => ?_⟩
    rw [hwholly h]

theorem length_le (h : Carried address errands wholly more) : more.length ≤ errands.length := by
  obtain ⟨asked, hprefix, hall, -⟩ := h.exists_asked
  rw [← hall.length_eq]
  exact hprefix.length_le

/-- Nothing is sent after an answer that is not let pass; and if that ended well, every answer
was. -/
theorem confirmed (h : Carried address errands wholly more) :
    (∀ before sending after, more = before ++ sending :: after → after ≠ [] →
      Confirms sending.1 sending.2) ∧
    (wholly = true → ∀ sending ∈ more, Confirms sending.1 sending.2) := by
  induction h with
  | done | stopped =>
    refine ⟨fun before sending after h => ?_, fun _ => List.forall_mem_nil _⟩
    exact absurd h.symm (List.append_ne_nil_of_right_ne_nil _ (List.cons_ne_nil _ _))
  | refused answer errands hrequest =>
    refine ⟨fun before sending after h hne => ?_, fun h => by cases h⟩
    rcases before with _ | ⟨first, before⟩
    · exact absurd (List.cons.inj h).2.symm hne
    · exact absurd (List.cons.inj h).2.symm
        (List.append_ne_nil_of_right_ne_nil _ (List.cons_ne_nil _ _))
  | passed hrequest hconfirms _ ih =>
    refine ⟨fun before sending after h hne => ?_, fun h sending hmem => ?_⟩
    · rcases before with _ | ⟨first, before⟩
      · rw [← (List.cons.inj h).1]
        exact hconfirms
      · exact ih.1 before sending after (List.cons.inj h).2 hne
    · rcases List.mem_cons.1 hmem with rfl | hmem
      · exact hconfirms
      · exact ih.2 h sending hmem

end Carried

/-! ## Flows -/

section Flows

variable {α β : Type} {errands later : List Errand}

/-- Whatever the network answers, what a flow sends has been carried out on errands. -/
def Runs (address : Recipient → Except Failure String) (errands : List Errand)
    (body : Flow World α) : Prop :=
  ∀ script start, (sent script start 0 False).Adds body fun o more =>
    Carried address errands o.isOk more

/-- Whatever the network answers, a flow sends nothing. -/
def Silent (body : Flow World α) : Prop :=
  ∀ script start, (sent script start 0 False).Adds body fun _ more => more = []

theorem Silent.discreet {body : Flow World α} (h : body.Discreet) : Silent body :=
  fun _ _ => .discreet h

theorem Silent.ofExcept (outcome : Except Failure α) : Silent (Flow.ofExcept outcome) :=
  fun _ _ => .ofExcept rfl

theorem Silent.of_undisturbed {body : Flow World α}
    (h : ∀ s, Undisturbed 0 False s (body.runFrom s).2) : Silent body :=
  fun _ _ => Undisturbed.adds_of False.elim h

theorem Silent.bind {body : Flow World α} {next : α → Flow World β} (hb : Silent body)
    (hn : ∀ a, Silent (next a)) : Silent (body >>= next) :=
  fun script start => .bind_nil (hb script start) fun a => hn a script start

namespace Runs

theorem of_silent {body : Flow World α} (h : Silent body) : Runs address [] body := by
  intro script start
  refine .mono (h script start) ?_
  rintro o more rfl
  exact .idle _

theorem throw (f : Failure) : Runs address errands (MonadExcept.throw f : Flow World α) :=
  fun _ _ => .throw (.stopped _)

theorem throw_bind (f : Failure) (next : α → Flow World β) :
    Runs address errands (MonadExcept.throw f >>= next) :=
  fun _ _ => .bind_throw (.stopped _)

theorem ofExcept_bind {outcome : Except Failure α} {next : α → Flow World β}
    (h : ∀ a, outcome = .ok a → Runs address errands (next a)) :
    Runs address errands (Flow.ofExcept outcome >>= next) :=
  fun script start => .bind_ofExcept (fun _ _ => .stopped _) fun a ha => h a ha script start

theorem bind {body : Flow World α} {next : α → Flow World β} (hb : Runs address errands body)
    (hn : ∀ a, Runs address later (next a)) : Runs address (errands ++ later) (body >>= next) :=
  fun script start => .bind (hb script start) (fun _ _ h => h.left later) fun a _ h =>
    .mono (hn a script start) fun _ _ hl => h.append hl

theorem last {body : Flow World α} {next : α → Flow World β} (hb : Runs address errands body)
    (hn : ∀ a, Silent (next a)) : Runs address errands (body >>= next) :=
  fun script start => .last (fun _ h => h.failed) (hb script start) fun a => hn a script start

theorem first {body : Flow World α} {next : α → Flow World β} (hb : Silent body)
    (hn : ∀ a, Runs address errands (next a)) : Runs address errands (body >>= next) :=
  (of_silent hb : Runs address [] body).bind hn

theorem call {c : Instrument.Component World} {body : Flow World α}
    (hb : Runs address errands body) (hc : ∀ d ∈ c.telemetry, d.Discreet) (name : String)
    (supplied : List (String × Value)) : Runs address errands (c.call name supplied body) := by
  intro script start s hs
  exact Gauge.AddsAt.call (P := fun o more => Carried address errands o.isOk more) hs
    (fun s₁ ha => hb script start s₁ (Gauge.holds_alike _ ha hs)) (fun _ => .stopped _)
    (fun _ _ _ h => h.failed) hc name supplied

end Runs

theorem runs_ask {ask : Ask} {e : Errand} (hs : Serves client address e.recipient)
    (ha : Asks ask e) (operation : String) (hcheck : ask.checkStatus = true) :
    Runs address [e] (Http.Storage.call World.networkSlot client operation ask) := by
  intro script start
  refine .mono (adds_call client operation ask hcheck) fun o more h => ?_
  cases h with
  | unsent f => exact .stopped _
  | sent other request answer _ hrequest hpassed =>
    have hmeant := ha.isRequest hs hrequest
    cases o with
    | error f => exact .refused answer [] hmeant
    | ok j => exact .passed hmeant (hpassed j rfl) .done

/-! ### Records -/

/-- The record that the answer to a request tells. -/
def Sending.record? : Sending → Option ContainerRecord
  | (request, .response packed) =>
    match Client.unpacked request packed with
    | .error _ => none
    | .ok response => match Client.documentOf request response with
      | .error _ => none
      | .ok document => match (Model.check document.toValue : Checked ContainerRecord) with
        | .fits record => some record
        | .faulty _ => none
  | _ => none

/-- A record that is found is the one that the answer to an errand tells. -/
structure Found (address : Recipient → Except Failure String) (e : Errand)
    (o : Except Failure ContainerRecord) (more : List Sending) : Prop where
  carried : Carried address [e] o.isOk more
  told : ∀ record, o = .ok record → ∃ sending, more = [sending] ∧ sending.record? = some record

/-- Whatever the network answers, a flow finds the record that the answer to an errand tells. -/
def Finds (address : Recipient → Except Failure String) (e : Errand)
    (body : Flow World ContainerRecord) : Prop :=
  ∀ script start, (sent script start 0 False).Adds body (Found address e)

theorem Found.failed {e : Errand} {wholly : Bool} {more : List Sending}
    (h : Carried address [e] wholly more) (f : Failure) : Found address e (.error f) more :=
  ⟨h.failed, fun _ h => by cases h⟩

theorem Finds.call {c : Instrument.Component World} {body : Flow World ContainerRecord}
    {e : Errand} (hb : Finds address e body) (hc : ∀ d ∈ c.telemetry, d.Discreet) (name : String)
    (supplied : List (String × Value)) : Finds address e (c.call name supplied body) := by
  intro script start s hs
  exact Gauge.AddsAt.call (P := Found address e) hs
    (fun s₁ ha => hb script start s₁ (Gauge.holds_alike _ ha hs))
    (fun f => .failed (.stopped _) f) (fun _ f _ h => .failed h.carried f) hc name
    supplied

theorem finds_fetch {telemetry : List (Instrument.Concern World)} {ask : Ask} {e : Errand}
    (hs : Serves client address e.recipient) (ha : Asks ask e) (operation : String)
    (hcheck : ask.checkStatus = true) :
    Finds address e ((placementOver client telemetry).fetch ContainerRecord operation ask) := by
  intro script start
  refine .bind ((runs_ask hs ha operation hcheck script start).and
    (adds_call_document client operation ask hcheck)) ?_ ?_
  · rintro f more ⟨h, -⟩
    exact .failed h f
  · rintro document more ⟨h, hdocument⟩
    obtain ⟨request, packed, response, rfl, hunpacked, hd⟩ := hdocument document rfl
    refine .ofExcept ?_
    unfold Http.Storage.decode
    cases hcheck : (Model.check document.toValue : Checked ContainerRecord) with
    | faulty issues => exact .failed h _
    | fits record =>
      refine ⟨h, fun other hother => ⟨(request, .response packed), rfl, ?_⟩⟩
      rw [← Except.ok.inj hother]
      simp only [Sending.record?, hunpacked, hd, hcheck]

/-! ## Steps -/

section Steps

variable {telemetry : List (Instrument.Concern World)} {own : ContainerOperationsSettings}
  {nodes : DatanodeSettings} {handle : NetworkHandle} {pipeline : Pipeline}

theorem containerPath_eq_ok {containerId : Int} {rest url : String}
    (h : Http.Storage.containerPath containerId rest = .ok url) :
    url = Errand.container containerId rest := by
  unfold Http.Storage.containerPath at h
  split at h
  · cases h
  · exact (Except.ok.inj h).symm

theorem runs_containerCall {method rest : String} {containerId : Int} {trace : String}
    {query : Value} {e : Errand} (hs : Serves client address e.recipient) (operation : String)
    (ha : Asks { method, url := Errand.container containerId rest, trace := some trace, query } e) :
    Runs address [e] ((datanodesOver telemetry).containerCall client operation method rest
      containerId trace query) := by
  refine .ofExcept_bind fun url hurl => ?_
  rw [containerPath_eq_ok hurl]
  exact runs_ask hs ha operation rfl

theorem asks_data {method : String} (hm : Text.upper method = method) (pipeline : Pipeline)
    (rest : String) (containerId : Int) (trace : String) :
    Asks { method, url := Errand.container containerId rest, trace := some trace }
      (Errand.data pipeline method rest containerId) where
  method := hm
  url := rfl
  query _ _ h := h
  body := rfl
  headers := rfl
  traced := rfl
  bare _ := rfl

theorem asks_deleteData (pipeline : Pipeline) (containerId : Int) (force : Bool) (trace : String) :
    Asks { method := "DELETE", url := Errand.container containerId "", trace := some trace,
           query := .mapping [(.text "force", .text (if force then "true" else "false"))] }
      (Errand.deleteData pipeline containerId force) where
  method := Http.upper_delete
  url := rfl
  query _ _ h := h
  body := rfl
  headers := rfl
  traced := rfl
  bare _ := rfl

variable (ht : ∀ c ∈ telemetry, c.Discreet)

include ht

/-! ### Datanodes -/

theorem runs_createData (hs : Serves client address (.node pipeline)) (containerId : Int)
    (trace : String) : Runs address [.data pipeline "PUT" "" containerId]
      ((datanodesOver telemetry).create client containerId trace) :=
  .call (.last (runs_containerCall hs _ (asks_data Http.upper_put pipeline "" containerId trace))
    fun _ => .ofExcept _) ht _ _

theorem runs_closeData (hs : Serves client address (.node pipeline)) (containerId : Int)
    (trace : String) : Runs address [.data pipeline "POST" "/close" containerId]
      ((datanodesOver telemetry).close client containerId trace) :=
  .call (.last (runs_containerCall hs _
    (asks_data Http.upper_post pipeline "/close" containerId trace)) fun _ => .ofExcept _) ht _ _

theorem runs_readData (hs : Serves client address (.node pipeline)) (containerId : Int)
    (trace : String) : Runs address [.data pipeline "GET" "" containerId]
      ((datanodesOver telemetry).read client containerId trace) :=
  .call (.last (runs_containerCall hs _ (asks_data Http.upper_get pipeline "" containerId trace))
    fun _ => .ofExcept _) ht _ _

theorem runs_deleteData (hs : Serves client address (.node pipeline)) (containerId : Int)
    (force : Bool) (trace : String) : Runs address [.deleteData pipeline containerId force]
      ((datanodesOver telemetry).delete client containerId (.bool force) trace) :=
  .call (.last (runs_containerCall hs _ (asks_deleteData pipeline containerId force trace))
    fun _ => .ofExcept _) ht _ _

theorem runs_createPipeline {name : String} (hname : pipeline.name = some name)
    (hs : Serves client address (.node pipeline)) : Runs address [.createPipeline pipeline]
      ((datanodesOver telemetry).createPipeline client name pipeline.members) := by
  have hbody : (Errand.createPipeline pipeline).body = some (.object [
      ("pipeline_name", .text name), ("members", .list (pipeline.members.map .text))]) := by
    rw [Errand.createPipeline, hname]
    rfl
  refine .call (.last (runs_ask hs ?_ _ rfl) fun _ => .ofExcept _) ht _ _
  refine .of_document Http.upper_post rfl ?_ rfl rfl
  rw [hbody]
  exact Datanode.bodyOf_pipeline name pipeline.members

/-! ### The placement service -/

theorem runs_deleteRecord (hs : Serves client address .placement) (containerId : Int) :
    Runs address [.deleteRecord containerId]
      ((placementOver client telemetry).deleteRecord containerId) := by
  refine .call (.ofExcept_bind fun url hurl => ?_) ht _ _
  exact .last (runs_ask hs (.of_document Http.upper_delete (containerPath_eq_ok hurl) rfl rfl rfl)
    _ rfl) fun _ => .ofExcept _

theorem runs_listRecords (hs : Serves client address .placement) (first count : Int) :
    Runs address [.listRecords first count]
      ((placementOver client telemetry).listRecords first count) := by
  refine .call (.last (runs_ask hs ?_ _ rfl) fun _ => .ofExcept _) ht _ _
  refine ⟨Http.upper_get, rfl, fun place url h => ?_, rfl, rfl, rfl, fun h => by cases h⟩
  obtain ⟨query, hquery, hurl⟩ := bind_eq_ok.1 h
  rw [Http.Query.ofValue_ints (by decide) hquery] at hurl
  exact hurl

theorem runs_list (hs : Serves client address .placement) (first count : Int) :
    Runs address [.listRecords first count]
      ((overNetwork own client nodes telemetry).list first count) := by
  refine .call ?_ ht _ _
  by_cases hfirst : first < 0
  · simp only [hfirst, if_true]
    exact .throw_bind _ _
  · by_cases hcount : count ≤ 0
    · simp only [hfirst, hcount, if_false, if_true]
      exact .throw_bind _ _
    · simp only [hfirst, hcount, if_false]
      exact runs_listRecords ht hs first count

theorem finds_allocate (hs : Serves client address .placement) (type : ReplicationType)
    (factor : ReplicationFactor) (owner : String) :
    Finds address (.allocate type factor owner)
      ((placementOver client telemetry).allocate type factor owner) := by
  refine .call (finds_fetch hs ?_ _ rfl) ht _ _
  exact .of_document Http.upper_post rfl (Placement.bodyOf_allocation type factor owner) rfl rfl

theorem finds_getRecord (hs : Serves client address .placement) (containerId : Int) :
    Finds address (.getRecord containerId)
      ((placementOver client telemetry).getRecord containerId) := by
  refine .call (fun script start => .bind_ofExcept (fun f _ => ?_) fun url hurl => ?_) ht _ _
  · exact .failed (.stopped _) f
  · exact finds_fetch hs (.of_document Http.upper_get (containerPath_eq_ok hurl) rfl rfl rfl) _ rfl
      script start

theorem runs_notify (hs : Serves client address .placement) (containerId : Int)
    (operation : StageOperation) (phase : StagePhase) :
    Runs address [.report containerId operation phase]
      ((overNetwork own client nodes telemetry).notify containerId operation phase) := by
  cases hid : Decimal.isOverlong containerId with
  | true =>
    -- the event names its subject, which cannot be written
    rw [notify_of_overlong hid]
    exact .throw _
  | false =>
    rw [notify_of_fits hid]
    refine .call ?_ ht _ _
    rw [StageEvent.validate_parts]
    refine .ofExcept_bind fun event hevent => ?_
    rw [← Except.ok.inj hevent]
    refine .last (runs_ask hs ?_ _ rfl) fun _ => .ofExcept _
    exact .of_document Http.upper_post rfl (StageEvent.bodyOf_dump _) rfl rfl

/-! ### On a handle -/

theorem runs_materialize (hs : Serves handle.client address (.node pipeline)) :
    Runs address [.createPipeline pipeline]
      ((overNetwork own client nodes telemetry).materialize handle pipeline) := by
  unfold materialize
  split
  · exact .throw _
  · exact .throw _
  · rename_i name _ hname
    exact .last (runs_createPipeline ht hname hs) fun _ =>
      .discreet (Log.discreet_logWith _ _ _ _)

theorem runs_prepare (hs : Serves handle.client address (.node pipeline)) :
    Runs address (Errand.preparation pipeline)
      ((overNetwork own client nodes telemetry).prepare handle pipeline) := by
  unfold prepare Errand.preparation
  cases pipeline.state with
  | allocated => exact runs_materialize ht hs
  | opened => exact .of_silent (.ofExcept _)
  | _ => exact .throw _

theorem runs_reported (hs : Serves client address .placement) (containerId : Int)
    (operation : StageOperation) {e : Errand} {act : String → Flow World Unit}
    (hact : ∀ trace, Runs address [e] (act trace)) {last : Flow World Unit}
    (hlast : Silent last) :
    Runs address (Errand.reported containerId operation e) (do
      (overNetwork own client nodes telemetry).notify containerId operation .begun
      let trace ← (overNetwork own client nodes telemetry).parts.newTrace
      act trace
      (overNetwork own client nodes telemetry).notify containerId operation .complete
      last) := by
  have htrace : Silent (overNetwork own client nodes telemetry).parts.newTrace :=
    .of_undisturbed fun s => newTrace_undisturbed s
  refine .bind (runs_notify ht hs containerId operation .begun) fun _ => ?_
  refine .first htrace fun trace => ?_
  exact .bind (hact trace) fun _ =>
    .last (runs_notify ht hs containerId operation .complete) fun _ => hlast

end Steps

end Flows

end Service

end Stowage
