import Stowage.Proofs.Container.RoundTrip
import Stowage.Proofs.Http.Faults
import Stowage.Proofs.Service.Adapters

/-!
The methods of the adapters, and their outcome as a function of the request and its answer.

Every method makes a request out of its arguments, sends it, and makes a result of the document that
answers it (`RemoteMethod.run_eq`). When a request can be made out, the connection is open and log
records can be written, the outcome depends on nothing but the request and the answer
(`RemoteMethod.outcome_run`).
-/

namespace Stowage

open Http (Request Answer Client Ask)

namespace Http.Client

/-! ## Answers -/

/-- What a client makes of the answer to a request. -/
def received (request : Request) : Answer → Except Failure Response
  | .unanswered kind message =>
    .error (unanswered request.method request.url.text kind message)
  | .badUrl message => .error (.badUrl message)
  | .response packed => do
    aftermath request packed
    let response ← unpacked request packed
    if response.isError then
      .error (.http (response.statusFailure request.method request.url.text))
    else .ok response

/-- The document of the answer to a request. -/
def documentFrom (request : Request) (answer : Answer) : Except Failure Json := do
  let response ← received request answer
  documentOf request response

end Http.Client

namespace Http.Query

/-- A number that is put into a query can be written. -/
theorem fits_of_group {name : String} {i : Int} {pair : String × List String}
    (h : (do
      let name ← shown (.text name)
      let values ← [Value.int i].mapM valueText
      .ok (name, values)) = (.ok pair : Except Failure (String × List String))) :
    Decimal.isOverlong i = false := by
  obtain ⟨_, -, h⟩ := bind_eq_ok.1 h
  obtain ⟨values, hvalues, -⟩ := bind_eq_ok.1 h
  rw [List.mapM_cons] at hvalues
  obtain ⟨t, ht, -⟩ := bind_eq_ok.1 hvalues
  change shown (.int i) = .ok t at ht
  unfold shown at ht
  split at ht
  · cases ht
  · rename_i hfits
    exact Bool.eq_false_iff.2 hfits

/-- Two numbers that are put into a query can be written. -/
theorem fits_of_ints {first second : String} {a b : Int} {query : Query}
    (h : ofValue (.mapping [(.text first, .int a), (.text second, .int b)]) = .ok query) :
    Decimal.isOverlong a = false ∧ Decimal.isOverlong b = false := by
  obtain ⟨pairs, hpairs, -⟩ := bind_eq_ok.1 h
  simp only [List.map_cons, List.map_nil, List.mapM_cons, List.mapM_nil] at hpairs
  obtain ⟨x, hx, hpairs⟩ := bind_eq_ok.1 hpairs
  obtain ⟨rest, hrest, -⟩ := bind_eq_ok.1 hpairs
  obtain ⟨y, hy, -⟩ := bind_eq_ok.1 hrest
  exact ⟨fits_of_group hx, fits_of_group hy⟩

end Http.Query

namespace Service

variable {client : Client} {number : Nat} {s : Session World} {ask : Ask} {request : Request}

/-- The session after a request has been sent and answered. -/
def afterSending (s : Session World) (request : Request) : Session World :=
  { s with
    world := { s.world with network := s.world.network.next.2 }
    journal := s.journal ++ [.request request] }

theorem writable_afterSending (h : Log.Writable s) : Log.Writable (afterSending s request) := h

/-- A connection is open. -/
def Open (number : Nat) (s : Session World) : Prop := number ∉ s.world.network.closed

theorem Open.alike {t : Session World} (h : s.Alike t) (hs : Open number s) : Open number t := by
  unfold Open
  rw [h.world]
  exact hs

theorem runFrom_send (hopen : Open request.connection s) :
    (Http.Network.send World.networkSlot request).runFrom s =
      (.ok s.world.network.next.1, afterSending s request) := by
  have hclosed : ¬ (World.networkSlot.get s.world).closed.contains request.connection = true :=
    fun h => hopen (List.contains_iff_mem.1 h)
  unfold Http.Network.send
  rw [Flow.runFrom_bind_ok (Flow.runFrom_look _ s), if_neg hclosed]
  rfl

/-- A request that is sent over an open connection ends with the document of its answer. -/
theorem runFrom_askJson (hcheck : ask.checkStatus = true)
    (hcarrier : client.carrier = .connection number)
    (hrequest : client.request number ask = .ok request) (hopen : Open number s) :
    (client.askJson World.networkSlot ask).runFrom s =
      (Client.documentFrom request s.world.network.next.1, afterSending s request) := by
  have hnumber : request.connection = number := by
    obtain ⟨-, -, -, -, hconnection, -⟩ := Client.request_eq_ok hrequest
    exact hconnection
  have hexchange : (client.exchange World.networkSlot ask).runFrom s =
      ((Client.received request s.world.network.next.1).map fun response => (request, response),
        afterSending s request) := by
    unfold Client.exchange
    rw [hcarrier]
    simp only
    rw [hrequest, Flow.runFrom_bind_ok (Flow.runFrom_ofExcept _ s),
      Flow.runFrom_bind_ok (runFrom_send (hnumber ▸ hopen))]
    cases s.world.network.next.1 with
    | unanswered kind message => rfl
    | badUrl message => rfl
    | response packed =>
      simp only [Client.received]
      cases Client.aftermath request packed with
      | error f => rfl
      | ok _ =>
        rw [Flow.runFrom_bind_ok (Flow.runFrom_ofExcept _ _)]
        cases Client.unpacked request packed with
        | error f => rfl
        | ok response =>
          rw [Flow.runFrom_bind_ok (Flow.runFrom_ofExcept _ _)]
          simp only [bind, Except.bind, hcheck, Bool.true_and]
          split <;> rfl
  unfold Client.askJson
  cases hreceived : Client.received request s.world.network.next.1 with
  | error f =>
    rw [hreceived] at hexchange
    rw [Flow.runFrom_bind_error hexchange, Client.documentFrom, hreceived]
    rfl
  | ok response =>
    rw [hreceived] at hexchange
    rw [Flow.runFrom_bind_ok hexchange, Client.documentFrom, hreceived]
    rfl

theorem runFrom_call (operation : String) (hcheck : ask.checkStatus = true)
    (hcarrier : client.carrier = .connection number)
    (hrequest : client.request number ask = .ok request) (hopen : Open number s) :
    (Http.Storage.call World.networkSlot client operation ask).runFrom s =
      ((Client.documentFrom request s.world.network.next.1).mapError
        (Http.Storage.explain operation), afterSending s request) := by
  have h := runFrom_askJson hcheck hcarrier hrequest hopen
  unfold Http.Storage.call
  rw [Flow.runFrom_ofStep, h]

/-! ## Pipelines over nodes -/

/-- The document that asks for a pipeline over the nodes that another describes. -/
def replicationBody (type : ReplicationType) (factor : ReplicationFactor) (nodes : Json) : Json :=
  .object [("replication_type", .ofWord type), ("replication_factor", .ofWord factor),
    ("node_pool", nodes)]

/-- What is asked of the placement service for a pipeline over nodes. -/
def replicationAsk (type : ReplicationType) (factor : ReplicationFactor) (nodes : NodePool) :
    Ask where
  method := "POST"
  url := "/pipelines"
  document := Placement.mapping [
    ("replication_type", Placement.wordValue type),
    ("replication_factor", Placement.wordValue factor),
    ("node_pool", (Model.toValue nodes).dump)]

theorem fits_nodes (nodes : NodePool) : (Model.toValue nodes).isOverlong = false := by
  refine Value.Written.anyFieldOverlong_eq_false.2 fun f hf => ?_
  have hfields : Model.fields nodes =
    [("name", .text nodes.name), ("nodes", .tuple (nodes.nodes.map Model.toValue))] := rfl
  rw [hfields] at hf
  simp only [List.mem_cons, List.not_mem_nil, or_false] at hf
  rcases hf with rfl | rfl
  · rfl
  · refine Value.Written.anyOverlong_eq_false.2 (List.forall_mem_map.2 fun n _ => ?_)
    rfl

theorem bodyOf_replication (type : ReplicationType) (factor : ReplicationFactor)
    (nodes : NodePool) : Client.bodyOf (replicationAsk type factor nodes).document =
      .ok (some (replicationBody type factor nodes.wire)) := by
  have hnodes := nodes.written.document (fits_nodes nodes)
  change Except.map some (Except.map Json.ofPairs (Value.memberDocuments [
    (.text "replication_type", Placement.wordValue type),
    (.text "replication_factor", Placement.wordValue factor),
    (.text "node_pool", (Model.toValue nodes).dump)])) = _
  simp only [Value.memberDocuments, Value.wireKey, Placement.wordValue, Value.document, hnodes,
    bind, Except.bind, Except.map]
  rfl

/-- What is asked of the placement service about nodes. -/
def queryAsk (states : List NodeState) (scope : QueryScope) (pool : String) : Ask where
  method := "POST"
  url := "/nodes/query"
  document := Placement.mapping [
    ("node_states", .list (states.map Placement.wordValue)),
    ("query_scope", Placement.wordValue scope), ("pool_name", .text pool)]

theorem bodyOf_query (states : List NodeState) (scope : QueryScope) (pool : String) :
    Client.bodyOf (queryAsk states scope pool).document = .ok (some (.object [
      ("node_states", .list (states.map .ofWord)), ("query_scope", .ofWord scope),
      ("pool_name", .text pool)])) := by
  have hstates : Value.documents (states.map Placement.wordValue) = .ok (states.map .ofWord) := by
    have htexts := documents_texts (states.map Vocabulary.value)
    rwa [List.map_map, List.map_map] at htexts
  change Except.map some (Except.map Json.ofPairs (Value.memberDocuments [
    (.text "node_states", .list (states.map Placement.wordValue)),
    (.text "query_scope", Placement.wordValue scope), (.text "pool_name", .text pool)])) = _
  simp only [Value.memberDocuments, Value.wireKey, Placement.wordValue, Value.document, hstates,
    bind, Except.bind, Except.map]
  rfl

end Service

/-! ## Methods -/

/-- A method of an adapter, with its arguments. -/
inductive RemoteMethod where
  | allocate (type : ReplicationType) (factor : ReplicationFactor) (owner : String)
  | notify (event : StageEvent)
  | deleteRecord (containerId : Int)
  | getRecord (containerId : Int)
  | listRecords (start count : Int)
  | queryNodes (states : List NodeState) (scope : QueryScope) (pool : String)
  | replicate (type : ReplicationType) (factor : ReplicationFactor) (nodes : NodePool)
  | createData (containerId : Int) (trace : String)
  | deleteData (containerId : Int) (force : Bool) (trace : String)
  | closeData (containerId : Int) (trace : String)
  | readData (containerId : Int) (trace : String)
  | createPipeline (name : String) (members : List String)

namespace RemoteMethod

/-- The name of a method. -/
def operation : RemoteMethod → String
  | allocate .. => "allocate_container"
  | notify .. => "notify_stage_change"
  | deleteRecord .. => "delete_container"
  | getRecord .. => "get_container"
  | listRecords .. => "list_container"
  | queryNodes .. => "query_node"
  | replicate .. => "create_replication_pipeline"
  | createData .. => "create_container"
  | deleteData .. => "delete_container"
  | closeData .. => "close_container"
  | readData .. => "read_container"
  | createPipeline .. => "create_pipeline"

/-- Who is asked, in the words of reports. -/
def side : RemoteMethod → String
  | createData .. | deleteData .. | closeData .. | readData .. | createPipeline .. => "datanode"
  | _ => "placement"

/-- What a method gives. -/
@[reducible] def Result : RemoteMethod → Type
  | allocate .. | getRecord .. => ContainerRecord
  | listRecords .. => List ContainerRecord
  | queryNodes .. => NodePool
  | replicate .. => Pipeline
  | readData .. => ContainerData
  | _ => Unit

/-- A call of a method. -/
def run (client : Client) (telemetry : List (Instrument.Concern World)) :
    (m : RemoteMethod) → Flow World m.Result
  | allocate type factor owner =>
    (Service.placementOver client telemetry).allocate type factor owner
  | notify event => (Service.placementOver client telemetry).notify (.ofMember event.subject)
      (.text event.subjectId) (.ofMember event.operation) (.ofMember event.phase)
  | deleteRecord containerId => (Service.placementOver client telemetry).deleteRecord containerId
  | getRecord containerId => (Service.placementOver client telemetry).getRecord containerId
  | listRecords start count => (Service.placementOver client telemetry).listRecords start count
  | queryNodes states scope pool =>
    (Service.placementOver client telemetry).queryNodes states scope pool
  | replicate type factor nodes =>
    (Service.placementOver client telemetry).replicate type factor nodes
  | createData containerId trace =>
    (Service.datanodesOver telemetry).create client containerId trace
  | deleteData containerId force trace =>
    (Service.datanodesOver telemetry).delete client containerId (.bool force) trace
  | closeData containerId trace => (Service.datanodesOver telemetry).close client containerId trace
  | readData containerId trace => (Service.datanodesOver telemetry).read client containerId trace
  | createPipeline name members =>
    (Service.datanodesOver telemetry).createPipeline client name members

/-- The arguments that a call refers to. -/
def supplied : RemoteMethod → List (String × Value)
  | allocate _ _ owner => [("owner", .text owner)]
  | notify event => [("subject_id", .text event.subjectId)]
  | deleteRecord containerId | getRecord containerId => [("container_id", .int containerId)]
  | listRecords start count => [("start_container_id", .int start), ("count", .int count)]
  | queryNodes _ _ pool => [("pool_name", .text pool)]
  | replicate .. => []
  | createData containerId trace | closeData containerId trace | readData containerId trace =>
    Datanode.subject containerId trace
  | deleteData containerId force trace =>
    [("container_id", .int containerId), ("force", .bool force), ("trace_id", .text trace)]
  | createPipeline name _ => [("pipeline_name", .text name)]

/-- What is asked about a container. -/
def askAbout (containerId : Int) (rest : String) (ask : String → Ask) : Except Failure Ask :=
  (Http.Storage.containerPath containerId rest).map ask

/-- What a method asks. -/
def ask : RemoteMethod → Except Failure Ask
  | allocate type factor owner => .ok {
      method := "POST"
      url := "/containers"
      document := Placement.mapping [
        ("replication_type", Placement.wordValue type),
        ("replication_factor", Placement.wordValue factor), ("owner", .text owner)] }
  | notify event => .ok (Service.reportAsk event)
  | deleteRecord containerId => askAbout containerId "" fun url => { method := "DELETE", url }
  | getRecord containerId => askAbout containerId "" fun url => { method := "GET", url }
  | listRecords start count => .ok {
      method := "GET"
      url := "/containers"
      query := Placement.mapping [("start", .int start), ("count", .int count)] }
  | queryNodes states scope pool => .ok (Service.queryAsk states scope pool)
  | replicate type factor nodes => .ok (Service.replicationAsk type factor nodes)
  | createData containerId trace =>
    askAbout containerId "" fun url => { method := "PUT", url, trace := some trace }
  | deleteData containerId force trace => askAbout containerId "" fun url => {
      method := "DELETE"
      url
      trace := some trace
      query := .mapping [(.text "force", .text (if force then "true" else "false"))] }
  | closeData containerId trace =>
    askAbout containerId "/close" fun url => { method := "POST", url, trace := some trace }
  | readData containerId trace =>
    askAbout containerId "" fun url => { method := "GET", url, trace := some trace }
  | createPipeline name members => .ok {
      method := "POST"
      url := "/pipelines"
      document := .mapping [
        (.text "pipeline_name", .text name), (.text "members", .list (members.map .text))] }

/-- What a method makes of the document that answers it. -/
def decode : (m : RemoteMethod) → Json → Except Failure m.Result
  | allocate .., j => Http.Storage.decode ContainerRecord "placement" "allocate_container" j
  | getRecord .., j => Http.Storage.decode ContainerRecord "placement" "get_container" j
  | listRecords .., j => Placement.recordsOf j
  | queryNodes .., j => Http.Storage.decode NodePool "placement" "query_node" j
  | replicate .., j => Http.Storage.decode Pipeline "placement" "create_replication_pipeline" j
  | readData .., j => Datanode.dataOf j
  | notify .., _ | deleteRecord .., _ | createData .., _ | deleteData .., _ | closeData .., _
  | createPipeline .., _ => .ok ()

/-- The component that a method belongs to. -/
def component (client : Client) (telemetry : List (Instrument.Concern World)) :
    RemoteMethod → Instrument.Component World
  | createData .. | deleteData .. | closeData .. | readData .. | createPipeline .. =>
    (Service.datanodesOver telemetry).component
  | _ => (Service.placementOver client telemetry).component

/-- What a method does, apart from being observed. -/
def body (client : Client) (m : RemoteMethod) : Flow World m.Result := do
  let ask ← Flow.ofExcept m.ask
  let j ← Http.Storage.call World.networkSlot client m.operation ask
  Flow.ofExcept (m.decode j)

/-- What is asked about a container may be put together before it is asked. -/
theorem bind_askAbout {α : Type} (containerId : Int) (rest : String) (ask : String → Ask)
    (next : Ask → Flow World α) :
    (Flow.ofExcept (askAbout containerId rest ask) >>= next) =
      Flow.ofExcept (Http.Storage.containerPath containerId rest) >>= fun url =>
        next (ask url) := by
  unfold askAbout
  cases Http.Storage.containerPath containerId rest <;> rfl

theorem bind_containerCall {α : Type} {client : Client}
    {telemetry : List (Instrument.Concern World)} (operation method rest : String)
    (containerId : Int) (trace : String) (query : Value) (next : Json → Flow World α) :
    ((Service.datanodesOver telemetry).containerCall client operation method rest containerId trace
        query >>= next) =
      Flow.ofExcept (askAbout containerId rest fun url =>
        { method, url, trace := some trace, query }) >>= fun ask =>
          Http.Storage.call World.networkSlot client operation ask >>= next := by
  rw [bind_askAbout]
  unfold Datanode.containerCall
  cases Http.Storage.containerPath containerId rest <;> rfl

/-- A call of a method asks, and decodes the answer. -/
theorem run_eq (client : Client) (telemetry : List (Instrument.Concern World)) (m : RemoteMethod) :
    m.run client telemetry =
      (m.component client telemetry).call m.operation m.supplied (m.body client) := by
  cases m with
  | allocate type factor owner => rfl
  | notify event =>
    simp only [run, Placement.notify, StageEvent.validate_parts]
    rfl
  | deleteRecord containerId =>
    unfold body ask
    rw [bind_askAbout]
    rfl
  | getRecord containerId =>
    unfold body ask
    rw [bind_askAbout]
    rfl
  | listRecords start count => rfl
  | queryNodes states scope pool => rfl
  | replicate type factor nodes => rfl
  | createData containerId trace =>
    simp only [run, Datanode.create, bind_containerCall]
    rfl
  | deleteData containerId force trace =>
    simp only [run, Datanode.delete, bind_containerCall]
    rfl
  | closeData containerId trace =>
    simp only [run, Datanode.close, bind_containerCall]
    rfl
  | readData containerId trace =>
    simp only [run, Datanode.read, bind_containerCall]
    rfl
  | createPipeline name members => rfl

/-! ## Outcomes -/

/-- How a method ends when a request is answered. -/
def outcome (m : RemoteMethod) (request : Request) (answer : Answer) : Except Failure m.Result := do
  let j ← (Client.documentFrom request answer).mapError (Http.Storage.explain m.operation)
  m.decode j

/-- A client makes a request out of what a method asks. -/
def Asks (m : RemoteMethod) (client : Client) (number : Nat) (request : Request) : Prop :=
  client.carrier = .connection number ∧
    (m.ask >>= fun ask => client.request number ask) = .ok request

/-- What every method asks is of a shape: the status of the answer is checked, no headers are
given, a query is a mapping, and a document can be sent. -/
structure Shaped (ask : Ask) : Prop where
  checked : ask.checkStatus = true
  headers : ask.headers = .null
  query : ask.query = .null ∨ ∃ entries, ask.query = .mapping entries
  body : ∃ body, Client.bodyOf ask.document = .ok body

theorem shaped_askAbout {containerId : Int} {rest : String} {make : String → Ask} {ask : Ask}
    (hmake : ∀ url, Shaped (make url)) (h : askAbout containerId rest make = .ok ask) :
    Shaped ask := by
  unfold askAbout at h
  generalize Http.Storage.containerPath containerId rest = path at h
  cases path with
  | error f => cases h
  | ok url =>
    cases h
    exact hmake url

theorem shaped_ask {m : RemoteMethod} {ask : Ask} (h : m.ask = .ok ask) : Shaped ask := by
  cases m with
  | deleteRecord | getRecord | createData | closeData | readData =>
    exact shaped_askAbout (fun _ => ⟨rfl, rfl, .inl rfl, none, rfl⟩) h
  | deleteData => exact shaped_askAbout (fun _ => ⟨rfl, rfl, .inr ⟨_, rfl⟩, none, rfl⟩) h
  | listRecords =>
    rw [← Except.ok.inj h]
    exact ⟨rfl, rfl, .inr ⟨_, rfl⟩, none, rfl⟩
  | allocate type factor owner =>
    rw [← Except.ok.inj h]
    exact ⟨rfl, rfl, .inl rfl, _, Placement.bodyOf_allocation type factor owner⟩
  | notify event =>
    rw [← Except.ok.inj h]
    exact ⟨rfl, rfl, .inl rfl, _, event.bodyOf_dump⟩
  | queryNodes states scope pool =>
    rw [← Except.ok.inj h]
    exact ⟨rfl, rfl, .inl rfl, _, Service.bodyOf_query states scope pool⟩
  | replicate type factor nodes =>
    rw [← Except.ok.inj h]
    exact ⟨rfl, rfl, .inl rfl, _, Service.bodyOf_replication type factor nodes⟩
  | createPipeline name members =>
    rw [← Except.ok.inj h]
    exact ⟨rfl, rfl, .inl rfl, _, Datanode.bodyOf_pipeline name members⟩

theorem askAbout_error {containerId : Int} {rest : String} {make : String → Ask} {f : Failure}
    (h : askAbout containerId rest make = .error f) : f = .overlongInteger := by
  unfold askAbout Http.Storage.containerPath at h
  split at h
  · exact (Except.error.inj h).symm
  · cases h

theorem ask_error {m : RemoteMethod} {f : Failure} (h : m.ask = .error f) :
    f = .overlongInteger := by
  cases m with
  | deleteRecord | getRecord | createData | deleteData | closeData | readData =>
    exact askAbout_error h
  | allocate | notify | listRecords | queryNodes | replicate | createPipeline => cases h

variable {client : Client} {number : Nat} {s : Session World} {request : Request}

theorem runFrom_body {m : RemoteMethod} (hrequest : m.Asks client number request)
    (hopen : Service.Open number s) : (m.body client).runFrom s =
      (m.outcome request s.world.network.next.1, Service.afterSending s request) := by
  obtain ⟨hcarrier, hmade⟩ := hrequest
  obtain ⟨ask, hask, hmade⟩ := bind_eq_ok.1 hmade
  have hcall := Service.runFrom_call m.operation (shaped_ask hask).checked hcarrier hmade hopen
  unfold body outcome
  rw [hask, Flow.runFrom_bind_ok (Flow.runFrom_ofExcept _ s), Flow.runFrom_bind, hcall]
  cases (Client.documentFrom request s.world.network.next.1).mapError
    (Http.Storage.explain m.operation) <;> rfl

/-- A method of whose arguments no request can be made sends nothing. -/
theorem runFrom_body_unmade {m : RemoteMethod} (hcarrier : client.carrier = .connection number)
    {f : Failure} (h : (m.ask >>= fun ask => client.request number ask) = .error f) :
    Refused f ∧ (m.body client).runFrom s = (.error f, s) := by
  unfold body
  rcases bind_eq_error.1 h with hask | ⟨ask, hask, hmade⟩
  · have hf := ask_error hask
    subst hf
    rw [hask]
    exact ⟨.value _ _ rfl rfl, rfl⟩
  · have hshape := shaped_ask hask
    have hf := Client.request_error hshape.headers hshape.query hshape.body hmade
    have hjson : (client.askJson World.networkSlot ask).runFrom s = (.error f, s) := by
      unfold Client.askJson Client.exchange
      rw [hcarrier]
      simp only
      rw [hmade]
      rfl
    have hcall : (Http.Storage.call World.networkSlot client m.operation ask).runFrom s =
        (.error f, s) := by
      unfold Http.Storage.call
      rw [Flow.runFrom_ofStep, hjson]
      cases hf <;> rfl
    rw [hask, Flow.runFrom_bind_ok (Flow.runFrom_ofExcept _ s), Flow.runFrom_bind_error hcall]
    exact ⟨hf, rfl⟩

theorem fits_askAbout {containerId : Int} {rest : String} {make : String → Ask} {ask : Ask}
    (h : askAbout containerId rest make = .ok ask) : Decimal.isOverlong containerId = false := by
  unfold askAbout Http.Storage.containerPath at h
  split at h
  · cases h
  · rename_i hfits
    exact Bool.eq_false_iff.2 hfits

/-- What a request is made out of can be written. -/
theorem fits_supplied {m : RemoteMethod} (hrequest : m.Asks client number request) :
    ∀ e ∈ m.supplied, e.2.isOverlong = false := by
  obtain ⟨ask, hask, hmade⟩ := bind_eq_ok.1 hrequest.2
  have hcases : ∀ {e es}, (e : String × Value).2.isOverlong = false →
      (∀ e ∈ es, (e : String × Value).2.isOverlong = false) →
      ∀ f ∈ e :: es, f.2.isOverlong = false := fun he hes => List.forall_mem_cons.2 ⟨he, hes⟩
  have hnil : ∀ e ∈ ([] : List (String × Value)), e.2.isOverlong = false := List.forall_mem_nil _
  cases m with
  | allocate | notify | queryNodes | createPipeline => exact hcases rfl hnil
  | replicate => exact hnil
  | deleteRecord | getRecord => exact hcases (fits_askAbout hask) hnil
  | createData | closeData | readData =>
    exact hcases (fits_askAbout hask) (hcases rfl hnil)
  | deleteData => exact hcases (fits_askAbout hask) (hcases rfl (hcases rfl hnil))
  | listRecords start count =>
    obtain ⟨place, _, _, -, -, hurl, -⟩ := Client.request_parts hmade
    rw [← Except.ok.inj hask] at hurl
    obtain ⟨query, hquery, -⟩ := bind_eq_ok.1 hurl
    obtain ⟨hstart, hcount⟩ := Http.Query.fits_of_ints hquery
    exact hcases hstart (hcases hcount hnil)

/-- A method ends as the answer to its request says. -/
theorem outcome_run {m : RemoteMethod} {telemetry : List (Instrument.Concern World)}
    (ht : ∀ c ∈ telemetry, c.Discreet) (hrequest : m.Asks client number request)
    (hopen : Service.Open number s) (hs : Log.Writable s) :
    ((m.run client telemetry).runFrom s).1 = m.outcome request s.world.network.next.1 := by
  have hcomponent : ∀ c ∈ (m.component client telemetry).telemetry, c.Discreet := by
    cases m <;> exact ht
  obtain ⟨labels, hl⟩ := Instrument.references_ok (fits_supplied hrequest)
    (m.supplied.map Prod.fst)
  rw [run_eq]
  unfold Instrument.Component.call
  rw [hl]
  rcases Instrument.Operation.run_transparent
    (Gauge.discreet_concerns hcomponent m.operation) labels (m.body client) s with
    ⟨hw, -⟩ | ⟨s₁, ha, -, ho⟩
  · exact absurd hs hw
  · have hbody := runFrom_body hrequest (hopen.alike ha)
    rw [hbody, ha.world] at ho
    rcases ho with ho | ⟨hw, -⟩
    · exact ho
    · exact absurd (Service.writable_afterSending (hs.alike ha)) hw

/-- Arguments that cannot be referred to are too long. -/
theorem references_error {supplied : List (String × Value)} {names : List String} {f : Failure}
    (h : Instrument.references names supplied = .error f) : Refused f := by
  refine foldlM_error (fun found name e he => ?_) h
  split at he
  · cases he
  · split at he
    · cases he
    · split at he
      · cases he
        exact .value _ _ rfl rfl
      · cases he

/-- A method of whose arguments no request can be made fails for that. -/
theorem outcome_run_refused {m : RemoteMethod} {telemetry : List (Instrument.Concern World)}
    (ht : ∀ c ∈ telemetry, c.Discreet) (hcarrier : client.carrier = .connection number)
    (hmade : ∀ request, ¬ m.Asks client number request) (hs : Log.Writable s) :
    ∃ f, ((m.run client telemetry).runFrom s).1 = .error f ∧ Refused f := by
  have hcomponent : ∀ c ∈ (m.component client telemetry).telemetry, c.Discreet := by
    cases m <;> exact ht
  rw [run_eq]
  unfold Instrument.Component.call
  cases hreferences : Instrument.references (m.supplied.map Prod.fst) m.supplied with
  | error f => exact ⟨f, rfl, references_error hreferences⟩
  | ok labels =>
    cases hrequest : m.ask >>= fun ask => client.request number ask with
    | ok request => exact absurd ⟨hcarrier, hrequest⟩ (hmade request)
    | error f =>
      rcases Instrument.Operation.run_transparent
        (Gauge.discreet_concerns hcomponent m.operation) labels (m.body client) s with
        ⟨hw, -⟩ | ⟨s₁, ha, -, ho⟩
      · exact absurd hs hw
      · obtain ⟨hf, hbody⟩ := runFrom_body_unmade (s := s₁) hcarrier hrequest
        rw [hbody] at ho
        rcases ho with ho | ⟨hw, -⟩
        · exact ⟨f, ho, hf⟩
        · exact absurd (hs.alike ha) hw

theorem outcome_run_unmade {m : RemoteMethod} {telemetry : List (Instrument.Concern World)}
    (ht : ∀ c ∈ telemetry, c.Discreet) (hcarrier : client.carrier = .connection number)
    (hmade : ∀ request, ¬ m.Asks client number request) (hs : Log.Writable s) :
    ∃ f, ((m.run client telemetry).runFrom s).1 = .error f ∧ Unmade f := by
  obtain ⟨f, hf, hrefused⟩ := outcome_run_refused ht hcarrier hmade hs
  exact ⟨f, hf, hrefused.unmade⟩

end RemoteMethod

namespace Service

/-! ## Cases of a call -/

/-- An exchange fails without effects, or a request is made and can be sent. -/
theorem exchange_cases (client : Client) (ask : Ask) (s : Session World) :
    (∃ f, (client.exchange World.networkSlot ask).runFrom s = (.error f, s)) ∨
      ∃ number request, client.carrier = .connection number ∧
        client.request number ask = .ok request ∧ Open number s := by
  unfold Client.exchange
  cases client.carrier with
  | broken kind message => exact .inl ⟨_, rfl⟩
  | connection number =>
    cases hrequest : client.request number ask with
    | error f =>
      refine .inl ⟨f, ?_⟩
      dsimp only
      rw [hrequest]
      rfl
    | ok request =>
      obtain ⟨-, -, -, -, hnumber, -⟩ := Client.request_eq_ok hrequest
      by_cases hopen : Open number s
      · exact .inr ⟨number, request, rfl, hrequest, hopen⟩
      · have hclosed :
            (World.networkSlot.get s.world).closed.contains request.connection = true := by
          rw [hnumber]
          exact List.contains_iff_mem.2 (not_not.1 hopen)
        have hsend : (Http.Network.send World.networkSlot request).runFrom s =
            (.error (.fault .runtimeError
              (some (.text "Cannot send a request, as the client has been closed."))), s) := by
          unfold Http.Network.send
          rw [Flow.runFrom_bind_ok (Flow.runFrom_look _ s), if_pos hclosed]
          rfl
        refine .inl ⟨.fault .runtimeError
          (some (.text "Cannot send a request, as the client has been closed.")), ?_⟩
        dsimp only
        rw [hrequest, Flow.runFrom_bind_ok (Flow.runFrom_ofExcept _ s),
          Flow.runFrom_bind_error hsend]

/-- The body of a method fails without effects, or sends a request and ends as the answer says. -/
theorem body_cases (m : RemoteMethod) (client : Client) (s : Session World) :
    (∃ f, (m.body client).runFrom s = (.error f, s)) ∨
      ∃ number request, m.Asks client number request ∧ (m.body client).runFrom s =
        (m.outcome request s.world.network.next.1, afterSending s request) := by
  cases hask : m.ask with
  | error f =>
    refine .inl ⟨f, ?_⟩
    unfold RemoteMethod.body
    rw [hask]
    rfl
  | ok ask =>
    rcases exchange_cases client ask s with ⟨f, hf⟩ | ⟨number, request, hcarrier, hmade, hopen⟩
    · have hjson : (client.askJson World.networkSlot ask).runFrom s = (.error f, s) :=
        Flow.runFrom_bind_error hf
      have hcall : (Http.Storage.call World.networkSlot client m.operation ask).runFrom s =
          (.error (Http.Storage.explain m.operation f), s) := by
        unfold Http.Storage.call
        rw [Flow.runFrom_ofStep, hjson]
        rfl
      refine .inl ⟨Http.Storage.explain m.operation f, ?_⟩
      unfold RemoteMethod.body
      rw [hask, Flow.runFrom_bind_ok (Flow.runFrom_ofExcept _ s), Flow.runFrom_bind_error hcall]
    · have hasks : m.Asks client number request := ⟨hcarrier, by rw [hask]; exact hmade⟩
      exact .inr ⟨number, request, hasks, RemoteMethod.runFrom_body hasks hopen⟩

end Service

end Stowage
