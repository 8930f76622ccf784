import Stowage.Proofs.Command.Printed
import Stowage.Proofs.Service.Confirmed
import Stowage.Proofs.Service.Remote

/-!
Models on the wire.

`Model.RoundTrips` says that instances of a model survive being written and read: as documents, in
requests and in what commands print. All six models do (`wire_models_round_trip`), and the nodes
that a query is answered with are those that a replication pipeline is asked for with.
-/

namespace Stowage

/-! ## Round trips -/

/-- Instances survive being written and read, up to `same` where the members of objects are
sorted. -/
structure Model.RoundTrips (α : Type) [Model α] (same : α → α → Prop) : Prop where
  /-- The document of an instance describes the instance. -/
  dumped : ∀ a : α, ∃ j, (Model.toValue a).serialize = .ok j ∧ j.Describes a
  /-- Whatever is accepted has a canonical form, which is accepted and has itself as its form. -/
  canonical : ∀ (v : Value) (a : α), Model.check v = .fits a →
    ∃ j, (Model.toValue a).serialize = .ok j ∧
      ∃ b : α, j.Describes b ∧ (Model.toValue b).serialize = .ok j
  /-- What is sent in a request is the document of the instance. -/
  sent : ∀ a : α, (Model.toValue a).isOverlong = false →
    (Model.toValue a).dump.document = (Model.toValue a).serialize
  /-- What is printed is read back as the instance. -/
  printed : ∀ (asJson : Bool) (a : α), (Model.toValue a).isOverlong = false →
    ∃ text j b, Command.output asJson (Model.toValue a) = .ok text ∧ Json.read text = .ok j ∧
      j.Describes b ∧ same b a
  /-- A list that is printed is read back item by item. -/
  listed : ∀ (asJson : Bool) (as : List α), (∀ a ∈ as, (Model.toValue a).isOverlong = false) →
    ∃ text js bs, Command.output asJson (.list (as.map Model.toValue)) = .ok text ∧
      Json.read text = .ok (.list js) ∧ List.Forall₂ Json.Describes js bs ∧ List.Forall₂ same bs as

namespace Model.RoundTrips

/-- It is enough that the documents of instances describe them, in any order of members. -/
theorem of_written {α : Type} [Model α] {same : α → α → Prop} {wire : α → Json}
    (arranged : Json.Style → α → α) (hwritten : ∀ a, (Model.toValue a).Written (wire a))
    (hdescribes : ∀ style a, ((wire a).arranged style).Describes (arranged style a))
    (hplain : ∀ a, Command.plainText (wire a) = (wire a).write .indented)
    (hunsorted : ∀ a, arranged .spaced a = a) (hsame : ∀ style a, same (arranged style a) a) :
    RoundTrips α same where
  dumped a := by
    have h := hdescribes .spaced a
    rw [Json.arranged_of_unsorted rfl, hunsorted] at h
    exact ⟨wire a, (hwritten a).toJson false, h⟩
  canonical _ a _ := by
    have h := hdescribes .spaced a
    rw [Json.arranged_of_unsorted rfl, hunsorted] at h
    exact ⟨wire a, (hwritten a).toJson false, a, h, (hwritten a).toJson false⟩
  sent a hover := ((hwritten a).document hover).trans ((hwritten a).toJson false).symm
  printed asJson a hover := by
    obtain ⟨text, htext, hread⟩ := Command.read_output asJson (hwritten a) hover (hplain a)
    exact ⟨text, _, _, htext, hread, hdescribes _ a, hsame _ a⟩
  listed asJson as hover := by
    have hlist := Value.Written.list hwritten as
    have hover : (Value.list (as.map Model.toValue)).isOverlong = false :=
      Value.Written.anyOverlong_eq_false.2 (List.forall_mem_map.2 hover)
    obtain ⟨text, htext, hread⟩ := Command.read_output asJson hlist hover rfl
    rw [Json.arranged, Json.arrangedItems_eq_map, List.map_map] at hread
    refine ⟨text, _, as.map (arranged (Command.shownStyle asJson)), htext, hread, ?_, ?_⟩
    · rw [List.forall₂_map_left_iff, List.forall₂_map_right_iff, List.forall₂_same]
      exact fun a _ => hdescribes _ a
    · rw [List.forall₂_map_left_iff, List.forall₂_same]
      exact fun a _ => hsame _ a

end Model.RoundTrips

/-- Two snapshots are the same but for the order of their metadata. -/
structure ContainerData.Same (d e : ContainerData) : Prop where
  fields : { d with metadata := e.metadata } = e
  metadata : d.metadata.entries.Perm e.metadata.entries

theorem ContainerData.same_arranged (style : Json.Style) (d : ContainerData) :
    (d.arranged style).Same d where
  fields := rfl
  metadata := by
    have hperm := @Json.inOrder_perm style _ d.metadata.entries
    have hnodup : ((Json.inOrder style d.metadata.entries).map Prod.fst).Nodup :=
      (hperm.map Prod.fst).nodup_iff.2 d.metadata.nodup
    unfold arranged
    rw [Labels.entries_ofList hnodup]
    exact hperm

/-- A model whose documents describe their instance in any order of members. -/
theorem Model.RoundTrips.of_unordered {α : Type} [Model α] {wire : α → Json}
    (hwritten : ∀ a, (Model.toValue a).Written (wire a))
    (hdescribes : ∀ a style, ((wire a).arranged style).Describes a)
    (hplain : ∀ a, Command.plainText (wire a) = (wire a).write .indented) :
    Model.RoundTrips α Eq :=
  .of_written (fun _ a => a) hwritten (fun style a => hdescribes a style) hplain (fun _ => rfl)
    fun _ _ => rfl

theorem ContainerData.roundTrips : Model.RoundTrips ContainerData Same :=
  .of_written (fun style d => d.arranged style) written (fun style d => d.describes_arranged style)
    (fun _ => rfl) (fun d => d.arranged_of_unsorted rfl) same_arranged

/-- The result of a command that shows a container. -/
def Command.shown (record : ContainerRecord) (data : ContainerData) : Value :=
  .mapping [(.text "record", Model.toValue record), (.text "container_data", Model.toValue data)]

theorem Command.nodup_shown : ["record", "container_data"].Nodup := by decide

theorem Command.written_shown (record : ContainerRecord) (data : ContainerData) :
    (shown record data).Written
      (.object [("record", record.wire), ("container_data", data.wire)]) := by
  have hwritten : Value.Written (.mapping (Model.entries [("record", Model.toValue record),
      ("container_data", Model.toValue data)]))
      (.object [("record", record.wire), ("container_data", data.wire)]) :=
    .mapping (.cons ⟨rfl, record.written⟩ (.cons ⟨rfl, data.written⟩ .nil)) nodup_shown
  exact hwritten

theorem Command.isOverlong_shown {record : ContainerRecord} {data : ContainerData}
    (hrecord : (Model.toValue record).isOverlong = false)
    (hdata : (Model.toValue data).isOverlong = false) :
    (shown record data).isOverlong = false := by
  have hover : (Value.mapping (Model.entries [("record", Model.toValue record),
      ("container_data", Model.toValue data)])).isOverlong = false := by
    refine Value.Written.anyEntryOverlong_entries.2 fun f hf => ?_
    simp only [List.mem_cons, List.not_mem_nil, or_false] at hf
    rcases hf with rfl | rfl
    · exact hrecord
    · exact hdata
  exact hover

/-- The result of a command that shows a container is read back as its parts. -/
theorem Command.read_info (asJson : Bool) {record : ContainerRecord} {data : ContainerData}
    (hrecord : (Model.toValue record).isOverlong = false)
    (hdata : (Model.toValue data).isOverlong = false) :
    ∃ text members j k, ∃ shown : ContainerData,
      Command.output asJson (.mapping [(.text "record", Model.toValue record),
        (.text "container_data", Model.toValue data)]) = .ok text ∧
      Json.read text = .ok (.object members) ∧
      members.lookup "record" = some j ∧ j.Describes record ∧
      members.lookup "container_data" = some k ∧ k.Describes shown ∧ shown.Same data := by
  have hkeys : [("record", record.wire), ("container_data", data.wire)].map Prod.fst =
    ["record", "container_data"] := rfl
  obtain ⟨text, htext, hread⟩ := Command.read_output asJson (written_shown record data)
    (isOverlong_shown hrecord hdata) rfl
  exact ⟨text, _, _, _, data.arranged (shownStyle asJson), htext, hread,
    Json.lookup_arrangement hkeys nodup_shown rfl rfl, record.describes_arranged _,
    Json.lookup_arrangement hkeys nodup_shown rfl rfl, data.describes_arranged _,
    data.same_arranged _⟩

/-! ## Nodes that are queried and asked for -/

namespace Service

open Http (Request Answer Client Ask)

variable {script : List Answer} {start number : Nat} {calm : Prop} {client : Client}
  {telemetry : List (Instrument.Concern World)}

/-- An instance that is told is the one that the document of the one answer describes. -/
def Told {α : Type} [Model α] (o : Except Failure α) (more : List Sending) : Prop :=
  ∀ a, o = .ok a → ∃ request packed response document,
    more = [(request, .response packed)] ∧ Client.unpacked request packed = .ok response ∧
      Client.documentOf request response = .ok document ∧ document.Describes a

theorem told_error {α : Type} [Model α] (f : Failure) (more : List Sending) :
    Told (.error f : Except Failure α) more := by
  intro a h
  cases h

theorem adds_fetch {α : Type} [Model α] (operation : String) (ask : Ask)
    (hcheck : ask.checkStatus = true) :
    (sent script start number calm).Adds
      ((placementOver client telemetry).fetch α operation ask) Told := by
  refine .bind (adds_call_document client operation ask hcheck) (fun f more _ => told_error f more)
    fun document more hmore => .ofExcept fun a ha => ?_
  obtain ⟨request, packed, response, rfl, hunpacked, hdocument⟩ := hmore document rfl
  refine ⟨request, packed, response, document, rfl, hunpacked, hdocument, ?_⟩
  unfold Http.Storage.decode at ha
  unfold Json.Describes
  cases hc : (Model.check document.toValue : Checked α) with
  | faulty issues =>
    rw [hc] at ha
    cases ha
  | fits b =>
    rw [hc] at ha
    rw [Except.ok.inj ha]

theorem adds_queryNodes (ht : ∀ c ∈ telemetry, c.Discreet) (states : List NodeState)
    (scope : QueryScope) (pool : String) :
    (sent script start number calm).Adds
      ((placementOver client telemetry).queryNodes states scope pool) Told := by
  refine .mono (.call (adds_fetch _ _ rfl) ht _ fun e he => ?_) fun o more h => ?_
  · rw [List.mem_singleton.1 he]
    rfl
  · rcases h with h | ⟨-, ⟨f, rfl⟩, -⟩
    · exact h
    · exact told_error f more

/-- A pipeline over nodes is asked for once at most, with the document of the nodes, and it is
asked for if all is calm. -/
structure AskedFor (type : ReplicationType) (factor : ReplicationFactor) (nodes : NodePool)
    (calm : Prop) (more : List Sending) : Prop where
  once : more.length ≤ 1
  body : ∀ e ∈ more, ∃ j, (Model.toValue nodes).serialize = .ok j ∧
    e.1.body = some (replicationBody type factor j)
  sent : calm → more ≠ []

theorem adds_replicate (ht : ∀ c ∈ telemetry, c.Discreet) (type : ReplicationType)
    (factor : ReplicationFactor) (nodes : NodePool)
    (hcarrier : calm → client.carrier = .connection number)
    (hmade : calm → ∃ url, client.base.resolve "/pipelines" = .ok url) :
    (sent script start number calm).Adds
      ((placementOver client telemetry).replicate type factor nodes)
      fun _ more => AskedFor type factor nodes calm more := by
  have hbody := bodyOf_replication type factor nodes
  have hask : (sent script start number calm).Adds
      (Http.Storage.call World.networkSlot client "create_replication_pipeline"
        (replicationAsk type factor nodes))
      fun _ more => AskedFor type factor nodes calm more := by
    refine .mono (adds_call client _ _ rfl) fun o more h => ?_
    cases h with
    | unsent f hn =>
      refine ⟨Nat.zero_le 1, List.forall_mem_nil _, fun hc => ?_⟩
      obtain ⟨url, hurl⟩ := hmade hc
      obtain ⟨request, hrequest⟩ : ∃ request,
          client.request number (replicationAsk type factor nodes) = .ok request :=
        Client.request_ok hurl hbody rfl rfl rfl
      exact absurd hrequest (hn hc (hcarrier hc) request)
    | sent other request answer _ hrequest =>
      refine ⟨Nat.le_refl 1, fun e he => ?_, fun _ => List.cons_ne_nil _ _⟩
      obtain ⟨_, _, body, -, -, -, hb, -, -, hr, -⟩ := Client.request_parts hrequest
      refine ⟨nodes.wire, nodes.written.toJson false, ?_⟩
      rw [List.mem_singleton.1 he, hr, ← Except.ok.inj (hbody.symm.trans hb)]
  refine .mono (.call (P := fun _ more => AskedFor type factor nodes calm more)
    (.last (R := fun _ more => AskedFor type factor nodes calm more) (fun _ h => h) hask
      fun _ => .ofExcept rfl) ht _ (List.forall_mem_nil _)) fun o more h => h.of_list fun hn => ?_
  exact ⟨Nat.zero_le 1, List.forall_mem_nil _, fun hc => absurd hc hn⟩

/-- What holds when nothing has been sent. -/
theorem sent_start (x : Session World) (hcalm : calm → Calm number x) :
    (sent x.world.network.answers x.requests.length number calm).holds x :=
  ⟨Nat.le_refl _, by rw [Nat.sub_self, List.drop_zero], hcalm⟩

/-- The nodes that a query gives are those of its one answer. -/
theorem told_queryNodes (ht : ∀ c ∈ telemetry, c.Discreet) {states : List NodeState}
    {scope : QueryScope} {pool : String} {nodes : NodePool} {s t : Session World}
    (h : ((placementOver client telemetry).queryNodes states scope pool).runFrom s =
      (.ok nodes, t)) : Told (.ok nodes) (sentSince s t) := by
  have hadds : (sent s.world.network.answers s.requests.length 0 False).Adds
      ((placementOver client telemetry).queryNodes states scope pool) Told :=
    adds_queryNodes ht states scope pool
  have htold := sentSince_of_addsAt (hadds.addsAt (sent_start s False.elim))
  rwa [h] at htold

/-- A pipeline is asked for with the document of its nodes. -/
theorem askedFor_replicate (ht : ∀ c ∈ telemetry, c.Discreet) (number : Nat)
    (type : ReplicationType) (factor : ReplicationFactor) (nodes : NodePool) (t : Session World) :
    AskedFor type factor nodes
      (Calm number t ∧ client.carrier = .connection number ∧
        ∃ url, client.base.resolve "/pipelines" = .ok url)
      (sentSince t
        (((placementOver client telemetry).replicate type factor nodes).runFrom t).2) := by
  generalize hcalm : (Calm number t ∧ client.carrier = .connection number ∧
    ∃ url, client.base.resolve "/pipelines" = .ok url) = calm
  have hadds : (sent t.world.network.answers t.requests.length number calm).Adds
      ((placementOver client telemetry).replicate type factor nodes)
      fun _ more => AskedFor type factor nodes calm more := by
    subst hcalm
    exact adds_replicate ht type factor nodes (fun hc => hc.2.1) fun hc => hc.2.2
  refine sentSince_of_addsAt (hadds.addsAt (sent_start t fun hc => ?_))
  subst hcalm
  exact hc.1

end Service

/-- **The wire models round-trip.** For each model, instances survive being dumped, sent and
printed, and whatever is accepted has a canonical form. The nodes that a query gives are those that
the document of its one answer describes, and a pipeline over them is asked for with their
document, which is sent if the connection is open. What is printed of a container gives back its
record. -/
theorem wire_models_round_trip :
    Model.RoundTrips Pipeline Eq ∧ Model.RoundTrips ContainerRecord Eq ∧
    Model.RoundTrips ContainerData ContainerData.Same ∧ Model.RoundTrips StageEvent Eq ∧
    Model.RoundTrips NodeInfo Eq ∧ Model.RoundTrips NodePool Eq ∧
    (∀ (client : Http.Client) (telemetry : List (Instrument.Concern World))
        (states : List NodeState) (scope : QueryScope) (pool : String) (nodes : NodePool)
        (s t : Session World), (∀ c ∈ telemetry, c.Discreet) →
      ((Service.placementOver client telemetry).queryNodes states scope pool).runFrom s =
        (.ok nodes, t) →
      Service.Told (.ok nodes) (Service.sentSince s t) ∧
        ∀ (number : Nat) (type : ReplicationType) (factor : ReplicationFactor),
          Service.AskedFor type factor nodes
            (Service.Calm number t ∧ client.carrier = .connection number ∧
              ∃ url, client.base.resolve "/pipelines" = .ok url)
            (Service.sentSince t
              (((Service.placementOver client telemetry).replicate type factor
                nodes).runFrom t).2)) ∧
    ∀ (asJson : Bool) (record : ContainerRecord) (data : ContainerData),
      (Model.toValue record).isOverlong = false → (Model.toValue data).isOverlong = false →
      ∃ text members j k, ∃ shown : ContainerData,
        Command.output asJson (.mapping [(.text "record", Model.toValue record),
          (.text "container_data", Model.toValue data)]) = .ok text ∧
        Json.read text = .ok (.object members) ∧
        members.lookup "record" = some j ∧ j.Describes record ∧
        members.lookup "container_data" = some k ∧ k.Describes shown ∧ shown.Same data := by
  refine ⟨.of_unordered Pipeline.written Pipeline.describes_arranged fun _ => rfl,
    .of_unordered ContainerRecord.written ContainerRecord.describes_arranged fun _ => rfl,
    ContainerData.roundTrips,
    .of_unordered StageEvent.written StageEvent.describes_arranged fun _ => rfl,
    .of_unordered NodeInfo.written NodeInfo.describes_arranged fun _ => rfl,
    .of_unordered NodePool.written NodePool.describes_arranged fun _ => rfl, ?_,
    fun asJson _ _ => Command.read_info asJson⟩
  intro client telemetry states scope pool nodes s t ht hquery
  exact ⟨Service.told_queryNodes ht hquery, fun number type factor =>
    Service.askedFor_replicate ht number type factor nodes t⟩

/-- A session in which one connection is open, and the network answers with documents. -/
def Service.answeringWith (documents : List String) : Session World where
  world := {
    network := {
      answers := documents.map fun text =>
        .response { status := 200, body := text.toList.map Char.toNat }
      opened := 1 }
    traceOf := fun _ => "t" }

/-- A rack of one node is queried, and a pipeline over it is asked for. A container on that node is
printed. -/
theorem wire_models_round_trip_rack :
    let telemetry : List (Instrument.Concern World) := []
    let placement := Service.placementOver Service.placementClient telemetry
    let s := Service.answeringWith
      ["\x7b\"name\": \"rack\", \"nodes\": [\x7b\"address\": \"n1:9859\"\x7d]\x7d"]
    let query := (placement.queryNodes [.healthy] .cluster "rack").runFrom s
    let nodes : NodePool := ⟨"rack", [⟨"n1:9859", .healthy⟩]⟩
    let pipeline : Pipeline :=
      ⟨some "p1", ["n1:9859"], "n1:9859", .opened, .standAlone, .one, by decide⟩
    let record : ContainerRecord := ⟨7, pipeline, .opened, 0, 0, 0, "om"⟩
    let data : ContainerData := ⟨7, .opened, 0, 0, 0, "", "", "", .ofList [("b", "2"), ("a", "1")]⟩
    (∀ c ∈ telemetry, c.Discreet) ∧ query = (.ok nodes, query.2) ∧
      (Model.toValue record).isOverlong = false ∧ (Model.toValue data).isOverlong = false ∧
      Service.Told (.ok nodes) (Service.sentSince s query.2) ∧
      ∃ text members, Json.read text = .ok (.object members) ∧
        ∃ j, members.lookup "record" = some j ∧ j.Describes record := by
  intro telemetry placement s query nodes pipeline record data
  have ht : ∀ c ∈ telemetry, c.Discreet := List.forall_mem_nil _
  have houtcome : query.1.toOption = some nodes := by decide +kernel
  have hquery : query = (.ok nodes, query.2) := Prod.ext (eq_ok_of_toOption houtcome) rfl
  have hrecord : (Model.toValue record).isOverlong = false := by decide +kernel
  have hdata : (Model.toValue data).isOverlong = false := by decide +kernel
  obtain ⟨-, -, -, -, -, -, hnodes, hinfo⟩ := wire_models_round_trip
  obtain ⟨htold, -⟩ := hnodes Service.placementClient telemetry [.healthy] .cluster "rack" nodes s
    query.2 ht hquery
  obtain ⟨text, members, j, _, _, -, hread, hj, hdescribes, -⟩ :=
    hinfo true record data hrecord hdata
  exact ⟨ht, hquery, hrecord, hdata, htold, text, members, hread, j, hj, hdescribes⟩

end Stowage
