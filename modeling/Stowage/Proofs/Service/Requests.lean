import Stowage.Proofs.Flow.Laws
import Stowage.Proofs.Value.Entries
import Stowage.Service.Wiring

/-!
What the requests of container operations look like.

A request that changes the data of a container carries a trace identifier and no document
(`Request.isData`). An operation is made final by a request that reports it complete or removes the
record of the container (`Request.completes`). The statements about `Client.request` say which of
these a request is that an adapter makes out.
-/

namespace Stowage

namespace Http

theorem upper_get : Text.upper "GET" = "GET" := by decide

theorem upper_put : Text.upper "PUT" = "PUT" := by decide

theorem upper_post : Text.upper "POST" = "POST" := by decide

theorem upper_delete : Text.upper "DELETE" = "DELETE" := by decide

namespace Request

/-- A request to change the data of a container: it carries a trace identifier and no document. -/
def isData (r : Request) : Bool := r.method != "GET" && r.trace?.isSome && r.body.isNone

/-- A request that makes an operation final: it reports completion, or it removes a record. -/
def completes (r : Request) : Bool :=
  (r.method == "POST" && match r.body.bind (HttpFailure.member? "phase") with
    | some (.text word) => word == Vocabulary.value StagePhase.complete
    | _ => false) ||
  (r.method == "DELETE" && r.trace?.isNone)

/-- A request that is neither about data nor final. -/
def isPlain (r : Request) : Prop := r.isData = false ∧ r.completes = false

end Request

/-! ## Queries -/

namespace Query

theorem valueText_int {i : Int} {t : String} (h : valueText (.int i) = .ok t) :
    t = Decimal.integerText i := by
  change shown (.int i) = .ok t at h
  unfold shown at h
  split at h
  · cases h
  · exact (Except.ok.inj h).symm

theorem group_int {name : String} {i : Int} {pair : String × List String}
    (h : (do
      let name ← shown (.text name)
      let values ← [Value.int i].mapM valueText
      .ok (name, values)) = (.ok pair : Except Failure (String × List String))) :
    pair = (name, [Decimal.integerText i]) := by
  obtain ⟨word, hword, h⟩ := bind_eq_ok.1 h
  obtain ⟨values, hvalues, h⟩ := bind_eq_ok.1 h
  rw [List.mapM_cons, List.mapM_nil] at hvalues
  obtain ⟨t, ht, hvalues⟩ := bind_eq_ok.1 hvalues
  have hname : word = name := (Except.ok.inj hword).symm
  have hlist : values = [t] := (Except.ok.inj hvalues).symm
  rw [← Except.ok.inj h, hname, hlist, valueText_int ht]

/-- The query that two numbers stand for. -/
theorem ofValue_ints {first second : String} (hne : first ≠ second) {a b : Int} {query : Query}
    (h : ofValue (.mapping [(.text first, .int a), (.text second, .int b)]) = .ok query) :
    query = [(first, [Decimal.integerText a]), (second, [Decimal.integerText b])] := by
  obtain ⟨pairs, hpairs, h⟩ := bind_eq_ok.1 h
  simp only [List.map_cons, List.map_nil, List.mapM_cons, List.mapM_nil] at hpairs
  obtain ⟨x, hx, hpairs⟩ := bind_eq_ok.1 hpairs
  obtain ⟨rest, hrest, hpairs⟩ := bind_eq_ok.1 hpairs
  obtain ⟨y, hy, hrest⟩ := bind_eq_ok.1 hrest
  have hrest : rest = [y] := (Except.ok.inj hrest).symm
  have hpairs : pairs = [x, y] := by rw [← hrest]; exact (Except.ok.inj hpairs).symm
  rw [← Except.ok.inj h, hpairs, group_int hx, group_int hy]
  simp [put, hne]

end Query

/-! ## Making out -/

namespace Client

variable {client : Client} {number : Nat} {ask : Ask} {r : Request}

/-- A request that is made out has the parts that were asked for. -/
theorem request_parts (h : client.request number ask = .ok r) : ∃ place given body,
    client.base.resolve ask.url = .ok place ∧ givenHeaders ask = .ok given ∧
      withQuery place ask.query = .ok r.url ∧ bodyOf ask.document = .ok body ∧
      r.connection = number ∧ r.method = Text.upper ask.method ∧ r.body = body ∧
      r.headers = if body.isSome then
        (client.headers.override given).setDefault "Content-Type" "application/json"
      else client.headers.override given := by
  unfold request at h
  obtain ⟨place, hplace, h⟩ := bind_eq_ok.1 h
  obtain ⟨given, hgiven, h⟩ := bind_eq_ok.1 h
  obtain ⟨url, hurl, h⟩ := bind_eq_ok.1 h
  obtain ⟨body, hbody, h⟩ := bind_eq_ok.1 h
  cases h
  exact ⟨place, given, body, hplace, hgiven, hurl, hbody, rfl, rfl, rfl, rfl⟩

/-- A request that is made out is what was asked for. -/
theorem request_eq_ok (h : client.request number ask = .ok r) : ∃ given body,
    givenHeaders ask = .ok given ∧ bodyOf ask.document = .ok body ∧ r.connection = number ∧
      r.method = Text.upper ask.method ∧ r.body = body ∧
      (body = none → r.headers = client.headers.override given) := by
  obtain ⟨-, given, body, -, hgiven, -, hbody, hnumber, hmethod, hb, hheaders⟩ := request_parts h
  refine ⟨given, body, hgiven, hbody, hnumber, hmethod, hb, ?_⟩
  rintro rfl
  exact hheaders

/-- A header that takes the place of others has the value that it is given. -/
theorem get?_override_self (headers : Headers) (name value : String) :
    (headers.override [(name, value)]).get? name = some value := by
  have hothers : ((headers.filter fun h => !([(name, value)].any fun o =>
      Headers.plain o.1 == Headers.plain h.1)).filter fun h =>
        Headers.plain h.1 == Headers.plain name) = [] := by
    refine List.filter_eq_nil_iff.2 fun h hh => ?_
    have hne := (List.mem_filter.1 hh).2
    simp only [List.any_cons, List.any_nil, Bool.or_false, Bool.not_eq_true', beq_eq_false_iff_ne,
      ne_eq] at hne
    simpa using fun heq => hne heq.symm
  unfold Headers.override Headers.get?
  rw [List.filter_append, hothers]
  simp [Text.join]

theorem headerText_eq_ok {s t : String} (h : headerText s = .ok t) : t = s := by
  unfold headerText at h
  split at h
  · exact (Except.ok.inj h).symm
  · cases h

/-- A trace identifier that is asked for is in the headers. -/
theorem givenHeaders_trace {trace : String} {given : Headers} (ht : ask.trace = some trace)
    (hh : ask.headers = .null) (h : givenHeaders ask = .ok given) :
    given = [(traceHeader, trace)] := by
  unfold givenHeaders at h
  rw [ht, hh] at h
  obtain ⟨es, hes, h⟩ := bind_eq_ok.1 h
  cases hes
  have hname : headerText traceHeader = .ok traceHeader := rfl
  change ([(Value.text traceHeader, Value.text trace)].mapM header) = .ok given at h
  rw [List.mapM_cons, List.mapM_nil] at h
  obtain ⟨entry, hentry, h⟩ := bind_eq_ok.1 h
  cases h
  obtain ⟨name, hn, hentry⟩ := bind_eq_ok.1 hentry
  obtain ⟨value, hv, hentry⟩ := bind_eq_ok.1 hentry
  cases hentry
  rw [headerText_eq_ok hv, headerText_eq_ok hn]

/-- A request with a trace identifier and without a document, other than to read, is about data and
is not final. -/
theorem isData_of_trace (h : client.request number ask = .ok r) {trace : String}
    (ht : ask.trace = some trace) (hh : ask.headers = .null) (hd : ask.document = .null)
    (hm : Text.upper ask.method ≠ "GET") : r.isData = true ∧ r.completes = false := by
  obtain ⟨given, body, hgiven, hbody, -, hmethod, hb, hheaders⟩ := request_eq_ok h
  rw [hd] at hbody
  cases hbody
  have htrace : r.trace?.isSome = true := by
    unfold Request.trace?
    rw [hheaders rfl, givenHeaders_trace ht hh hgiven, get?_override_self]
    rfl
  refine ⟨?_, ?_⟩
  · simp [Request.isData, hmethod, hm, htrace, hb]
  · have hnone : r.trace?.isNone = false := by simpa [Option.isNone_iff_eq_none] using htrace
    simp [Request.completes, hb, hnone]

/-- A request with a document is not about data. It is final if it is posted and its phase is that
of completion. -/
theorem isData_of_document (h : client.request number ask = .ok r) {body : Json}
    (hd : bodyOf ask.document = .ok (some body)) (hm : Text.upper ask.method = "POST") :
    r.isData = false ∧ r.completes = match HttpFailure.member? "phase" body with
      | some (.text word) => word == Vocabulary.value StagePhase.complete
      | _ => false := by
  obtain ⟨given, body', hgiven, hbody, -, hmethod, hb, -⟩ := request_eq_ok h
  rw [hd] at hbody
  cases hbody
  refine ⟨by simp [Request.isData, hb], ?_⟩
  have hdelete : ("POST" == "DELETE") = false := by decide
  simp only [Request.completes, hmethod, hm, hb, hdelete, beq_self_eq_true, Bool.true_and,
    Bool.false_and, Bool.or_false, Option.bind_some]

/-- A request to read is neither about data nor final. -/
theorem isPlain_of_get (h : client.request number ask = .ok r)
    (hm : Text.upper ask.method = "GET") : r.isPlain := by
  obtain ⟨-, -, -, -, -, hmethod, -⟩ := request_eq_ok h
  rw [hm] at hmethod
  refine ⟨by simp [Request.isData, hmethod], ?_⟩
  unfold Request.completes
  rw [hmethod]
  rfl

/-- A request to delete without a trace identifier is final. -/
theorem completes_of_delete (h : client.request number ask = .ok r)
    (hc : client.headers = Placement.jsonHeaders) (ht : ask.trace = none)
    (hh : ask.headers = .null) (hd : ask.document = .null)
    (hm : Text.upper ask.method = "DELETE") : r.isData = false ∧ r.completes = true := by
  obtain ⟨given, body, hgiven, hbody, -, hmethod, hb, hheaders⟩ := request_eq_ok h
  rw [hd] at hbody
  cases hbody
  unfold givenHeaders at hgiven
  rw [ht, hh] at hgiven
  cases hgiven
  have htrace : r.trace? = none := by
    unfold Request.trace?
    rw [hheaders rfl, hc]
    decide
  exact ⟨by simp [Request.isData, htrace], by simp [Request.completes, hmethod, hm, htrace]⟩

/-- What asks for no more than a place and a document can be made out, if these can. -/
theorem request_ok {url : Url} {body : Option Json} (hu : client.base.resolve ask.url = .ok url)
    (hb : bodyOf ask.document = .ok body) (ht : ask.trace = none) (hh : ask.headers = .null)
    (hq : ask.query = .null) : ∃ r, client.request number ask = .ok r := by
  unfold request givenHeaders
  rw [hu, hb, ht, hh, hq]
  exact ⟨_, rfl⟩

end Client

end Http

/-! ## Documents -/

/-- The parts of a report make up the report. -/
theorem StageEvent.read_parts (e : StageEvent) :
    StageEvent.read [(.text "subject", .ofMember e.subject), (.text "subject_id", .text e.subjectId),
      (.text "operation", .ofMember e.operation), (.text "phase", .ofMember e.phase)] = .fits e := by
  obtain ⟨subject, subjectId, operation, phase⟩ := e
  unfold read Checked.field
  simp only [Entries.get?_cons]
  cases subject <;> cases operation <;> cases phase <;> rfl

theorem StageEvent.validate_parts (e : StageEvent) :
    Model.validate StageEvent (Placement.mapping [
      ("subject", .ofMember e.subject), ("subject_id", .text e.subjectId),
      ("operation", .ofMember e.operation), ("phase", .ofMember e.phase)]) = .ok e := by
  have hread : Model.check (Placement.mapping [
      ("subject", .ofMember e.subject), ("subject_id", .text e.subjectId),
      ("operation", .ofMember e.operation), ("phase", .ofMember e.phase)]) = .fits e := e.read_parts
  unfold Model.validate
  rw [hread]

/-- The document of a report. -/
theorem StageEvent.bodyOf_dump (e : StageEvent) :
    Http.Client.bodyOf (Model.toValue e).dump = .ok (some (.object [
      ("subject", .text (Vocabulary.value e.subject)), ("subject_id", .text e.subjectId),
      ("operation", .text (Vocabulary.value e.operation)),
      ("phase", .text (Vocabulary.value e.phase))])) := by
  cases e
  rfl

/-- The document of an allocation. -/
theorem Placement.bodyOf_allocation (type : ReplicationType) (factor : ReplicationFactor)
    (owner : String) :
    Http.Client.bodyOf (Placement.mapping [("replication_type", Placement.wordValue type),
      ("replication_factor", Placement.wordValue factor), ("owner", .text owner)]) =
    .ok (some (.object [("replication_type", .text (Vocabulary.value type)),
      ("replication_factor", .text (Vocabulary.value factor)), ("owner", .text owner)])) := rfl

theorem documents_texts (texts : List String) :
    Value.documents (texts.map .text) = .ok (texts.map .text) := by
  induction texts with
  | nil => rfl
  | cons s r ih =>
    rw [List.map_cons, Value.documents, ih]
    simp [Value.document, bind, Except.bind]

/-- The document that makes a pipeline real. -/
theorem Datanode.bodyOf_pipeline (name : String) (members : List String) :
    Http.Client.bodyOf (.mapping [(.text "pipeline_name", .text name),
      (.text "members", .list (members.map .text))]) =
    .ok (some (.object [("pipeline_name", .text name),
      ("members", .list (members.map .text))])) := by
  unfold Http.Client.bodyOf
  simp only [Value.document, Value.memberDocuments, documents_texts, Value.wireKey, bind,
    Except.bind, Except.map]
  rfl

end Stowage
