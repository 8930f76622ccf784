import Stowage.Proofs.Service.Classified

/-!
Whatever the adapters give can be written.

A document that is read holds no integer that is too long to be written, and no other form in which
an integer may come spells one (`Checked.isOverlong_integer`). So records and snapshots hold none,
whatever document they are read off (`ContainerRecord.fits_of_describes`,
`ContainerData.fits_of_describes`), and a method of an adapter never gives one that cannot be
printed or logged (`RemoteMethod.fits_of_ok`). This is what `Collaborators.Orderly` takes for
granted of containers that are allocated. The operations of the service pass on what they are given
(`Flow.Gives`).
-/

namespace Stowage

open Http (Request Answer Client)

variable {α β : Type}

namespace Checked

/-! ## Integers -/

/-- A literal is read as an integer only if it has few enough digits. -/
theorem isOverlong_plainInteger? {cs : List Char} {i : Int} (h : plainInteger? cs = some i) :
    Decimal.isOverlong i = false := by
  unfold plainInteger? at h
  split at h
  rename_i negative digits _
  split at h
  · rename_i hplain
    simp only [Bool.and_eq_true, decide_eq_true_eq, List.all_eq_true] at hplain
    obtain ⟨⟨⟨-, hdigits⟩, -⟩, hlength⟩ := hplain
    rw [← Option.some.inj h]
    refine Decimal.isOverlong_ofDigits (fun d hd => ?_) (by rwa [List.length_map]) negative
    obtain ⟨c, hc, rfl⟩ := List.mem_map.1 hd
    have hle : c.toNat ≤ 57 := by
      have hdigit := hdigits c hc
      simp only [Char.isDigit, Bool.and_eq_true, decide_eq_true_eq] at hdigit
      exact hdigit.2
    omega
  · cases h

theorem isOverlong_integerLiteral {s : String} {i : Int} (h : integerLiteral s = .fits i) :
    Decimal.isOverlong i = false := by
  unfold integerLiteral at h
  split at h
  · cases h
  · split at h
    · rename_i found hfound
      cases h
      obtain ⟨cs, -, hplain⟩ := Option.bind_eq_some_iff.1 hfound
      exact isOverlong_plainInteger? hplain
    · cases h

/-- The integers of 64 bits can all be written. -/
theorem isOverlong_of_word {i : Int} (hlow : -wordBound < i) (hhigh : i < wordBound) :
    Decimal.isOverlong i = false := by
  have hnineteen : i.natAbs < 10 ^ 19 := by
    unfold wordBound at hlow hhigh
    omega
  have hmost : 19 ≤ Decimal.maxDigits := by decide
  rw [Decimal.isOverlong, decide_eq_false_iff_not, Nat.not_le]
  -- the bound is kept from being evaluated
  generalize Decimal.maxDigits = most at hmost ⊢
  exact Nat.lt_of_lt_of_le hnineteen (Nat.pow_le_pow_right (by decide) hmost)

theorem isOverlong_integerOfDouble {x : Double} {i : Int} (h : integerOfDouble x = .fits i) :
    Decimal.isOverlong i = false := by
  unfold integerOfDouble at h
  split at h
  · cases h
  · split at h
    · cases h
    · split at h
      · rename_i hbounds
        cases h
        exact isOverlong_of_word hbounds.1 hbounds.2
      · cases h

/-- An integer that is read off a document can be written if those in the document can. -/
theorem isOverlong_integer {j : Json} {i : Int} (hj : j.isOverlong = false)
    (h : integer j.toValue = .fits i) : Decimal.isOverlong i = false := by
  cases j with
  | null | list | object => cases h
  | bool b =>
    cases h
    cases b <;> exact isOverlong_of_word (by decide) (by decide)
  | int i =>
    cases h
    exact hj
  | float x => exact isOverlong_integerOfDouble h
  | text s => exact isOverlong_integerLiteral h

theorem isOverlong_natural {j : Json} {n : Nat} (hj : j.isOverlong = false)
    (h : natural j.toValue = .fits n) : Decimal.isOverlong n = false := by
  unfold natural at h
  cases hinteger : integer j.toValue with
  | faulty issues =>
    rw [hinteger] at h
    cases h
  | fits i =>
    rw [hinteger] at h
    simp only [andThen] at h
    split at h
    · rename_i hsign
      cases h
      rw [Int.toNat_of_nonneg hsign]
      exact isOverlong_integer hj hinteger
    · cases h

/-! ## Fields -/

/-- A field that is an integer can be written if those in the document can. If it may be left out
it counts as 0 then. -/
theorem isOverlong_field {members : List (String × Json)} {name : String} {absent : Option Nat}
    {n : Nat} (hmembers : Json.anyMemberOverlong members = false) (habsent : absent.getD 0 = 0)
    (h : field (Json.toEntries members) name natural absent = .fits n) :
    Decimal.isOverlong n = false := by
  unfold field at h
  rw [Json.get?_toEntries] at h
  cases hlookup : members.lookup name with
  | none =>
    rw [hlookup] at h
    cases absent with
    | none => cases h
    | some a =>
      cases h
      rw [show n = 0 from habsent]
      exact isOverlong_of_word (by decide) (by decide)
  | some j =>
    rw [hlookup] at h
    have hj := Json.isOverlong_of_lookup hmembers hlookup
    cases hnatural : natural j.toValue with
    | faulty issues =>
      simp only [Option.map_some, hnatural, within] at h
      cases h
    | fits a =>
      simp only [Option.map_some, hnatural, within] at h
      cases h
      exact isOverlong_natural hj hnatural

end Checked

/-! ## Models -/

theorem Pipeline.fits (p : Pipeline) : (Model.toValue p).isOverlong = false := by
  refine Value.Written.anyFieldOverlong_eq_false.2 ?_
  simp only [Model.fields, List.forall_mem_cons]
  refine ⟨?_, ?_, rfl, rfl, rfl, rfl, List.forall_mem_nil _⟩
  · cases p.name <;> rfl
  · exact Value.Written.anyOverlong_eq_false.2 (List.forall_mem_map.2 fun _ _ => rfl)

/-- A record that is read off a document can be written. -/
theorem ContainerRecord.fits_of_describes {j : Json} {r : ContainerRecord}
    (hj : j.isOverlong = false) (h : j.Describes r) : (Model.toValue r).isOverlong = false := by
  obtain ⟨members, rfl, h⟩ := h.exists_members
  have hmembers : Json.anyMemberOverlong members = false := hj
  change ContainerRecord.read (Json.toEntries members) = _ at h
  unfold ContainerRecord.read at h
  simp only [Checked.seqLeft_eq_fits, Checked.seq_eq_fits, Checked.map_eq_fits] at h
  obtain ⟨⟨_, ⟨_, ⟨_, ⟨_, ⟨_, ⟨_, ⟨id, hid, rfl⟩, pipeline, -, rfl⟩, state, -, rfl⟩,
    allocated, hallocated, rfl⟩, used, hused, rfl⟩, count, hcount, rfl⟩, owner, -, rfl⟩, -⟩ := h
  refine Value.Written.anyFieldOverlong_eq_false.2 ?_
  change ∀ f ∈ [("container_id", Value.int id), ("pipeline", Model.toValue pipeline),
    ("state", .ofMember state), ("allocated_bytes", .int allocated), ("used_bytes", .int used),
    ("number_of_keys", .int count), ("owner", .text owner)], f.2.isOverlong = false
  simp only [List.forall_mem_cons]
  exact ⟨Checked.isOverlong_field hmembers rfl hid, pipeline.fits, rfl,
    Checked.isOverlong_field hmembers rfl hallocated,
    Checked.isOverlong_field hmembers rfl hused,
    Checked.isOverlong_field hmembers rfl hcount, rfl, List.forall_mem_nil _⟩

/-- A snapshot that is read off a document can be written. -/
theorem ContainerData.fits_of_describes {j : Json} {d : ContainerData}
    (hj : j.isOverlong = false) (h : j.Describes d) : (Model.toValue d).isOverlong = false := by
  obtain ⟨members, rfl, h⟩ := h.exists_members
  have hmembers : Json.anyMemberOverlong members = false := hj
  change ContainerData.read (Json.toEntries members) = _ at h
  unfold ContainerData.read at h
  simp only [Checked.seqLeft_eq_fits, Checked.seq_eq_fits, Checked.map_eq_fits] at h
  obtain ⟨⟨_, ⟨_, ⟨_, ⟨_, ⟨_, ⟨_, ⟨_, ⟨_, ⟨id, hid, rfl⟩, state, -, rfl⟩, size, hsize, rfl⟩,
    used, hused, rfl⟩, count, hcount, rfl⟩, path, -, rfl⟩, db, -, rfl⟩, hash, -, rfl⟩,
    metadata, -, rfl⟩, -⟩ := h
  have hlabels : (Value.mapping (metadata.entries.map fun e => (.text e.1, .text e.2))).isOverlong =
      false := by
    rw [Value.isOverlong]
    induction metadata.entries with
    | nil => rfl
    | cons e r ih => exact ih
  refine Value.Written.anyFieldOverlong_eq_false.2 ?_
  change ∀ f ∈ [("container_id", Value.int id), ("state", .ofMember state),
    ("size_bytes", .int size), ("bytes_used", .int used), ("key_count", .int count),
    ("container_path", .text path), ("db_path", .text db), ("hash", .text hash),
    ("metadata", .mapping (metadata.entries.map fun e => (.text e.1, .text e.2)))],
    f.2.isOverlong = false
  simp only [List.forall_mem_cons]
  exact ⟨Checked.isOverlong_field hmembers rfl hid, rfl,
    Checked.isOverlong_field hmembers rfl hsize,
    Checked.isOverlong_field hmembers rfl hused,
    Checked.isOverlong_field hmembers rfl hcount, rfl, rfl, rfl, hlabels,
    List.forall_mem_nil _⟩

/-! ## Methods -/

/-- What ends well in a call is its body. -/
theorem Instrument.Component.exists_of_call_ok {c : Instrument.Component World} {name : String}
    {supplied : List (String × Value)} {body : Flow World α} {s : Session World} {a : α}
    (h : ((c.call name supplied body).runFrom s).1 = .ok a) :
    ∃ t, (body.runFrom t).1 = .ok a := by
  have hrun : (c.call name supplied body).runFrom s =
      (.ok a, ((c.call name supplied body).runFrom s).2) := Prod.ext h rfl
  unfold Instrument.Component.call Instrument.Operation.run at hrun
  obtain ⟨labels, s₁, -, hrun⟩ := Flow.exists_of_bind_ok hrun
  obtain ⟨_, t, -, hrun⟩ := Flow.exists_of_bind_ok hrun
  obtain ⟨outcome, u, hbody, hrun⟩ := Flow.exists_of_bind_ok hrun
  have hfinish : outcome = .ok a := by
    split at hrun
    · obtain ⟨_, _, -, hrun⟩ := Flow.exists_of_bind_ok hrun
      obtain ⟨_, _, -, hrun⟩ := Flow.exists_of_bind_ok hrun
      exact (Prod.ext_iff.1 hrun).1
    · exact (Prod.ext_iff.1 hrun).1
  rw [Flow.runFrom_attempt] at hbody
  obtain ⟨houtcome, -⟩ := Prod.ext_iff.1 hbody
  exact ⟨t, (Except.ok.inj houtcome).trans hfinish⟩

namespace RemoteMethod

open Service

/-- What a method gives can be written. -/
def Fits : (m : RemoteMethod) → m.Result → Prop
  | .allocate .., record | .getRecord .., record => (Model.toValue record).isOverlong = false
  | .listRecords .., records => ∀ record ∈ records, (Model.toValue record).isOverlong = false
  | .readData .., data => (Model.toValue data).isOverlong = false
  | .queryNodes .., nodes => (Model.toValue nodes).isOverlong = false
  | .replicate .., pipeline => (Model.toValue pipeline).isOverlong = false
  | .notify .., _ | .deleteRecord .., _ | .createData .., _ | .deleteData .., _
  | .closeData .., _ | .createPipeline .., _ => True

theorem isOverlong_of_member {document found : Json} {key : String}
    (hdocument : document.isOverlong = false)
    (h : HttpFailure.member? key document = some found) : found.isOverlong = false := by
  cases document with
  | object members => exact Json.isOverlong_of_lookup hdocument h
  | _ => cases h

theorem fits_of_holds {m : RemoteMethod} {document : Json} {result : m.Result}
    (hdocument : document.isOverlong = false) (h : Holds m document result) : m.Fits result := by
  cases m with
  | allocate | getRecord => exact ContainerRecord.fits_of_describes hdocument h
  | listRecords =>
    obtain ⟨items, hitems, hall⟩ := h
    have hfits : ∀ j ∈ items, j.isOverlong = false :=
      Json.anyOverlong_eq_false.1 (isOverlong_of_member hdocument hitems)
    clear hitems
    induction hall with
    | nil => exact List.forall_mem_nil _
    | @cons j record _ _ hj _ ih =>
      obtain ⟨hfirst, hrest⟩ := List.forall_mem_cons.1 hfits
      exact List.forall_mem_cons.2 ⟨ContainerRecord.fits_of_describes hfirst hj, ih hrest⟩
  | queryNodes => exact fits_nodes result
  | replicate => exact result.fits
  | readData =>
    obtain ⟨found, hfound, hdescribes⟩ := h
    exact ContainerData.fits_of_describes (isOverlong_of_member hdocument hfound) hdescribes
  | notify | deleteRecord | createData | deleteData | closeData | createPipeline => trivial

theorem isOverlong_documentFrom {request : Request} {answer : Answer} {document : Json}
    {explain : Failure → Failure}
    (h : (Client.documentFrom request answer).mapError explain = .ok document) :
    document.isOverlong = false := by
  cases hdocument : Client.documentFrom request answer with
  | error f =>
    rw [hdocument] at h
    cases h
  | ok found =>
    rw [hdocument] at h
    cases h
    obtain ⟨response, -, hdocument⟩ := bind_eq_ok.1 hdocument
    rcases documentOf_eq_ok.1 hdocument with ⟨-, rfl⟩ | ⟨-, hbody⟩
    · rfl
    · exact isOverlong_json hbody

/-- **What an adapter gives can be written.** Whatever a method is answered, no integer in what it
gives is too long. -/
theorem fits_of_ok {m : RemoteMethod} {client : Client}
    {telemetry : List (Instrument.Concern World)} {s : Session World} {result : m.Result}
    (h : ((m.run client telemetry).runFrom s).1 = .ok result) : m.Fits result := by
  rw [run_eq] at h
  obtain ⟨t, hbody⟩ := Instrument.Component.exists_of_call_ok h
  rcases body_cases m client t with ⟨f, hf⟩ | ⟨number, request, -, hrun⟩
  · rw [hf] at hbody
    cases hbody
  rw [hrun] at hbody
  obtain ⟨document, hdocument, hdecode⟩ := bind_eq_ok.1 hbody
  exact fits_of_holds (isOverlong_documentFrom hdocument) (decode_eq_ok_iff.1 hdecode)

end RemoteMethod

/-- Containers are allocated under identifiers that can be written. -/
theorem Service.fits_of_allocate {client : Client} {telemetry : List (Instrument.Concern World)}
    {type : ReplicationType} {factor : ReplicationFactor} {owner : String} {s : Session World}
    {record : ContainerRecord}
    (h : (((placementOver client telemetry).allocate type factor owner).runFrom s).1 = .ok record) :
    Decimal.isOverlong record.containerId = false := by
  have hrecord : (Model.toValue record).isOverlong = false :=
    @RemoteMethod.fits_of_ok (.allocate type factor owner) client telemetry s record h
  exact Value.Written.anyFieldOverlong_eq_false.1 hrecord ("container_id", .int record.containerId)
    List.mem_cons_self

/-! ## Operations -/

/-- What a flow ends well with is of a kind. -/
def Flow.Gives (body : Flow World α) (R : α → Prop) : Prop :=
  ∀ s a, (body.runFrom s).1 = .ok a → R a

namespace Flow.Gives

variable {body : Flow World α} {P : α → Prop} {R : β → Prop}

theorem pure {a : α} (h : P a) : Gives (Pure.pure a : Flow World α) P := by
  intro s a' ha
  cases ha
  exact h

theorem throw (f : Failure) : Gives (MonadExcept.throw f : Flow World α) P := by
  intro s a ha
  cases ha

theorem bind {next : α → Flow World β} (hb : body.Gives P) (hn : ∀ a, P a → (next a).Gives R) :
    (body >>= next).Gives R := by
  intro s b h
  obtain ⟨a, t, ha, hb'⟩ := Flow.exists_of_bind_ok (Prod.ext h rfl :
    (body >>= next).runFrom s = (.ok b, ((body >>= next).runFrom s).2))
  exact hn a (hb s a (congrArg Prod.fst ha)) t b (congrArg Prod.fst hb')

theorem call {c : Instrument.Component World} (hb : body.Gives P) (name : String)
    (supplied : List (String × Value)) : (c.call name supplied body).Gives P := by
  intro s a h
  obtain ⟨t, ha⟩ := c.exists_of_call_ok h
  exact hb t a ha

theorem any (body : Flow World α) : body.Gives fun _ => True := fun _ _ _ => trivial

theorem andFinally {last : Flow World Unit} (hb : body.Gives P) :
    (body.andFinally last).Gives P := by
  intro s a h
  refine hb s a ?_
  rw [Flow.runFrom_andFinally] at h
  split at h
  · exact h
  · cases h

end Flow.Gives

namespace Service

variable {own : ContainerOperationsSettings} {client : Client} {nodes : DatanodeSettings}
  {telemetry : List (Instrument.Concern World)}

/-- What an adapter gives can be written. -/
theorem gives_run (m : RemoteMethod) : (m.run client telemetry).Gives m.Fits :=
  fun _ _ h => RemoteMethod.fits_of_ok h

theorem gives_create (owner : String) (type : Option ReplicationType)
    (factor : Option ReplicationFactor) :
    ((overNetwork own client nodes telemetry).create owner type factor).Gives
      fun record => (Model.toValue record).isOverlong = false := by
  refine .call (.bind (gives_run (.allocate _ _ owner)) fun record hrecord => ?_) _ _
  exact .bind (.any _) fun _ _ => .pure hrecord

theorem gives_get (containerId : Int) :
    ((overNetwork own client nodes telemetry).get containerId).Gives
      fun record => (Model.toValue record).isOverlong = false :=
  .call (gives_run (.getRecord containerId)) _ _

theorem gives_read (containerId : Int) (pipeline : Pipeline) :
    ((overNetwork own client nodes telemetry).read containerId pipeline).Gives
      fun data => (Model.toValue data).isOverlong = false := by
  refine .call (.bind (.any _) fun handle _ => .andFinally ?_) _ _
  refine .bind (.any _) fun trace _ => .bind (gives_run (.readData containerId trace)) ?_
  exact fun data hdata => .bind (.any _) fun _ _ => .pure hdata

theorem gives_list (start count : Int) :
    ((overNetwork own client nodes telemetry).list start count).Gives
      fun records => ∀ record ∈ records, (Model.toValue record).isOverlong = false := by
  refine .call ?_ _ _
  by_cases hstart : start < 0
  · simp only [hstart, if_true]
    exact .throw _
  · by_cases hcount : count ≤ 0
    · simp only [hstart, hcount, if_true, if_false]
      exact .throw _
    · simp only [hstart, hcount, if_false]
      exact gives_run (.listRecords start count)

/-- The capacity of containers is given as it is configured. -/
theorem gives_size (containerId : Int) :
    ((overNetwork own client nodes telemetry).size containerId).Gives
      fun bytes => bytes = own.containerSizeBytes := by
  refine .call ?_ _ _
  split
  · exact .throw _
  · exact .pure rfl

end Service

end Stowage
