import Stowage.Proofs.Command.Printed
import Stowage.Proofs.Json.Reading

/-!
Results of every form can be printed.

A result is made of the values that commands return, to any depth, with keys of any kind
(`Value.Printable`). It has a document, which is well formed and, taken as a value, is its own
document (`Json.WellFormed.serialize_toValue`). What is printed of it is this one document
(`Command.Prints`), and a failure is told of in either mode (`Command.Reports`). Whatever has been
read can be printed (`Json.printable_of_read`).
-/

namespace Stowage

/-! ## Documents -/

namespace Json

variable {key : String} {j : Json} {members pairs : List (String × Json)}

theorem mem_put {m : String × Json} (h : m ∈ put key j members) : m = (key, j) ∨ m ∈ members := by
  induction members with
  | nil => exact .inl (List.mem_singleton.1 h)
  | cons first r ih =>
    unfold put at h
    split at h
    · rename_i heq
      rw [heq] at h
      exact (List.mem_cons.1 h).imp id (List.mem_cons_of_mem _)
    · rcases List.mem_cons.1 h with rfl | h
      · exact .inr List.mem_cons_self
      · exact (ih h).imp id (List.mem_cons_of_mem _)

theorem nodup_put (h : (members.map Prod.fst).Nodup) :
    ((put key j members).map Prod.fst).Nodup := by
  induction members with
  | nil => exact List.nodup_singleton key
  | cons first r ih =>
    rw [List.map_cons, List.nodup_cons] at h
    unfold put
    split
    · exact List.nodup_cons.2 h
    · rename_i hne
      refine List.nodup_cons.2 ⟨fun hmem => ?_, ih h.2⟩
      obtain ⟨m, hm, heq⟩ := List.mem_map.1 hmem
      rcases mem_put hm with rfl | hm
      · exact hne heq.symm
      · exact h.1 (heq ▸ List.mem_map_of_mem hm)

/-- Well-formed members make a well-formed object, also if keys occur twice among them. -/
theorem wellFormed_ofPairs (h : ∀ m ∈ pairs, m.2.WellFormed) : (ofPairs pairs).WellFormed := by
  suffices ∀ members : List (String × Json), (members.map Prod.fst).Nodup →
      (∀ m ∈ members, m.2.WellFormed) →
        (Json.object (pairs.foldl (fun ms m => put m.1 m.2 ms) members)).WellFormed from
    this [] List.nodup_nil (List.forall_mem_nil _)
  induction pairs with
  | nil => exact fun _ => .object
  | cons first r ih =>
    rw [List.forall_mem_cons] at h
    intro members hn hall
    apply ih h.2 _ (nodup_put hn)
    intro m hm
    rcases mem_put hm with rfl | hm
    · exact h.1
    · exact hall m hm

theorem toJson_toValues {items : List Json}
    (h : ∀ j ∈ items, j.toValue.toJson false = .ok j) :
    Value.itemsToJson false (toValues items) = .ok items := by
  induction items with
  | nil => rfl
  | cons j r ih =>
    rw [List.forall_mem_cons] at h
    rw [toValues, Value.itemsToJson, h.1, ih h.2]
    rfl

theorem toJson_toEntries (h : ∀ m ∈ members, m.2.toValue.toJson false = .ok m.2) :
    Value.entriesToJson false (toEntries members) = .ok members := by
  induction members with
  | nil => rfl
  | cons m r ih =>
    have hkey : Value.keyText false (.text m.1) = .ok m.1 := rfl
    rw [List.forall_mem_cons] at h
    rw [toEntries, Value.entriesToJson, hkey, h.1, ih h.2]
    rfl

/-- **A well-formed document, taken as a value, is its own document.** -/
theorem WellFormed.serialize_toValue (h : j.WellFormed) : j.toValue.serialize = .ok j := by
  unfold Value.serialize
  induction h with
  | list _ ih => rw [toValue, Value.toJson, toJson_toValues ih, Except.map]
  | object hn _ ih =>
    rw [toValue, Value.toJson, toJson_toEntries ih, Except.map, ofPairs_of_nodup hn]
  | _ => rfl

end Json

/-! ## Values -/

namespace Value

/-- The instances of models that are sent and answered. -/
inductive OnWire : Value → Prop
  | node (n : NodeInfo) : OnWire (Model.toValue n)
  | pool (p : NodePool) : OnWire (Model.toValue p)
  | event (e : StageEvent) : OnWire (Model.toValue e)
  | pipeline (p : Pipeline) : OnWire (Model.toValue p)
  | record (r : ContainerRecord) : OnWire (Model.toValue r)
  | data (d : ContainerData) : OnWire (Model.toValue d)

theorem OnWire.written {v : Value} (h : v.OnWire) : ∃ j, v.Written j := by
  cases h with
  | node n => exact ⟨_, n.written⟩
  | pool p => exact ⟨_, p.written⟩
  | event e => exact ⟨_, e.written⟩
  | pipeline p => exact ⟨_, p.written⟩
  | record r => exact ⟨_, r.written⟩
  | data d => exact ⟨_, d.written⟩

/-- The values that results are made of, to any depth. Their integers have a text, also where they
stand in keys; keys may be values of any kind. -/
inductive Printable : Value → Prop
  | null : Printable .null
  | bool (b : Bool) : Printable (.bool b)
  | int {i : Int} : Decimal.isOverlong i = false → Printable (.int i)
  | float {x : Double} : x.Canonical → Printable (.float x)
  | text (s : String) : Printable (.text s)
  | bytes (bs : List Nat) : Printable (.bytes bs)
  | date (d : Date) : Printable (.date d)
  | moment (m : Moment) : Printable (.moment m)
  | path (s : String) : Printable (.path s)
  | object (s : String) : Printable (.object s)
  | member (family name value : String) : Printable (.member family name value)
  | detail (d : ErrorDetail) : Printable (.detail d)
  | wire {v : Value} : v.OnWire → v.isOverlong = false → Printable v
  | list {items : List Value} : (∀ v ∈ items, Printable v) → Printable (.list items)
  | tuple {items : List Value} : (∀ v ∈ items, Printable v) → Printable (.tuple items)
  | set {items : List Value} : (∀ v ∈ items, Printable v) → Printable (.set items)
  | mapping {entries : Entries} : (∀ e ∈ entries, e.1.isOverlong = false) →
    (∀ e ∈ entries, Printable e.2) → Printable (.mapping entries)

theorem anyEntryOverlong_eq_false {entries : Entries} : anyEntryOverlong entries = false ↔
    (∀ e ∈ entries, e.1.isOverlong = false) ∧ ∀ e ∈ entries, e.2.isOverlong = false := by
  induction entries with
  | nil => simp [anyEntryOverlong]
  | cons e r ih =>
    simp only [anyEntryOverlong, Bool.or_eq_false_iff, ih, List.forall_mem_cons]
    tauto

theorem Printable.isOverlong {v : Value} (h : v.Printable) : v.isOverlong = false := by
  induction h with
  | int h => exact h
  | wire _ h => exact h
  | list _ ih => exact Written.anyOverlong_eq_false.2 ih
  | tuple _ ih => exact Written.anyOverlong_eq_false.2 ih
  | set _ ih => exact Written.anyOverlong_eq_false.2 ih
  | mapping hkeys _ ih => exact anyEntryOverlong_eq_false.2 ⟨hkeys, ih⟩
  | _ => rfl

/-- A value has a document, and it is well formed. -/
def Documented (v : Value) : Prop := ∃ j, v.serialize = .ok j ∧ j.WellFormed

theorem documented_items {items : List Value} (h : ∀ v ∈ items, v.Documented) :
    ∃ js, itemsToJson false items = .ok js ∧ ∀ j ∈ js, j.WellFormed := by
  induction items with
  | nil => exact ⟨[], rfl, List.forall_mem_nil _⟩
  | cons v r ih =>
    rw [List.forall_mem_cons] at h
    obtain ⟨j, hj, hwell⟩ := h.1
    obtain ⟨js, hjs, hall⟩ := ih h.2
    refine ⟨j :: js, ?_, List.forall_mem_cons.2 ⟨hwell, hall⟩⟩
    rw [serialize] at hj
    rw [itemsToJson, hj, hjs]
    rfl

theorem documented_entries {entries : Entries} (hkeys : ∀ e ∈ entries, e.1.isOverlong = false)
    (h : ∀ e ∈ entries, e.2.Documented) :
    ∃ ms, entriesToJson false entries = .ok ms ∧ ∀ m ∈ ms, m.2.WellFormed := by
  induction entries with
  | nil => exact ⟨[], rfl, List.forall_mem_nil _⟩
  | cons e r ih =>
    obtain ⟨key, v⟩ := e
    rw [List.forall_mem_cons] at hkeys h
    obtain ⟨j, hj, hwell⟩ := h.1
    obtain ⟨ms, hms, hall⟩ := ih hkeys.2 h.2
    refine ⟨(key.display, j) :: ms, ?_, List.forall_mem_cons.2 ⟨hwell, hall⟩⟩
    have hkey : keyText false key = .ok key.display := by
      rw [keyText, hkeys.1]
      rfl
    rw [serialize] at hj
    rw [entriesToJson, hkey, hj, hms]
    rfl

theorem documented_list {items : List Value} (h : ∀ v ∈ items, v.Documented) :
    (Value.list items).Documented := by
  obtain ⟨js, hjs, hall⟩ := documented_items h
  refine ⟨.list js, ?_, .list hall⟩
  rw [serialize, toJson, hjs]
  rfl

theorem Printable.documented {v : Value} (h : v.Printable) : v.Documented := by
  induction h with
  | null => exact ⟨_, rfl, .null⟩
  | bool b => exact ⟨_, rfl, .bool b⟩
  | int h => exact ⟨_, rfl, .int h⟩
  | float h => exact ⟨_, rfl, .float h⟩
  | text s => exact ⟨_, rfl, .text s⟩
  | bytes bs => exact ⟨_, rfl, .text _⟩
  | date d => exact ⟨_, rfl, .text _⟩
  | moment m => exact ⟨_, rfl, .text _⟩
  | path s => exact ⟨_, rfl, .text s⟩
  | object s => exact ⟨_, rfl, .text s⟩
  | member _ _ value => exact ⟨_, rfl, .text value⟩
  | detail d => exact ⟨_, rfl, (Command.plain_detailJson d).wellFormed⟩
  | wire h hover =>
    obtain ⟨j, hj⟩ := h.written
    exact ⟨j, hj.toJson false, (hj.plain hover).wellFormed⟩
  -- sequences of all kinds are serialized alike
  | list _ ih => exact documented_list ih
  | tuple _ ih => exact documented_list ih
  | set _ ih => exact documented_list ih
  | mapping hkeys _ ih =>
    obtain ⟨ms, hms, hall⟩ := documented_entries hkeys ih
    refine ⟨Json.ofPairs ms, ?_, Json.wellFormed_ofPairs hall⟩
    rw [serialize, toJson, hms]
    rfl

end Value

/-! ## Documents that are read -/

namespace Json

variable {j : Json}

theorem printable_toValues {items : List Json} (h : ∀ j ∈ items, j.toValue.Printable) :
    ∀ v ∈ toValues items, v.Printable := by
  induction items with
  | nil => exact List.forall_mem_nil _
  | cons j r ih =>
    rw [List.forall_mem_cons] at h
    exact List.forall_mem_cons.2 ⟨h.1, ih h.2⟩

theorem printable_toEntries {members : List (String × Json)}
    (h : ∀ m ∈ members, m.2.toValue.Printable) :
    (∀ e ∈ toEntries members, e.1.isOverlong = false) ∧
      ∀ e ∈ toEntries members, e.2.Printable := by
  induction members with
  | nil => exact ⟨List.forall_mem_nil _, List.forall_mem_nil _⟩
  | cons m r ih =>
    rw [List.forall_mem_cons] at h
    obtain ⟨hkeys, hvalues⟩ := ih h.2
    exact ⟨List.forall_mem_cons.2 ⟨rfl, hkeys⟩, List.forall_mem_cons.2 ⟨h.1, hvalues⟩⟩

theorem WellFormed.printable (h : j.WellFormed) : j.toValue.Printable := by
  induction h with
  | null => exact .null
  | bool b => exact .bool b
  | int h => exact .int h
  | float h => exact .float h
  | text s => exact .text s
  | list _ ih => exact .list (printable_toValues ih)
  | object _ _ ih => exact .mapping (printable_toEntries ih).1 (printable_toEntries ih).2

theorem Made.wellFormed (h : j.Made) : j.WellFormed := by
  induction h with
  | atom h =>
    cases h with
    | null => exact .null
    | bool b => exact .bool b
    | float h => exact .float h
    | int h => exact .int h
  | text s => exact .text s
  | list _ ih => exact .list ih
  | ofPairs _ ih => exact wellFormed_ofPairs ih

/-- **Whatever is read can be printed.** -/
theorem printable_of_read {s : String} (h : read s = .ok j) : j.toValue.Printable :=
  (made_of_readList h).wellFormed.printable

end Json

/-! ## Output -/

/-- A failure that was given nothing but what can be printed. -/
def Failure.Printable (failure : Failure) : Prop :=
  ∀ kind argument, failure = .fault kind (some argument) → argument.Printable

theorem Failure.Printable.isOverlong {failure : Failure} (h : failure.Printable) :
    failure.isOverlong = false := by
  cases failure with
  | fault kind argument =>
    cases argument with
    | none => rfl
    | some v => exact (h kind v rfl).isOverlong
  | _ => rfl

namespace Command

/-- Whether a document is an array or an object. -/
def hasParts : Json → Bool
  | .list _ | .object _ => true
  | _ => false

/-- A text shows one document. In JSON mode, and for arrays and objects also in plain mode, it is
read back as the document with its members sorted; in JSON mode it is one line. Of all else plain
mode shows the words. -/
structure Prints (asJson : Bool) (j : Json) (text : String) : Prop where
  document : asJson || hasParts j → Json.read text = .ok (j.arranged (shownStyle asJson))
  line : asJson → Text.lines text = [j.write .compactSorted]
  plain : ¬ (asJson || hasParts j) → text = echo (plainText j)

theorem plainText_of_hasParts {j : Json} (h : hasParts j) : plainText j = j.write .indented := by
  cases j with
  | list items => rfl
  | object members => rfl
  | _ => cases h

theorem prints_output (asJson : Bool) {j : Json} (h : j.WellFormed) :
    Prints asJson j (echo (if asJson then j.write .compactSorted else plainText j)) := by
  have hread := read_echo (readable_shownStyle asJson) (ascii_shownStyle asJson) h
  cases asJson with
  | true =>
    have hline := lines_echo Json.Style.ascii_compactSorted rfl j
    exact ⟨fun _ => hread, fun _ => hline, fun hn => absurd rfl hn⟩
  | false =>
    refine ⟨fun hparts => ?_, fun hjson => absurd hjson Bool.false_ne_true, fun _ => rfl⟩
    rw [if_neg Bool.false_ne_true, plainText_of_hasParts hparts]
    exact hread

/-- A text tells of a failure. The failure has a detail, which can itself be printed. In JSON mode
the text is one line, which is read back as an object with the document of this detail; in plain mode
it has the words of the failure. -/
structure Reports (asJson : Bool) (failure : Failure) (text : String) : Prop where
  document : ∃ detail, failure.normalized = .ok detail ∧ (Value.detail detail).Printable ∧
    (asJson → ∃ j, (Value.detail detail).serialize = .ok j ∧
      Json.read text = .ok (.object [("error", j)]))
  line : asJson → ∃ line, Text.lines text = [line]
  plain : ¬ asJson → ∃ words, failure.text = .ok words ∧ text = echo ("error: " ++ words)

theorem reports_errorOutput {asJson : Bool} {failure : Failure} {text : String}
    (h : errorOutput asJson failure = .ok text) : Reports asJson failure text := by
  have hover := isOverlong_of_errorOutput h
  have htext : text = _ := (Except.ok.inj ((errorOutput_eq asJson hover).symm.trans h)).symm
  refine ⟨⟨failure.detail, Failure.normalized_of_worded hover, .detail failure.detail, fun hjson => ?_⟩,
    fun hjson => ?_, fun hplain => ?_⟩
  · rw [hjson] at h
    exact ⟨_, rfl, read_errorOutput h⟩
  · rw [htext, if_pos hjson]
    exact ⟨_, lines_echo Json.Style.ascii_spaced rfl _⟩
  · rw [htext, if_neg hplain]
    exact ⟨failure.words, Failure.text_of_worded hover, rfl⟩

/-- A failure is told of if it has a text, and only then. -/
theorem reported_iff_worded (asJson : Bool) (failure : Failure) :
    (∃ text, errorOutput asJson failure = .ok text ∧ Reports asJson failure text) ↔
      failure.isOverlong = false := by
  refine ⟨fun ⟨_, htext, _⟩ => isOverlong_of_errorOutput htext, fun hover => ?_⟩
  have htext := errorOutput_eq asJson hover
  exact ⟨_, htext, reports_errorOutput htext⟩

/-- A result with all kinds of parts: two keys have the same text, others are no text at all, and a
number, a datanode and the detail of a failure stand below them. -/
def mixedResult : Value := .mapping [
  (.int 1, .list [.float (.finite false (2 ^ 52) (-52)), .null]),
  (.text "1", .tuple [Model.toValue (⟨"dn-1:9859", .healthy⟩ : NodeInfo), .path "/data"]),
  (.tuple [.bool true, .null], .set [.object "<Opaque>"]),
  (.null, .detail (ErrorDetail.internal "down"))]

theorem printable_mixedResult : mixedResult.Printable := by
  have hone : (Double.finite false (2 ^ 52) (-52)).Canonical :=
    ⟨by decide, by decide, by decide, .inl (Nat.le_refl _)⟩
  apply Value.Printable.mapping
  · decide +kernel
  · simp only [List.forall_mem_cons]
    refine ⟨.list ?_, .tuple ?_, .set ?_, .detail _, List.forall_mem_nil _⟩
    · exact List.forall_mem_cons.2 ⟨.float hone, List.forall_mem_singleton.2 .null⟩
    · exact List.forall_mem_cons.2 ⟨.wire (.node _) rfl, List.forall_mem_singleton.2 (.path _)⟩
    · exact List.forall_mem_singleton.2 (.object _)

end Command

end Stowage
