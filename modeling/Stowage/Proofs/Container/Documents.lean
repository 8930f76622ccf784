import Stowage.Container.Node
import Stowage.Container.Record
import Stowage.Container.Stage
import Stowage.Proofs.Json.RoundTrip
import Stowage.Proofs.Value.Entries

/-!
Documents that describe instances of models.

A document describes an instance when checking it gives the instance (`Json.Describes`). What an
object has to hold in order to describe a given instance is said model by model, in terms of the
lookups of its members, so that their order does not count.
-/

namespace Stowage

/-! ## Words -/

/-- A vocabulary whose members have different words. -/
class LawfulVocabulary (α : Type) [Vocabulary α] : Prop where
  ofValue?_value : ∀ a : α, Vocabulary.ofValue? (Vocabulary.value a) = some a

instance : LawfulVocabulary LifeCycleState := ⟨fun a => by cases a <;> decide⟩
instance : LawfulVocabulary ReplicationType := ⟨fun a => by cases a <;> decide⟩
instance : LawfulVocabulary ReplicationFactor := ⟨fun a => by cases a <;> decide⟩
instance : LawfulVocabulary NodeState := ⟨fun a => by cases a <;> decide⟩
instance : LawfulVocabulary StageSubject := ⟨fun a => by cases a <;> decide⟩
instance : LawfulVocabulary StageOperation := ⟨fun a => by cases a <;> decide⟩
instance : LawfulVocabulary StagePhase := ⟨fun a => by cases a <;> decide⟩

/-- A word of a vocabulary as a document. -/
def Json.ofWord {α : Type} [Vocabulary α] (a : α) : Json := .text (Vocabulary.value a)

/-! ## Labels -/

/-- Labels as a document. -/
def Json.ofLabels (labels : Labels) : Json :=
  .object (labels.entries.map fun e => (e.1, .text e.2))

theorem Labels.putEntry_of_new {key : String} {es : List (String × String)}
    (h : key ∉ es.map Prod.fst) (value : String) :
    putEntry key value es = es ++ [(key, value)] := by
  induction es with
  | nil => rfl
  | cons e r ih =>
    obtain ⟨k, v⟩ := e
    rw [List.map_cons, List.mem_cons, not_or] at h
    simp only [putEntry, if_neg (Ne.symm h.1), ih h.2, List.cons_append]

/-- Entries without a repeated key are those of the labels that are made of them. -/
theorem Labels.entries_ofList {es : List (String × String)} (h : (es.map Prod.fst).Nodup) :
    (Labels.ofList es).entries = es := by
  have hfold : ∀ (es : List (String × String)) (labels : Labels),
      ((labels.entries ++ es).map Prod.fst).Nodup →
        (es.foldl (fun l e => l.insert e.1 e.2) labels).entries = labels.entries ++ es := by
    intro es
    induction es with
    | nil => exact fun labels _ => (List.append_nil _).symm
    | cons e r ih =>
      obtain ⟨k, v⟩ := e
      intro labels hn
      have hnew : k ∉ labels.entries.map Prod.fst := by
        rw [List.map_append, List.map_cons] at hn
        exact fun hm => (List.nodup_append.1 hn).2.2 k hm k List.mem_cons_self rfl
      have hput : (labels.insert k v).entries = labels.entries ++ [(k, v)] :=
        putEntry_of_new hnew v
      rw [List.foldl_cons, ih (labels.insert k v)]
      · rw [hput, List.append_assoc, List.singleton_append]
      · rwa [hput, List.append_assoc, List.singleton_append]
  exact hfold es Labels.empty h

theorem Labels.eq_of_entries {a b : Labels} (h : a.entries = b.entries) : a = b := by
  cases a
  cases b
  cases h
  rfl

theorem Labels.ofList_entries (labels : Labels) : Labels.ofList labels.entries = labels :=
  eq_of_entries (entries_ofList labels.nodup)

/-! ## Checks of documents -/

namespace Json

theorem get?_toEntries (members : List (String × Json)) (key : String) :
    Entries.get? (toEntries members) key = (members.lookup key).map toValue := by
  induction members with
  | nil => rfl
  | cons m r ih =>
    obtain ⟨k, j⟩ := m
    rw [toEntries, Entries.get?_cons, List.lookup_cons, ih]
    by_cases h : key = k
    · simp [h]
    · have hk : (key == k) = false := beq_eq_false_iff_ne.2 h
      simp only [h, hk, if_false]

/-- A document describes an instance of a model. -/
def Describes {α : Type} [Model α] (j : Json) (a : α) : Prop :=
  (Model.check j.toValue : Checked α) = .fits a

/-- A document that describes an instance of a model is an object. -/
theorem Describes.exists_members {α : Type} [Model α] {j : Json} {a : α} (h : j.Describes a) :
    ∃ members, j = .object members ∧ Model.read (toEntries members) = .fits a := by
  cases j with
  | object members => exact ⟨members, rfl, h⟩
  | _ => cases h

end Json

namespace Checked

variable {α β : Type} {members : List (String × Json)} {name : String}

theorem map_eq_fits {f : α → β} {x : Checked α} {b : β} :
    (f <$> x) = .fits b ↔ ∃ a, x = .fits a ∧ f a = b := by
  cases x <;> simp [Functor.map, map]

/-- Checks side by side fit when both do. -/
theorem seq_eq_fits {x : Checked (α → β)} {y : Checked α} {b : β} :
    (x <*> y) = .fits b ↔ ∃ f, x = .fits f ∧ ∃ a, y = .fits a ∧ f a = b := by
  cases x <;> cases y <;> simp [Seq.seq, both]

theorem seqLeft_eq_fits {x : Checked α} {y : Checked β} {a : α} :
    (x <* y) = .fits a ↔ x = .fits a ∧ ∃ b, y = .fits b := by
  cases x <;> cases y <;> simp [SeqLeft.seqLeft, both, map]

/-- A member that fits is the field of its name. -/
theorem field_of_lookup {check : Value → Checked α} {absent : Option α} {j : Json} {a : α}
    (h : members.lookup name = some j) (hcheck : check j.toValue = .fits a) :
    field (Json.toEntries members) name check absent = .fits a := by
  unfold field
  rw [Json.get?_toEntries, h, Option.map_some]
  simp only [hcheck, within]

/-- A mapping has no other keys than the known ones. -/
theorem noOthers_eq_fits {known : List String} : noOthers known (Json.toEntries members) = .fits () ↔
    ∀ k ∈ members.map Prod.fst, k ∈ known := by
  induction members with
  | nil => exact iff_of_true rfl (List.forall_mem_nil _)
  | cons m r ih =>
    obtain ⟨k, j⟩ := m
    rw [List.map_cons, List.forall_mem_cons, ← ih]
    by_cases hk : k ∈ known
    · cases hr : noOthers known (Json.toEntries r) <;>
        simp [Json.toEntries, noOthers, Value.text?, hk, hr, map, both]
    · cases hr : noOthers known (Json.toEntries r) <;>
        simp [Json.toEntries, noOthers, Value.text?, hk, hr, map, both, fail, within]

theorem noOthers_of_keys {known : List String} (h : ∀ k ∈ members.map Prod.fst, k ∈ known) :
    noOthers known (Json.toEntries members) = .fits () := noOthers_eq_fits.2 h

theorem text_text (s : String) : text (.text s) = .fits s := rfl

theorem natural_int (n : Nat) : natural (.int n) = .fits n := by
  simp [natural, integer, andThen]

theorem word_ofWord {α : Type} [Vocabulary α] [LawfulVocabulary α] (a : α) :
    word (Json.ofWord a).toValue = .fits a := by
  simp [word, Json.ofWord, Json.toValue, Value.text?, LawfulVocabulary.ofValue?_value]

theorem items_eq_fits {check : Value → Checked α} {js : List Json} {as : List α} (start : Nat) :
    items check start (Json.toValues js) = .fits as ↔
      List.Forall₂ (fun j a => check j.toValue = .fits a) js as := by
  induction js generalizing as start with
  | nil =>
    rw [List.forall₂_nil_left_iff]
    exact ⟨fun h => (fits.inj h).symm, fun h => congrArg fits h.symm⟩
  | cons j r ih =>
    rw [List.forall₂_cons_left_iff, Json.toValues, items]
    cases hj : check j.toValue with
    | faulty issues => cases items check (start + 1) (Json.toValues r) <;> simp [within, map, both]
    | fits a =>
      cases hr : items check (start + 1) (Json.toValues r) with
      | faulty issues =>
        simp only [within, map, both, reduceCtorEq, fits.injEq, false_iff]
        rintro ⟨_, rest, -, hrest, -⟩
        cases hr.symm.trans ((ih (start + 1)).2 hrest)
      | fits rest =>
        simp only [within, map, both, fits.injEq]
        constructor
        · rintro rfl
          exact ⟨a, rest, rfl, (ih (start + 1)).1 hr, rfl⟩
        · rintro ⟨_, rest', rfl, hrest, rfl⟩
          cases hr.symm.trans ((ih (start + 1)).2 hrest)
          rfl

/-- Items that fit make up a sequence that fits. -/
theorem sequence_list {check : Value → Checked α} {js : List Json} {as : List α}
    (h : List.Forall₂ (fun j a => check j.toValue = .fits a) js as) :
    sequence check (Json.list js).toValue = .fits as := (items_eq_fits 0).2 h

theorem labels_ofLabels (es : List (String × String)) :
    labels (Json.object (es.map fun e => (e.1, Json.text e.2))).toValue =
      .fits (Labels.ofList es) := by
  have hentries : labelEntries (Json.toEntries (es.map fun e => (e.1, Json.text e.2))) =
      .fits es := by
    induction es with
    | nil => rfl
    | cons e r ih =>
      simp only [List.map_cons, Json.toEntries, Json.toValue, labelEntries, text_text, within, ih,
        map, both]
  simp only [Json.toValue, labels, hentries, map]

end Checked

namespace Json

variable {members : List (String × Json)}

/-! ## Models -/

theorem describes_node {n : NodeInfo} (hkeys : ∀ k ∈ members.map Prod.fst, k ∈ NodeInfo.fieldNames)
    (haddress : members.lookup "address" = some (.text n.address))
    (hstate : members.lookup "state" = some (ofWord n.state)) :
    (Json.object members).Describes n := by
  change NodeInfo.read (toEntries members) = _
  unfold NodeInfo.read
  rw [Checked.field_of_lookup haddress (Checked.text_text n.address),
    Checked.field_of_lookup hstate (Checked.word_ofWord n.state), Checked.noOthers_of_keys hkeys]
  rfl

theorem describes_pool {p : NodePool} {nodes : List Json}
    (hkeys : ∀ k ∈ members.map Prod.fst, k ∈ NodePool.fieldNames)
    (hname : members.lookup "name" = some (.text p.name))
    (hnodes : members.lookup "nodes" = some (.list nodes))
    (hall : List.Forall₂ Describes nodes p.nodes) : (Json.object members).Describes p := by
  change NodePool.read (toEntries members) = _
  unfold NodePool.read
  rw [Checked.field_of_lookup hname (Checked.text_text p.name),
    Checked.field_of_lookup hnodes (Checked.sequence_list hall), Checked.noOthers_of_keys hkeys]
  rfl

theorem describes_stage {e : StageEvent}
    (hkeys : ∀ k ∈ members.map Prod.fst, k ∈ StageEvent.fieldNames)
    (hsubject : members.lookup "subject" = some (ofWord e.subject))
    (hid : members.lookup "subject_id" = some (.text e.subjectId))
    (hoperation : members.lookup "operation" = some (ofWord e.operation))
    (hphase : members.lookup "phase" = some (ofWord e.phase)) :
    (Json.object members).Describes e := by
  change StageEvent.read (toEntries members) = _
  unfold StageEvent.read
  rw [Checked.field_of_lookup hsubject (Checked.word_ofWord e.subject),
    Checked.field_of_lookup hid (Checked.text_text e.subjectId),
    Checked.field_of_lookup hoperation (Checked.word_ofWord e.operation),
    Checked.field_of_lookup hphase (Checked.word_ofWord e.phase), Checked.noOthers_of_keys hkeys]
  rfl

/-- The name of a pipeline as a document. -/
def ofName : Option String → Json
  | none => .null
  | some name => .text name

theorem nullable_ofName (name : Option String) :
    Checked.nullable Checked.text (ofName name).toValue = .fits name := by
  cases name <;> rfl

theorem describes_pipeline {p : Pipeline}
    (hkeys : ∀ k ∈ members.map Prod.fst, k ∈ Pipeline.fieldNames)
    (hname : members.lookup "name" = some (ofName p.name))
    (hmembers : members.lookup "members" = some (.list (p.members.map .text)))
    (hleader : members.lookup "leader" = some (.text p.leader))
    (hstate : members.lookup "state" = some (ofWord p.state))
    (htype : members.lookup "replication_type" = some (ofWord p.replicationType))
    (hfactor : members.lookup "replication_factor" = some (ofWord p.replicationFactor)) :
    (Json.object members).Describes p := by
  have htexts : List.Forall₂ (fun j s => Checked.text j.toValue = .fits s)
      (p.members.map Json.text) p.members := by
    rw [List.forall₂_map_left_iff, List.forall₂_same]
    exact fun s _ => Checked.text_text s
  change Pipeline.read (toEntries members) = _
  unfold Pipeline.read
  rw [Checked.field_of_lookup hname (nullable_ofName p.name),
    Checked.field_of_lookup hmembers (Checked.sequence_list htexts),
    Checked.field_of_lookup hleader (Checked.text_text p.leader),
    Checked.field_of_lookup hstate (Checked.word_ofWord p.state),
    Checked.field_of_lookup htype (Checked.word_ofWord p.replicationType),
    Checked.field_of_lookup hfactor (Checked.word_ofWord p.replicationFactor),
    Checked.noOthers_of_keys hkeys]
  change Pipeline.ofFields _ _ _ _ _ _ = _
  unfold Pipeline.ofFields
  rw [dif_pos p.leader_known]

theorem describes_record {r : ContainerRecord} {pipeline : Json}
    (hkeys : ∀ k ∈ members.map Prod.fst, k ∈ ContainerRecord.fieldNames)
    (hid : members.lookup "container_id" = some (.int r.containerId))
    (hpipeline : members.lookup "pipeline" = some pipeline)
    (hdescribes : pipeline.Describes r.pipeline)
    (hstate : members.lookup "state" = some (ofWord r.state))
    (hallocated : members.lookup "allocated_bytes" = some (.int r.allocatedBytes))
    (hused : members.lookup "used_bytes" = some (.int r.usedBytes))
    (hcount : members.lookup "number_of_keys" = some (.int r.numberOfKeys))
    (howner : members.lookup "owner" = some (.text r.owner)) :
    (Json.object members).Describes r := by
  change ContainerRecord.read (toEntries members) = _
  unfold ContainerRecord.read
  rw [Checked.field_of_lookup hid (Checked.natural_int r.containerId),
    Checked.field_of_lookup hpipeline hdescribes,
    Checked.field_of_lookup hstate (Checked.word_ofWord r.state),
    Checked.field_of_lookup hallocated (Checked.natural_int r.allocatedBytes),
    Checked.field_of_lookup hused (Checked.natural_int r.usedBytes),
    Checked.field_of_lookup hcount (Checked.natural_int r.numberOfKeys),
    Checked.field_of_lookup howner (Checked.text_text r.owner), Checked.noOthers_of_keys hkeys]
  rfl

theorem describes_data {d : ContainerData} {labels : List (String × String)}
    (hkeys : ∀ k ∈ members.map Prod.fst, k ∈ ContainerData.fieldNames)
    (hid : members.lookup "container_id" = some (.int d.containerId))
    (hstate : members.lookup "state" = some (ofWord d.state))
    (hsize : members.lookup "size_bytes" = some (.int d.sizeBytes))
    (hused : members.lookup "bytes_used" = some (.int d.bytesUsed))
    (hcount : members.lookup "key_count" = some (.int d.keyCount))
    (hpath : members.lookup "container_path" = some (.text d.containerPath))
    (hdb : members.lookup "db_path" = some (.text d.dbPath))
    (hhash : members.lookup "hash" = some (.text d.hash))
    (hmetadata : members.lookup "metadata" = some (.object (labels.map fun e => (e.1, .text e.2))))
    (hlabels : Labels.ofList labels = d.metadata) : (Json.object members).Describes d := by
  change ContainerData.read (toEntries members) = _
  unfold ContainerData.read
  rw [Checked.field_of_lookup hid (Checked.natural_int d.containerId),
    Checked.field_of_lookup hstate (Checked.word_ofWord d.state),
    Checked.field_of_lookup hsize (Checked.natural_int d.sizeBytes),
    Checked.field_of_lookup hused (Checked.natural_int d.bytesUsed),
    Checked.field_of_lookup hcount (Checked.natural_int d.keyCount),
    Checked.field_of_lookup hpath (Checked.text_text d.containerPath),
    Checked.field_of_lookup hdb (Checked.text_text d.dbPath),
    Checked.field_of_lookup hhash (Checked.text_text d.hash),
    Checked.field_of_lookup hmetadata (Checked.labels_ofLabels labels),
    Checked.noOthers_of_keys hkeys, hlabels]
  rfl

end Json

end Stowage
