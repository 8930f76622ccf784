import Stowage.Proofs.Container.Documents
import Stowage.Value.Serialize
import Stowage.Value.Wire

/-!
Instances of models, written as documents and read back.
-/

namespace Stowage

namespace Json

variable {style : Style} {members : List (String × Json)} {known : List String}

/-- The members of an object in the order of a style. -/
def arrangement (style : Style) (members : List (String × Json)) : List (String × Json) :=
  inOrder style (arrangedMembers style members)

/-- A member of an object stays one, whatever the order. -/
theorem lookup_arrangement (hknown : members.map Prod.fst = known) (hn : known.Nodup)
    {key : String} {j j' : Json} (h : members.lookup key = some j) (hj : j.arranged style = j') :
    (arrangement style members).lookup key = some j' := by
  unfold arrangement
  have hkeys : (arrangedMembers style members).map Prod.fst = known := by
    rw [arrangedMembers_eq_map, List.map_map]
    exact hknown
  have hnodup : ((inOrder style (arrangedMembers style members)).map Prod.fst).Nodup := by
    rw [((inOrder_perm _).map Prod.fst).nodup_iff, hkeys]
    exact hn
  rw [lookup_of_perm (inOrder_perm _) hnodup, ← hj]
  clear hknown hkeys hnodup hj
  induction members with
  | nil => cases h
  | cons m r ih =>
    obtain ⟨k, v⟩ := m
    rw [List.lookup_cons] at h
    rw [arrangedMembers, List.lookup_cons]
    split at h
    · cases h
      rfl
    · exact ih h

theorem keys_arrangement (hknown : members.map Prod.fst = known) :
    ∀ k ∈ (arrangement style members).map Prod.fst, k ∈ known := by
  intro k hk
  have hmem := ((inOrder_perm (arrangedMembers style members)).map Prod.fst).mem_iff.1 hk
  rw [arrangedMembers_eq_map, List.map_map] at hmem
  exact hknown ▸ hmem

mutual

/-- A style that sorts nothing leaves every order as it is. -/
theorem arranged_of_unsorted (h : style.sorted = false) : ∀ j : Json, j.arranged style = j
  | .list items => congrArg Json.list (arrangedItems_of_unsorted h items)
  | .object members => by
    rw [arranged, arrangedMembers_of_unsorted h members]
    simp [inOrder, h]
  | .null => rfl
  | .bool _ => rfl
  | .int _ => rfl
  | .float _ => rfl
  | .text _ => rfl

theorem arrangedItems_of_unsorted (h : style.sorted = false) :
    ∀ items : List Json, arrangedItems style items = items
  | [] => rfl
  | j :: r => by rw [arrangedItems, arranged_of_unsorted h j, arrangedItems_of_unsorted h r]

theorem arrangedMembers_of_unsorted (h : style.sorted = false) :
    ∀ members : List (String × Json), arrangedMembers style members = members
  | [] => rfl
  | (k, j) :: r => by
    rw [arrangedMembers, arranged_of_unsorted h j, arrangedMembers_of_unsorted h r]

end

theorem nodup_ofLabels (labels : Labels) :
    ((labels.entries.map fun e => (e.1, Json.text e.2)).map Prod.fst).Nodup := by
  rw [List.map_map]
  exact labels.nodup

theorem plain_ofLabels (labels : Labels) : (ofLabels labels).Plain := by
  refine .object (nodup_ofLabels labels) fun m hm => ?_
  obtain ⟨e, -, rfl⟩ := List.mem_map.1 hm
  exact .text e.2

end Json

/-! ## Values written as documents -/

namespace Value

/-- A value is written as a document wherever it stands. If its integers can be written, the same
document is sent in a request, and it is plain. -/
structure Written (v : Value) (j : Json) : Prop where
  exact : ∀ x, v ≠ .float x
  toJson : ∀ inner, v.toJson inner = .ok j
  document : v.isOverlong = false → v.dump.document = .ok j
  plain : v.isOverlong = false → j.Plain

namespace Written

theorem null : Written .null .null where
  exact _ := by nofun
  toJson _ := rfl
  document _ := rfl
  plain _ := .null

theorem text (s : String) : Written (.text s) (.text s) where
  exact _ := by nofun
  toJson _ := rfl
  document _ := rfl
  plain _ := .text s

theorem int (i : Int) : Written (.int i) (.int i) where
  exact _ := by nofun
  toJson _ := rfl
  document h := by
    have hi : Decimal.isOverlong i = false := h
    simp [dump, Value.document, hi]
  plain h := .int h

theorem word {α : Type} [Vocabulary α] (a : α) : Written (.ofMember a) (.ofWord a) where
  exact _ := by nofun
  toJson _ := rfl
  document _ := rfl
  plain _ := .text _

theorem anyOverlong_eq_false {items : List Value} :
    anyOverlong items = false ↔ ∀ v ∈ items, v.isOverlong = false := by
  induction items with
  | nil => simp [anyOverlong]
  | cons v r ih => simp [anyOverlong, ih]

theorem anyFieldOverlong_eq_false {fields : List (String × Value)} :
    anyFieldOverlong fields = false ↔ ∀ f ∈ fields, f.2.isOverlong = false := by
  induction fields with
  | nil => simp [anyFieldOverlong]
  | cons f r ih => simp [anyFieldOverlong, ih]

theorem entries_cons (f : String × Value) (fields : List (String × Value)) :
    Model.entries (f :: fields) = (.text f.1, f.2) :: Model.entries fields := rfl

theorem anyEntryOverlong_entries {fields : List (String × Value)} :
    anyEntryOverlong (Model.entries fields) = false ↔ ∀ f ∈ fields, f.2.isOverlong = false := by
  induction fields with
  | nil => simp [anyEntryOverlong, Model.entries]
  | cons f r ih => simp [entries_cons, anyEntryOverlong, isOverlong, ih]

/-- Members that are written are plain if their integers can be written. -/
theorem plain_members {fields : List (String × Value)} {members : List (String × Json)}
    (h : List.Forall₂ (fun f m => f.1 = m.1 ∧ Written f.2 m.2) fields members)
    (hall : ∀ f ∈ fields, f.2.isOverlong = false) : ∀ m ∈ members, m.2.Plain := by
  induction h with
  | nil => exact List.forall_mem_nil _
  | cons hfirst _ ih =>
    rw [List.forall_mem_cons] at hall ⊢
    exact ⟨hfirst.2.plain hall.1, ih hall.2⟩

/-- Items are written one by one. -/
theorem tuple {α : Type} {f : α → Value} {g : α → Json} (h : ∀ a, Written (f a) (g a))
    (as : List α) : Written (.tuple (as.map f)) (.list (as.map g)) where
  exact _ := by nofun
  toJson inner := by
    have hitems : itemsToJson inner (as.map f) = .ok (as.map g) := by
      induction as with
      | nil => rfl
      | cons a r ih =>
        rw [List.map_cons, itemsToJson, (h a).toJson, ih]
        rfl
    rw [Value.toJson, hitems]
    rfl
  document hover := by
    have hall : ∀ v ∈ as.map f, v.isOverlong = false := anyOverlong_eq_false.1 hover
    have hitems : documents (dumpItems (as.map f)) = .ok (as.map g) := by
      clear hover
      induction as with
      | nil => rfl
      | cons a r ih =>
        rw [List.map_cons, List.forall_mem_cons] at hall
        rw [List.map_cons, dumpItems, documents, (h a).document hall.1, ih hall.2]
        rfl
    rw [dump, Value.document, hitems]
    rfl
  plain hover := by
    have hall : ∀ v ∈ as.map f, v.isOverlong = false := anyOverlong_eq_false.1 hover
    refine .list fun j hj => ?_
    obtain ⟨a, ha, rfl⟩ := List.mem_map.1 hj
    exact (h a).plain (hall (f a) (List.mem_map_of_mem ha))

/-- A list is written as a tuple of the same items is. -/
theorem list {α : Type} {f : α → Value} {g : α → Json} (h : ∀ a, Written (f a) (g a))
    (as : List α) : Written (.list (as.map f)) (.list (as.map g)) where
  exact _ := by nofun
  toJson := (tuple h as).toJson
  document := (tuple h as).document
  plain := (tuple h as).plain

/-- Entries are written one by one, under their keys. -/
theorem mapping {fields : List (String × Value)} {members : List (String × Json)}
    (h : List.Forall₂ (fun f m => f.1 = m.1 ∧ Written f.2 m.2) fields members)
    (hn : (members.map Prod.fst).Nodup) :
    Written (.mapping (Model.entries fields)) (.object members) where
  exact _ := by nofun
  toJson inner := by
    have hkey : ∀ s, keyText inner (.text s) = .ok s := by
      intro s
      cases inner <;> rfl
    have hentries : entriesToJson inner (Model.entries fields) = .ok members := by
      clear hn
      induction h with
      | nil => rfl
      | @cons f m _ _ hfirst _ ih =>
        obtain ⟨key, v⟩ := f
        obtain ⟨key', j⟩ := m
        obtain ⟨rfl, hv⟩ := hfirst
        have hj := hv.toJson inner
        rw [entries_cons, entriesToJson, hkey, hj, ih]
        rfl
    rw [Value.toJson, hentries, Except.map, Json.ofPairs_of_nodup hn]
  document hover := by
    have hall := anyEntryOverlong_entries.1 hover
    have hmembers : memberDocuments (dumpEntries (Model.entries fields)) = .ok members := by
      clear hn hover
      induction h with
      | nil => rfl
      | @cons f m _ _ hfirst _ ih =>
        obtain ⟨key, v⟩ := f
        obtain ⟨key', j⟩ := m
        obtain ⟨rfl, hv⟩ := hfirst
        rw [List.forall_mem_cons] at hall
        have hj := hv.document hall.1
        rw [entries_cons, dumpEntries, memberDocuments, hj, ih hall.2]
        rfl
    rw [dump, Value.document, hmembers, Except.map, Json.ofPairs_of_nodup hn]
  plain hover := .object hn (plain_members h (anyEntryOverlong_entries.1 hover))

/-- Labels are written in their order. -/
theorem labels (labels : Labels) :
    Written (.mapping (labels.entries.map fun (k, v) => (.text k, .text v)))
      (.ofLabels labels) := by
  have hfields : Written (.mapping (Model.entries (labels.entries.map fun e => (e.1, .text e.2))))
      (.ofLabels labels) := by
    refine mapping ?_ (Json.nodup_ofLabels labels)
    rw [List.forall₂_map_left_iff, List.forall₂_map_right_iff, List.forall₂_same]
    exact fun e _ => ⟨rfl, .text e.2⟩
  rwa [Model.entries, List.map_map] at hfields

/-- Fields are written one by one, under their names. -/
theorem record {fields : List (String × Value)} {members : List (String × Json)}
    {known : List String}
    (h : List.Forall₂ (fun f m => f.1 = m.1 ∧ Written f.2 m.2) fields members)
    (hknown : members.map Prod.fst = known) (hn : known.Nodup) (model : String) :
    Written (.record model fields) (.object members) where
  exact _ := by nofun
  toJson inner := by
    have hfields : ∀ declared, fieldsToJson declared fields = .ok members := by
      intro declared
      clear hknown hn
      induction h with
      | nil => rfl
      | @cons f m _ _ hfirst _ ih =>
        obtain ⟨name, v⟩ := f
        obtain ⟨name', j⟩ := m
        obtain ⟨rfl, hv⟩ := hfirst
        have hj := hv.toJson true
        unfold fieldsToJson
        split
        · rename_i x
          exact absurd rfl (hv.exact x)
        · simp only [hj, ih, bind, Except.bind]
    rw [Value.toJson, hfields]
    rfl
  document hover := by
    have hall : ∀ f ∈ fields, f.2.isOverlong = false := anyFieldOverlong_eq_false.1 hover
    have hmembers : memberDocuments (dumpFields fields) = .ok members := by
      clear hknown hn hover
      induction h with
      | nil => rfl
      | @cons f m _ _ hfirst _ ih =>
        obtain ⟨name, v⟩ := f
        obtain ⟨name', j⟩ := m
        obtain ⟨rfl, hv⟩ := hfirst
        rw [List.forall_mem_cons] at hall
        have hj := hv.document hall.1
        simp only [dumpFields, memberDocuments, wireKey, hj, ih hall.2, bind, Except.bind]
    rw [dump, Value.document, hmembers, Except.map, Json.ofPairs_of_nodup (hknown ▸ hn)]
  plain hover :=
    .object (hknown ▸ hn) (plain_members h (anyFieldOverlong_eq_false.1 hover))

end Written

end Value

/-! ## Nodes -/

/-- The members of the document of a datanode. -/
def NodeInfo.wireMembers (n : NodeInfo) : List (String × Json) := [
  ("address", .text n.address),
  ("state", .ofWord n.state)]

/-- The document of a datanode. -/
def NodeInfo.wire (n : NodeInfo) : Json := .object n.wireMembers

namespace NodeInfo

theorem nodup_fieldNames : fieldNames.Nodup := by decide

variable (n : NodeInfo)

theorem keys_wireMembers : n.wireMembers.map Prod.fst = fieldNames := rfl

theorem written : (Model.toValue n).Written n.wire :=
  .record (.cons ⟨rfl, .text n.address⟩ (.cons ⟨rfl, .word n.state⟩ .nil))
    n.keys_wireMembers nodup_fieldNames _

theorem describes_arranged (style : Json.Style) : (n.wire.arranged style).Describes n := by
  have hkeys := n.keys_wireMembers
  have hn := nodup_fieldNames
  exact Json.describes_node (Json.keys_arrangement hkeys) (Json.lookup_arrangement hkeys hn rfl rfl)
    (Json.lookup_arrangement hkeys hn rfl rfl)

end NodeInfo

/-- The members of the document of a pool. -/
def NodePool.wireMembers (p : NodePool) : List (String × Json) := [
  ("name", .text p.name),
  ("nodes", .list (p.nodes.map NodeInfo.wire))]

/-- The document of a pool. -/
def NodePool.wire (p : NodePool) : Json := .object p.wireMembers

namespace NodePool

theorem nodup_fieldNames : fieldNames.Nodup := by decide

variable (p : NodePool)

theorem keys_wireMembers : p.wireMembers.map Prod.fst = fieldNames := rfl

theorem written : (Model.toValue p).Written p.wire :=
  .record (.cons ⟨rfl, .text p.name⟩ (.cons ⟨rfl, .tuple NodeInfo.written p.nodes⟩ .nil))
    p.keys_wireMembers nodup_fieldNames _

theorem describes_arranged (style : Json.Style) : (p.wire.arranged style).Describes p := by
  have hkeys := p.keys_wireMembers
  have hn := nodup_fieldNames
  refine Json.describes_pool (Json.keys_arrangement hkeys)
    (Json.lookup_arrangement hkeys hn rfl rfl) (Json.lookup_arrangement hkeys hn rfl rfl) ?_
  rw [Json.arrangedItems_eq_map, List.map_map, List.forall₂_map_left_iff, List.forall₂_same]
  exact fun n _ => n.describes_arranged style

end NodePool

/-! ## Stage changes -/

/-- The members of the document of a stage change. -/
def StageEvent.wireMembers (e : StageEvent) : List (String × Json) := [
  ("subject", .ofWord e.subject),
  ("subject_id", .text e.subjectId),
  ("operation", .ofWord e.operation),
  ("phase", .ofWord e.phase)]

/-- The document of a stage change. -/
def StageEvent.wire (e : StageEvent) : Json := .object e.wireMembers

namespace StageEvent

theorem nodup_fieldNames : fieldNames.Nodup := by decide

variable (e : StageEvent)

theorem keys_wireMembers : e.wireMembers.map Prod.fst = fieldNames := rfl

theorem written : (Model.toValue e).Written e.wire :=
  .record (.cons ⟨rfl, .word e.subject⟩ (.cons ⟨rfl, .text e.subjectId⟩
    (.cons ⟨rfl, .word e.operation⟩ (.cons ⟨rfl, .word e.phase⟩ .nil))))
    e.keys_wireMembers nodup_fieldNames _

theorem describes_arranged (style : Json.Style) : (e.wire.arranged style).Describes e := by
  have hkeys := e.keys_wireMembers
  have hn := nodup_fieldNames
  exact Json.describes_stage (Json.keys_arrangement hkeys)
    (Json.lookup_arrangement hkeys hn rfl rfl) (Json.lookup_arrangement hkeys hn rfl rfl)
    (Json.lookup_arrangement hkeys hn rfl rfl) (Json.lookup_arrangement hkeys hn rfl rfl)

end StageEvent

/-! ## Pipelines -/

/-- The members of the document of a pipeline. -/
def Pipeline.wireMembers (p : Pipeline) : List (String × Json) := [
  ("name", .ofName p.name),
  ("members", .list (p.members.map .text)),
  ("leader", .text p.leader),
  ("state", .ofWord p.state),
  ("replication_type", .ofWord p.replicationType),
  ("replication_factor", .ofWord p.replicationFactor)]

/-- The document of a pipeline. -/
def Pipeline.wire (p : Pipeline) : Json := .object p.wireMembers

namespace Pipeline

theorem nodup_fieldNames : fieldNames.Nodup := by decide

variable (p : Pipeline)

theorem keys_wireMembers : p.wireMembers.map Prod.fst = fieldNames := rfl

theorem written_name (name : Option String) :
    Value.Written (match name with | some name => .text name | none => .null) (.ofName name) := by
  cases name with
  | none => exact .null
  | some name => exact .text name

theorem written : (Model.toValue p).Written p.wire :=
  .record (.cons ⟨rfl, written_name p.name⟩ (.cons ⟨rfl, .tuple Value.Written.text p.members⟩
    (.cons ⟨rfl, .text p.leader⟩ (.cons ⟨rfl, .word p.state⟩ (.cons ⟨rfl, .word p.replicationType⟩
      (.cons ⟨rfl, .word p.replicationFactor⟩ .nil))))))
    p.keys_wireMembers nodup_fieldNames _

theorem describes_arranged (style : Json.Style) : (p.wire.arranged style).Describes p := by
  have hkeys := p.keys_wireMembers
  have hn := nodup_fieldNames
  have hname : (Json.ofName p.name).arranged style = Json.ofName p.name := by
    cases p.name <;> rfl
  have hmembers : (Json.list (p.members.map .text)).arranged style =
      .list (p.members.map .text) := by
    rw [Json.arranged, Json.arrangedItems_eq_map, List.map_map]
    rfl
  exact Json.describes_pipeline (Json.keys_arrangement hkeys)
    (Json.lookup_arrangement hkeys hn rfl hname) (Json.lookup_arrangement hkeys hn rfl hmembers)
    (Json.lookup_arrangement hkeys hn rfl rfl) (Json.lookup_arrangement hkeys hn rfl rfl)
    (Json.lookup_arrangement hkeys hn rfl rfl) (Json.lookup_arrangement hkeys hn rfl rfl)

end Pipeline

/-! ## Records -/

/-- The members of the document of a record. -/
def ContainerRecord.wireMembers (r : ContainerRecord) : List (String × Json) := [
  ("container_id", .int r.containerId),
  ("pipeline", r.pipeline.wire),
  ("state", .ofWord r.state),
  ("allocated_bytes", .int r.allocatedBytes),
  ("used_bytes", .int r.usedBytes),
  ("number_of_keys", .int r.numberOfKeys),
  ("owner", .text r.owner)]

/-- The document of a record. -/
def ContainerRecord.wire (r : ContainerRecord) : Json := .object r.wireMembers

namespace ContainerRecord

theorem nodup_fieldNames : fieldNames.Nodup := by decide

variable (r : ContainerRecord)

theorem keys_wireMembers : r.wireMembers.map Prod.fst = fieldNames := rfl

theorem written : (Model.toValue r).Written r.wire :=
  .record (.cons ⟨rfl, .int r.containerId⟩ (.cons ⟨rfl, r.pipeline.written⟩
    (.cons ⟨rfl, .word r.state⟩ (.cons ⟨rfl, .int r.allocatedBytes⟩ (.cons ⟨rfl, .int r.usedBytes⟩
      (.cons ⟨rfl, .int r.numberOfKeys⟩ (.cons ⟨rfl, .text r.owner⟩ .nil)))))))
    r.keys_wireMembers nodup_fieldNames _

theorem describes_arranged (style : Json.Style) : (r.wire.arranged style).Describes r := by
  have hkeys := r.keys_wireMembers
  have hn := nodup_fieldNames
  exact Json.describes_record (Json.keys_arrangement hkeys)
    (Json.lookup_arrangement hkeys hn rfl rfl) (Json.lookup_arrangement hkeys hn rfl rfl)
    (r.pipeline.describes_arranged style) (Json.lookup_arrangement hkeys hn rfl rfl)
    (Json.lookup_arrangement hkeys hn rfl rfl) (Json.lookup_arrangement hkeys hn rfl rfl)
    (Json.lookup_arrangement hkeys hn rfl rfl) (Json.lookup_arrangement hkeys hn rfl rfl)

end ContainerRecord

/-- The members of the document of a snapshot. -/
def ContainerData.wireMembers (d : ContainerData) : List (String × Json) := [
  ("container_id", .int d.containerId),
  ("state", .ofWord d.state),
  ("size_bytes", .int d.sizeBytes),
  ("bytes_used", .int d.bytesUsed),
  ("key_count", .int d.keyCount),
  ("container_path", .text d.containerPath),
  ("db_path", .text d.dbPath),
  ("hash", .text d.hash),
  ("metadata", .ofLabels d.metadata)]

/-- The document of a snapshot. -/
def ContainerData.wire (d : ContainerData) : Json := .object d.wireMembers

namespace ContainerData

theorem nodup_fieldNames : fieldNames.Nodup := by decide

variable (d : ContainerData)

theorem keys_wireMembers : d.wireMembers.map Prod.fst = fieldNames := rfl

theorem written : (Model.toValue d).Written d.wire :=
  .record (.cons ⟨rfl, .int d.containerId⟩ (.cons ⟨rfl, .word d.state⟩
    (.cons ⟨rfl, .int d.sizeBytes⟩ (.cons ⟨rfl, .int d.bytesUsed⟩ (.cons ⟨rfl, .int d.keyCount⟩
      (.cons ⟨rfl, .text d.containerPath⟩ (.cons ⟨rfl, .text d.dbPath⟩ (.cons ⟨rfl, .text d.hash⟩
        (.cons ⟨rfl, .labels d.metadata⟩ .nil)))))))))
    d.keys_wireMembers nodup_fieldNames _

/-- The snapshot with its metadata in the order in which a style writes them. -/
def arranged (style : Json.Style) : ContainerData :=
  { d with metadata := Labels.ofList (Json.inOrder style d.metadata.entries) }

theorem describes_arranged (style : Json.Style) :
    (d.wire.arranged style).Describes (d.arranged style) := by
  have hkeys := d.keys_wireMembers
  have hn := nodup_fieldNames
  have hmetadata : (Json.ofLabels d.metadata).arranged style =
      .object ((Json.inOrder style d.metadata.entries).map fun e => (e.1, .text e.2)) := by
    unfold Json.ofLabels
    rw [Json.arranged, Json.arrangedMembers_eq_map, List.map_map, ← Json.inOrder_map]
    rfl
  exact Json.describes_data (Json.keys_arrangement hkeys)
    (Json.lookup_arrangement hkeys hn rfl rfl) (Json.lookup_arrangement hkeys hn rfl rfl)
    (Json.lookup_arrangement hkeys hn rfl rfl) (Json.lookup_arrangement hkeys hn rfl rfl)
    (Json.lookup_arrangement hkeys hn rfl rfl) (Json.lookup_arrangement hkeys hn rfl rfl)
    (Json.lookup_arrangement hkeys hn rfl rfl) (Json.lookup_arrangement hkeys hn rfl rfl)
    (Json.lookup_arrangement hkeys hn rfl hmetadata) rfl

theorem arranged_of_unsorted {style : Json.Style} (h : style.sorted = false) :
    d.arranged style = d := by
  have horder : Json.inOrder style d.metadata.entries = d.metadata.entries := by
    simp [Json.inOrder, h]
  unfold arranged
  rw [horder, Labels.ofList_entries]

end ContainerData

end Stowage
