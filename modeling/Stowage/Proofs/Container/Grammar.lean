import Stowage.Proofs.Container.Documents

/-!
The grammar of container records.

What a document has to be in order to describe a record is written down in terms of the document
alone (`Json.RecordForm`): the keys that it may have, the form of each member, and what counts where
a member is left out. The checks accept exactly that (`Json.describes_record_iff`).
-/

namespace Stowage

variable {α β : Type} {j : Json} {fields : List (String × Json)} {name : String}

namespace Json

/-- The integers that a document can be read as: an integer, a truth value as 0 or 1, an integral
number strictly within the bounds of 64 bits, and a text that is a literal of one. -/
inductive Integral : Json → Int → Prop
  | int (i : Int) : Integral (.int i) i
  | bool (b : Bool) : Integral (.bool b) (if b then 1 else 0)
  | float {x : Double} {i : Int} : x.integer? = some i → -2 ^ 63 < i → i < 2 ^ 63 →
    Integral (.float x) i
  | text {s : String} {i : Int} : Checked.integerLiteral s = .fits i → Integral (.text s) i

/-- The integers that are not negative, as numbers. -/
def Natural (j : Json) (n : Nat) : Prop := j.Integral n

/-- A member of a form, or none if something counts where there is none. -/
def Member (fields : List (String × Json)) (name : String) (form : Json → α → Prop)
    (absent : Option α) (a : α) : Prop :=
  match fields.lookup name with
  | some j => form j a
  | none => absent = some a

/-- The form of a pipeline. -/
inductive PipelineForm : Json → Pipeline → Prop
  | intro {fields : List (String × Json)} {name : Option String} {members : List String}
      {leader : String} {state : LifeCycleState} {type : ReplicationType}
      {factor : ReplicationFactor} :
    (∀ k ∈ fields.map Prod.fst, k ∈ Pipeline.fieldNames) →
    Member fields "name" (fun j name => j = ofName name) (some none) name →
    Member fields "members" (fun j members => j = .list (members.map .text)) (some []) members →
    Member fields "leader" (fun j leader => j = .text leader) (some "") leader →
    Member fields "state" (fun j state => j = ofWord state) (some .allocated) state →
    Member fields "replication_type" (fun j type => j = ofWord type) (some .standAlone) type →
    Member fields "replication_factor" (fun j factor => j = ofWord factor) (some .one) factor →
    (known : Pipeline.LeaderKnown members leader) →
    PipelineForm (.object fields) ⟨name, members, leader, state, type, factor, known⟩

/-- The form of a record. -/
inductive RecordForm : Json → ContainerRecord → Prop
  | intro {fields : List (String × Json)} {record : ContainerRecord} :
    (∀ k ∈ fields.map Prod.fst, k ∈ ContainerRecord.fieldNames) →
    Member fields "container_id" Natural none record.containerId →
    Member fields "pipeline" PipelineForm none record.pipeline →
    Member fields "state" (fun j state => j = ofWord state) (some .allocated) record.state →
    Member fields "allocated_bytes" Natural (some 0) record.allocatedBytes →
    Member fields "used_bytes" Natural (some 0) record.usedBytes →
    Member fields "number_of_keys" Natural (some 0) record.numberOfKeys →
    Member fields "owner" (fun j owner => j = .text owner) (some "") record.owner →
    RecordForm (.object fields) record

end Json

namespace Checked

open Json (ofWord ofName)

/-! ## Single values -/

theorem integerOfDouble_eq_fits {x : Double} {i : Int} :
    integerOfDouble x = .fits i ↔ x.integer? = some i ∧ -2 ^ 63 < i ∧ i < 2 ^ 63 := by
  have hbound : wordBound = 2 ^ 63 := by decide
  unfold integerOfDouble
  rw [hbound]
  cases x with
  | nan => simp [Double.isFinite, Double.integer?, fail]
  | infinite negative => simp [Double.isFinite, Double.integer?, fail]
  | finite negative m e =>
    simp only [Double.isFinite, Bool.not_true, Bool.false_eq_true, if_false]
    cases (Double.finite negative m e).integer? with
    | none => simp [fail]
    | some k =>
      dsimp only
      split
      · rename_i hk
        rw [fits.injEq, Option.some.injEq]
        constructor
        · rintro rfl
          exact ⟨rfl, hk⟩
        · exact fun h => h.1
      · rename_i hk
        refine iff_of_false (by rintro ⟨⟩) ?_
        rintro ⟨⟨⟩, hi⟩
        exact hk hi

theorem integer_eq_fits {i : Int} : integer j.toValue = .fits i ↔ j.Integral i := by
  cases j with
  | null | list | object =>
    exact iff_of_false (by rintro ⟨⟩) (by rintro ⟨⟩)
  | bool b =>
    constructor
    · rintro ⟨⟩
      exact .bool _
    · rintro ⟨⟩
      rfl
  | int k =>
    constructor
    · rintro ⟨⟩
      exact .int _
    · rintro ⟨⟩
      rfl
  | float x =>
    refine (integerOfDouble_eq_fits (x := x)).trans ?_
    constructor
    · rintro ⟨hx, hlow, hhigh⟩
      exact .float hx hlow hhigh
    · rintro ⟨⟩
      exact ⟨‹_›, ‹_›, ‹_›⟩
  | text s =>
    constructor
    · exact .text
    · rintro ⟨⟩
      assumption

theorem natural_eq_fits {n : Nat} : natural j.toValue = .fits n ↔ j.Natural n := by
  unfold Json.Natural natural
  rw [← integer_eq_fits]
  cases integer j.toValue with
  | faulty issues => simp [andThen]
  | fits i =>
    simp only [andThen, fits.injEq]
    split
    · simp only [fits.injEq]
      omega
    · simp only [fail, reduceCtorEq, false_iff]
      omega

theorem text_eq_fits {s : String} : text j.toValue = .fits s ↔ j = .text s := by
  cases j with
  | text s' =>
    have htext : text (Json.text s').toValue = .fits s' := rfl
    simp [htext]
  | _ => exact iff_of_false (by rintro ⟨⟩) (by rintro ⟨⟩)

theorem ofValue?_eq_some [Vocabulary α] [LawfulVocabulary α] {w : String} {a : α} :
    Vocabulary.ofValue? w = some a ↔ w = Vocabulary.value a := by
  constructor
  · intro h
    have hfound := List.find?_some h
    exact (beq_iff_eq.1 hfound).symm
  · rintro rfl
    exact LawfulVocabulary.ofValue?_value a

theorem word_eq_fits [Vocabulary α] [LawfulVocabulary α] {a : α} :
    word j.toValue = .fits a ↔ j = ofWord a := by
  unfold ofWord
  cases j with
  | text w =>
    have hword : word (Json.text w).toValue = .fits a ↔ Vocabulary.ofValue? w = some a := by
      cases hfound : (Vocabulary.ofValue? w : Option α) <;>
        simp [word, Json.toValue, Value.text?, hfound, fail]
    rw [hword, ofValue?_eq_some, Json.text.injEq]
  | _ => exact iff_of_false (by rintro ⟨⟩) (by rintro ⟨⟩)

theorem nullable_text_eq_fits {name : Option String} :
    nullable text j.toValue = .fits name ↔ j = ofName name := by
  cases j with
  | null => cases name <;> simp [Json.toValue, nullable, ofName]
  | text s =>
    have htext : nullable text (Json.text s).toValue = .fits (some s) := rfl
    rw [htext]
    cases name <;> simp [ofName]
  | _ => cases name <;> exact iff_of_false (by rintro ⟨⟩) (by rintro ⟨⟩)

theorem sequence_text_eq_fits {texts : List String} :
    sequence text j.toValue = .fits texts ↔ j = .list (texts.map .text) := by
  cases j with
  | list items =>
    have hitems : sequence text (Json.list items).toValue = .fits texts ↔
        List.Forall₂ (fun j s => text j.toValue = .fits s) items texts := items_eq_fits 0
    have hmap : List.Forall₂ (fun j s => j = Json.text s) items texts ↔
        items = texts.map .text := by
      rw [← List.forall₂_eq_eq_eq, List.forall₂_map_right_iff]
    simp only [hitems, text_eq_fits, hmap, Json.list.injEq]
  | _ => exact iff_of_false (by rintro ⟨⟩) (by rintro ⟨⟩)

/-! ## Fields -/

theorem field_eq_fits {check : Value → Checked α} {form : Json → α → Prop} {absent : Option α}
    {a : α} (h : ∀ j a, check j.toValue = .fits a ↔ form j a) :
    field (Json.toEntries fields) name check absent = .fits a ↔
      Json.Member fields name form absent a := by
  unfold field Json.Member
  rw [Json.get?_toEntries]
  cases fields.lookup name with
  | none => cases absent <;> simp [fail, within]
  | some j =>
    dsimp only [Option.map_some]
    rw [← h]
    cases check j.toValue <;> simp [within]

theorem natural_field {absent : Option Nat} {n : Nat} :
    field (Json.toEntries fields) name natural absent = .fits n ↔
      Json.Member fields name Json.Natural absent n :=
  field_eq_fits fun _ _ => natural_eq_fits

theorem text_field {absent : Option String} {s : String} :
    field (Json.toEntries fields) name text absent = .fits s ↔
      Json.Member fields name (fun j s => j = .text s) absent s :=
  field_eq_fits fun _ _ => text_eq_fits

theorem word_field [Vocabulary α] [LawfulVocabulary α] {absent : Option α} {a : α} :
    field (Json.toEntries fields) name word absent = .fits a ↔
      Json.Member fields name (fun j a => j = ofWord a) absent a :=
  field_eq_fits fun _ _ => word_eq_fits

theorem andThen_eq_fits {x : Checked α} {f : α → Checked β} {b : β} :
    x.andThen f = .fits b ↔ ∃ a, x = .fits a ∧ f a = .fits b := by
  cases x <;> simp [andThen]

end Checked

namespace Json

/-! ## Models -/

/-- A pipeline is made of its fields if its leader is known. -/
theorem ofFields_eq_fits {name : Option String} {members : List String} {leader : String}
    {state : LifeCycleState} {type : ReplicationType} {factor : ReplicationFactor} {p : Pipeline} :
    Pipeline.ofFields name members leader state type factor = .fits p ↔
      ∃ known, p = ⟨name, members, leader, state, type, factor, known⟩ := by
  unfold Pipeline.ofFields
  split
  · rename_i known
    simp [known, eq_comm]
  · rename_i unknown
    simp [unknown, Checked.fail]

theorem describes_pipeline_iff {p : Pipeline} : j.Describes p ↔ j.PipelineForm p := by
  constructor
  · intro h
    obtain ⟨fields, rfl, h⟩ := h.exists_members
    change Pipeline.read (toEntries fields) = _ at h
    obtain ⟨made, h, hmade⟩ := Checked.andThen_eq_fits.1 h
    simp only [Checked.seqLeft_eq_fits, Checked.seq_eq_fits, Checked.map_eq_fits] at h
    obtain ⟨⟨_, ⟨_, ⟨_, ⟨_, ⟨_, ⟨name, hname, rfl⟩, members, hmembers, rfl⟩, leader, hleader, rfl⟩,
      state, hstate, rfl⟩, type, htype, rfl⟩, factor, hfactor, rfl⟩, _, hkeys⟩ := h
    obtain ⟨known, rfl⟩ := ofFields_eq_fits.1 hmade
    exact .intro (Checked.noOthers_eq_fits.1 hkeys)
      ((Checked.field_eq_fits fun _ _ => Checked.nullable_text_eq_fits).1 hname)
      ((Checked.field_eq_fits fun _ _ => Checked.sequence_text_eq_fits).1 hmembers)
      (Checked.text_field.1 hleader) (Checked.word_field.1 hstate) (Checked.word_field.1 htype)
      (Checked.word_field.1 hfactor) known
  · rintro ⟨hkeys, hname, hmembers, hleader, hstate, htype, hfactor, known⟩
    change Pipeline.read (toEntries _) = _
    unfold Pipeline.read
    rw [(Checked.field_eq_fits fun _ _ => Checked.nullable_text_eq_fits).2 hname,
      (Checked.field_eq_fits fun _ _ => Checked.sequence_text_eq_fits).2 hmembers,
      Checked.text_field.2 hleader, Checked.word_field.2 hstate, Checked.word_field.2 htype,
      Checked.word_field.2 hfactor, Checked.noOthers_eq_fits.2 hkeys]
    exact ofFields_eq_fits.2 ⟨known, rfl⟩

/-- **The checks accept the form of a record**, and give the record that has the values of the
members that are there, and for all others what counts where they are left out. -/
theorem describes_record_iff {record : ContainerRecord} :
    j.Describes record ↔ j.RecordForm record := by
  have hform : ∀ (j : Json) (p : Pipeline), Model.check j.toValue = .fits p ↔ j.PipelineForm p :=
    fun _ _ => describes_pipeline_iff
  constructor
  · intro h
    obtain ⟨fields, rfl, h⟩ := h.exists_members
    change ContainerRecord.read (toEntries fields) = _ at h
    unfold ContainerRecord.read at h
    simp only [Checked.seqLeft_eq_fits, Checked.seq_eq_fits, Checked.map_eq_fits] at h
    obtain ⟨⟨_, ⟨_, ⟨_, ⟨_, ⟨_, ⟨_, ⟨id, hid, rfl⟩, pipeline, hpipeline, rfl⟩, state, hstate, rfl⟩,
      allocated, hallocated, rfl⟩, used, hused, rfl⟩, count, hcount, rfl⟩, owner, howner, rfl⟩,
      _, hkeys⟩ := h
    exact .intro (Checked.noOthers_eq_fits.1 hkeys) (Checked.natural_field.1 hid)
      ((Checked.field_eq_fits hform).1 hpipeline) (Checked.word_field.1 hstate)
      (Checked.natural_field.1 hallocated) (Checked.natural_field.1 hused)
      (Checked.natural_field.1 hcount) (Checked.text_field.1 howner)
  · rintro ⟨hkeys, hid, hpipeline, hstate, hallocated, hused, hcount, howner⟩
    change ContainerRecord.read (toEntries _) = _
    unfold ContainerRecord.read
    rw [Checked.natural_field.2 hid, (Checked.field_eq_fits hform).2 hpipeline,
      Checked.word_field.2 hstate, Checked.natural_field.2 hallocated,
      Checked.natural_field.2 hused, Checked.natural_field.2 hcount,
      Checked.text_field.2 howner, Checked.noOthers_eq_fits.2 hkeys]
    rfl

end Json

end Stowage
