import Stowage.Proofs.Container.RoundTrip
import Stowage.Proofs.Log.Configured
import Stowage.Proofs.Value.Labels

/-!
The core fields of JSON lines.

A line is the core fields of its record with the bound context laid over them, and the context is
laid over the record before. So a bound name that is also the name of a core field, or of the part
of a record that one is made from, takes its place, and some names cost the line
(`written_faithful_iff`).
-/

namespace Stowage

variable {σ : Type}

theorem Labels.get?_ofList {es : List (String × String)} (h : (es.map Prod.fst).Nodup)
    (key : String) : (Labels.ofList es).get? key = es.lookup key := by
  unfold Labels.get?
  rw [Labels.entries_ofList h]

/-- Labels that are written on a line are read back. -/
theorem Json.read_write_ofLabels (labels : Labels) :
    Json.read ((Json.ofLabels labels).write .compact) = .ok (.ofLabels labels) := by
  have hread := readList_writeAt Style.readable_compact (plain_ofLabels labels)
    (List.forall_mem_nil _)
  rw [List.append_nil, arranged_of_unsorted rfl] at hread
  unfold read write
  rw [String.toList_ofList]
  exact hread

theorem Json.lookup_texts (es : List (String × String)) (key : String) :
    (es.map fun e => (e.1, Json.text e.2)).lookup key = (es.lookup key).map Json.text := by
  induction es with
  | nil => rfl
  | cons e r ih =>
    obtain ⟨k, v⟩ := e
    rw [List.map_cons, List.lookup_cons, List.lookup_cons, ih]
    cases key == k <;> rfl

namespace Log

variable {s : Session σ} {c : Labels} {record : Record} {time text line : String}

/-! ## The fields of a line -/

/-- The names of the core fields. -/
def coreNames : List String := ["timestamp", "level", "logger", "message"]

/-- The core fields of a line. -/
def Record.core (r : Record) (time filled : String) : List (String × String) := [
  ("timestamp", time),
  ("level", r.part "levelname" (levelName r.level)),
  ("logger", r.part "name" r.logger),
  ("message", filled)]

/-- What each field of a line holds: the failure that is shown, or what is bound, or a core field. -/
theorem Record.get?_fields {r : Record} {fields : Labels} (h : r.fields? time = some fields) :
    ∃ filled failure, r.filled? = some filled ∧ r.failure? = some failure ∧
      ∀ key, fields.get? key = (if key = "exception" then failure else none).or
        ((r.shownContext.get? key).or ((r.core time filled).lookup key)) := by
  unfold fields? at h
  obtain ⟨filled, hfilled, h⟩ := Option.bind_eq_some_iff.1 h
  obtain ⟨failure, hfailure, h⟩ := Option.bind_eq_some_iff.1 h
  refine ⟨filled, failure, hfilled, hfailure, fun key => ?_⟩
  have hcore : ((r.core time filled).map Prod.fst).Nodup := by simp [core]
  have hlaid : ((Labels.ofList (r.core time filled)).insertAll r.shownContext).get? key =
      (r.shownContext.get? key).or ((r.core time filled).lookup key) := by
    rw [Labels.get?_insertAll, Labels.get?_ofList hcore]
  rw [← hlaid]
  cases failure with
  | none =>
    cases h
    rw [ite_self]
    rfl
  | some shown =>
    cases h
    rw [Labels.get?_insert]
    split <;> rfl

theorem Record.exists_fields {r : Record} {filled : String} {failure : Option String}
    (hfilled : r.filled? = some filled) (hfailure : r.failure? = some failure) (time : String) :
    ∃ fields, r.fields? time = some fields := by
  unfold fields?
  rw [hfilled, hfailure]
  exact ⟨_, rfl⟩

/-- The members of a line say level, logger and message of a record, and of all other names what is
bound to them. -/
structure Faithful (c : Labels) (record : Record) (text : String)
    (members : List (String × Json)) : Prop where
  level : members.lookup "level" = some (.text (levelName record.level))
  logger : members.lookup "logger" = some (.text record.logger)
  message : members.lookup "message" = some (.text text)
  bound : ∀ name value, name ∉ coreNames → c.get? name = some value →
    members.lookup name = some (.text value)

/-- What is bound leaves a record alone: it can be written, and the names of the core fields, of the
parts that they are made from, and of the failure are bound to nothing else than they stand for. -/
structure Untouched (c : Labels) (record : Record) (text : String) : Prop where
  whole : ∀ e ∈ c.entries, partFault? e.1 = none
  context : c.get? "context" = none
  level : ∀ value, (c.get? "level").or (c.get? "levelname") = some value →
    value = levelName record.level
  logger : ∀ value, (c.get? "logger").or (c.get? "name") = some value → value = record.logger
  message : ∃ filled, { record with context := c }.filled? = some filled ∧
    (c.get? "message").getD filled = text
  failure : ∃ failure, { record with context := c }.failure? = some failure ∧
    ∀ shown value, failure = some shown → c.get? "exception" = some value → value = shown

/-- Names that are not bound as long as all that is bound leaves every record alone. -/
def reservedNames : List String := [
  "__class__", "__dict__", "__weakref__", "context", "level", "levelname", "logger", "name",
  "message", "getMessage", "msg", "args", "exc_info", "exception"]

theorem mem_reservedNames_of_partFault? {name : String} {f : Failure}
    (h : partFault? name = some f) : name ∈ reservedNames := by
  unfold partFault? at h
  split at h
  · decide
  · decide
  · decide
  · cases h

/-- A record is left alone by names that are not reserved. -/
theorem untouched_of_unreserved (hfilled : fillMessage? record.message record.arguments = some text)
    (h : ∀ name ∈ reservedNames, c.get? name = none) : Untouched c record text := by
  have hnone : ∀ name ∈ reservedNames, ∀ e ∈ c.entries, e.1 ≠ name := by
    rintro name hname e he rfl
    exact absurd (List.lookup_eq_none_iff.1 (h e.1 hname) e he) (by simp)
  have hor : ∀ name ∈ reservedNames, ∀ other ∈ reservedNames, ∀ value,
      (c.get? name).or (c.get? other) ≠ some value := by
    intro name hname other hother value
    rw [h name hname, h other hother]
    nofun
  refine ⟨fun e he => ?_, h _ (by decide), fun value hvalue => ?_, fun value hvalue => ?_,
    ⟨text, ?_, ?_⟩, record.failure, ?_, fun shown value _ hvalue => ?_⟩
  · cases hfault : partFault? e.1 with
    | none => rfl
    | some f => exact absurd rfl (hnone _ (mem_reservedNames_of_partFault? hfault) e he)
  · exact absurd hvalue (hor _ (by decide) _ (by decide) value)
  · exact absurd hvalue (hor _ (by decide) _ (by decide) value)
  · unfold Record.filled? Record.part
    dsimp only
    rw [h "getMessage" (by decide), h "args" (by decide), h "msg" (by decide)]
    exact hfilled
  · rw [h "message" (by decide)]
    rfl
  · unfold Record.failure?
    dsimp only
    rw [h "exc_info" (by decide)]
  · rw [h "exception" (by decide)] at hvalue
    cases hvalue

/-! ## When a line is faithful -/

/-- What is bound over something leaves it as it is if it is bound to nothing else. -/
theorem or_getD_eq_iff {first second : Option String} {own : String} :
    first.or (some (second.getD own)) = some own ↔
      ∀ value, first.or second = some value → value = own := by
  cases first with
  | some a => simp
  | none => cases second <;> simp

theorem faithful_fields_iff {fields : Labels}
    (h : { record with context := c }.fields? time = some fields)
    (hwhole : ∀ e ∈ c.entries, partFault? e.1 = none) :
    Faithful c record text (fields.entries.map fun e => (e.1, .text e.2)) ↔
      Untouched c record text := by
  obtain ⟨filled, failure, hfilled, hfailure, hfields⟩ := Record.get?_fields h
  have hmember : ∀ name value, (fields.entries.map fun e => (e.1, Json.text e.2)).lookup name =
      some (.text value) ↔ fields.get? name = some value := by
    intro name value
    rw [Json.lookup_texts]
    unfold Labels.get?
    cases fields.entries.lookup name <;> simp
  have hshown : c.get? "context" = none → { record with context := c }.shownContext = c := by
    intro hcontext
    unfold Record.shownContext
    dsimp only
    rw [hcontext]
    rfl
  have hlaid : c.get? "context" = none → ∀ name, name ≠ "exception" → fields.get? name =
      (c.get? name).or (({ record with context := c }.core time filled).lookup name) := by
    intro hcontext name hname
    rw [hfields, hshown hcontext, if_neg hname]
    rfl
  constructor
  · intro hfaithful
    have hcontext : c.get? "context" = none := by
      cases hbound : c.get? "context" with
      | none => rfl
      | some value =>
        -- the context is hidden, and with it the name that hides it
        have hseen := (hmember _ _).1 (hfaithful.bound "context" value (by decide) hbound)
        have hhidden : { record with context := c }.shownContext = {} := by
          unfold Record.shownContext
          dsimp only
          rw [hbound]
          rfl
        rw [hfields, hhidden, if_neg (by decide)] at hseen
        cases hseen
    have hlaid := hlaid hcontext
    refine ⟨hwhole, hcontext, or_getD_eq_iff.1 ?_, or_getD_eq_iff.1 ?_, ⟨filled, hfilled, ?_⟩,
      failure, hfailure, fun shown value hsome hvalue => ?_⟩
    · exact (hlaid "level" (by decide)).symm.trans ((hmember _ _).1 hfaithful.level)
    · exact (hlaid "logger" (by decide)).symm.trans ((hmember _ _).1 hfaithful.logger)
    · have hmessage := (hlaid "message" (by decide)).symm.trans ((hmember _ _).1 hfaithful.message)
      cases hvalue : c.get? "message" with
      | none =>
        rw [hvalue] at hmessage
        exact Option.some.inj hmessage
      | some value =>
        rw [hvalue] at hmessage
        exact Option.some.inj hmessage
    · have hseen := (hmember _ _).1 (hfaithful.bound "exception" value (by decide) hvalue)
      rw [hfields, if_pos rfl, hsome] at hseen
      exact (Option.some.inj hseen).symm
  · intro huntouched
    have hlaid := hlaid huntouched.context
    refine ⟨(hmember _ _).2 ?_, (hmember _ _).2 ?_, (hmember _ _).2 ?_,
      fun name value hcore hvalue => (hmember _ _).2 ?_⟩
    · exact (hlaid "level" (by decide)).trans (or_getD_eq_iff.2 huntouched.level)
    · exact (hlaid "logger" (by decide)).trans (or_getD_eq_iff.2 huntouched.logger)
    · obtain ⟨filled', hfilled', hmessage⟩ := huntouched.message
      cases hfilled.symm.trans hfilled'
      rw [hlaid "message" (by decide), ← hmessage]
      cases c.get? "message" <;> rfl
    · by_cases hname : name = "exception"
      · subst hname
        obtain ⟨failure', hfailure', hsame⟩ := huntouched.failure
        cases hfailure.symm.trans hfailure'
        rw [hfields, hshown huntouched.context, if_pos rfl, hvalue]
        cases failure with
        | none => rfl
        | some shown => exact congrArg some (hsame shown value rfl hvalue).symm
      · rw [hlaid name hname, hvalue]
        rfl

theorem mem_written_json (hreached : ∃ h ∈ reached s (stamped s record), h.format = .json) :
    (.json, line) ∈ written time s record ↔
      (∀ e ∈ s.context.entries, partFault? e.1 = none) ∧
        (stamped s record).jsonLine? time = some line := by
  obtain ⟨handler, hmem, hjson⟩ := hreached
  have hnone := refusal?_eq_none_iff hmem (hjson ▸ nofun)
  rw [written_eq, ← hnone]
  cases hrefusal : refusal? s record with
  | some f => exact iff_of_false List.not_mem_nil nofun
  | none =>
    refine Iff.trans ?_ (and_iff_right rfl).symm
    simp only [List.mem_filterMap]
    constructor
    · rintro ⟨h, -, hline⟩
      obtain ⟨text, htext, heq⟩ := Option.map_eq_some_iff.1 hline
      obtain ⟨hformat, rfl⟩ := Prod.mk.inj heq
      rw [hformat] at htext
      exact htext
    · intro hline
      refine ⟨handler, hmem, ?_⟩
      rw [hjson]
      exact congrArg _ hline

/-- A line says what it should if and only if what is bound leaves its record alone. -/
theorem exists_faithful_iff (hreached : ∃ h ∈ reached s (stamped s record), h.format = .json)
    (time : String) : (∃ line members, (.json, line) ∈ written time s record ∧
        Json.read line = .ok (.object members) ∧ Faithful s.context record text members) ↔
      Untouched s.context record text := by
  constructor
  · rintro ⟨line, members, hline, hread, hfaithful⟩
    obtain ⟨hwhole, hline⟩ := (mem_written_json hreached).1 hline
    obtain ⟨fields, hfields, rfl⟩ := Option.map_eq_some_iff.1 hline
    cases hread.symm.trans (Json.read_write_ofLabels fields)
    exact (faithful_fields_iff hfields hwhole).1 hfaithful
  · intro h
    obtain ⟨filled, hfilled, -⟩ := h.message
    obtain ⟨failure, hfailure, -⟩ := h.failure
    obtain ⟨fields, hfields⟩ := Record.exists_fields hfilled hfailure time
    have hline : (stamped s record).jsonLine? time = some _ := congrArg (Option.map _) hfields
    exact ⟨_, _, (mem_written_json hreached).2 ⟨h.whole, hline⟩, Json.read_write_ofLabels fields,
      (faithful_fields_iff hfields h.whole).2 h⟩

/-- **When lines keep the core fields of their records.** A record whose message can be filled in and
that reaches a handler which writes JSON becomes a line with its level, its logger, its message and
all other names that are bound, if and only if what is bound leaves it alone. That is so as long as
no reserved name is bound. -/
theorem written_faithful_iff (hfilled : fillMessage? record.message record.arguments = some text)
    (hreached : ∃ h ∈ reached s (stamped s record), h.format = .json) (time : String) :
    ((∃ line members, (.json, line) ∈ written time s record ∧
        Json.read line = .ok (.object members) ∧ Faithful s.context record text members) ↔
      Untouched s.context record text) ∧
    ((∀ name ∈ reservedNames, s.context.get? name = none) →
      Untouched s.context record text) :=
  ⟨exists_faithful_iff hreached time, untouched_of_unreserved hfilled⟩

/-- Names that are not reserved are bound, and a record is written as it is. -/
theorem written_faithful_container :
    let s : Session Unit := {
      context := Labels.ofList [("container_id", "7"), ("trace_id", "t-1")]
      logging := ⟨10, [⟨10, .json⟩]⟩
      world := () }
    let record : Record := {
      logger := "app", level := 10, message := "%s created"
      arguments := .list [.text "container"] }
    fillMessage? record.message record.arguments = some "container created" ∧
      (∃ h ∈ reached s (stamped s record), h.format = .json) ∧
      ∃ line members, (.json, line) ∈ written "now" s record ∧
        Json.read line = .ok (.object members) ∧
        members.lookup "message" = some (.text "container created") ∧
        members.lookup "container_id" = some (.text "7") := by
  intro s record
  have hfilled : fillMessage? record.message record.arguments = some "container created" := by
    decide +kernel
  have hreached : ∃ h ∈ reached s (stamped s record), h.format = .json :=
    ⟨⟨10, .json⟩, by decide, rfl⟩
  have hunreserved : ∀ name ∈ reservedNames, s.context.get? name = none := by decide
  obtain ⟨hiff, hkept⟩ := written_faithful_iff hfilled hreached "now"
  obtain ⟨line, members, hline, hread, hfaithful⟩ := hiff.2 (hkept hunreserved)
  exact ⟨hfilled, hreached, line, members, hline, hread, hfaithful.message,
    hfaithful.bound "container_id" "7" (by decide) rfl⟩

/-- A name is bound that takes the place of the logger on the line. -/
theorem not_faithful_name :
    let start : Session Unit := { logging := ⟨20, [⟨20, .json⟩]⟩, world := () }
    let s := ((bind [(.text "name", .text "p1")]).runFrom start).2
    let record : Record := { logger := "app", level := 20, message := "container closed" }
    fillMessage? record.message record.arguments = some "container closed" ∧
      (∃ h ∈ reached s (stamped s record), h.format = .json) ∧
      ¬ ∃ line members, (.json, line) ∈ written "now" s record ∧
        Json.read line = .ok (.object members) ∧
        Faithful s.context record "container closed" members := by
  intro start s record
  have hcontext : s.context.get? "name" = some "p1" := rfl
  have hreached : ∃ h ∈ reached s (stamped s record), h.format = .json :=
    ⟨⟨20, .json⟩, by decide, rfl⟩
  refine ⟨rfl, hreached, fun h => ?_⟩
  have huntouched := (exists_faithful_iff hreached "now").1 h
  have hlogger : "p1" = "app" := huntouched.logger "p1" hcontext
  exact absurd hlogger (by decide)

end Log

end Stowage
