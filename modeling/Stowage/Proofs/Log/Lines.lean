import Stowage.Proofs.Json.Legible
import Stowage.Proofs.Log.Core

/-!
Records and lines, one to one.

A JSON line is made of the time and of what its record says: level, logger, message, context and
failure (`Parts`). Whatever these are, the line is legible and holds no line break, and it is read
back as the core fields with the context over them and the failure over that (`Parts.read_line`). So
nothing that is logged can look like another record, or like a field that its record does not have.
-/

namespace Stowage

namespace Log

/-- What a record says on a JSON line: level, logger, filled message, context and failure. -/
structure Parts where
  level : String
  logger : String
  message : String
  context : Labels
  failure : Option String

namespace Parts

variable (time : String) (p : Parts)

/-- The core fields. -/
def core : List (String × String) := [
  ("timestamp", time),
  ("level", p.level),
  ("logger", p.logger),
  ("message", p.message)]

/-- What a line has to say under a name: the failure if there is one, or else what the context
holds, or else a core field. -/
def payload (key : String) : Option String :=
  (if key = "exception" then p.failure else none).or
    ((p.context.get? key).or ((p.core time).lookup key))

/-- The fields of a line: the core fields, over them the context, over that the failure. -/
def fields : Labels :=
  let fields := (Labels.ofList (p.core time)).insertAll p.context
  match p.failure with
  | some text => fields.insert "exception" text
  | none => fields

/-- The line of a record. -/
def line : String := (Record.labelsJson (p.fields time)).write .compact

theorem get?_fields (key : String) : (p.fields time).get? key = p.payload time key := by
  have hcore : ((p.core time).map Prod.fst).Nodup := by simp [core]
  have hlaid : ((Labels.ofList (p.core time)).insertAll p.context).get? key =
      (p.context.get? key).or ((p.core time).lookup key) := by
    rw [Labels.get?_insertAll, Labels.get?_ofList hcore]
  unfold fields payload
  cases p.failure with
  | none =>
    rw [ite_self, ← hlaid]
    rfl
  | some text =>
    rw [Labels.get?_insert, hlaid]
    split <;> rfl

/-- A line holds no line break and nothing that is no ASCII. -/
theorem legible_line : ∀ c ∈ (p.line time).toList, Text.Legible c :=
  Json.legible_write Json.Style.ascii_compact rfl _

/-- A line is read back as what it has to say. -/
theorem read_line : ∃ members, Json.read (p.line time) = .ok (.object members) ∧
    (members.map Prod.fst).Nodup ∧
      ∀ key, members.lookup key = (p.payload time key).map Json.text := by
  refine ⟨_, Json.read_write_ofLabels (p.fields time), Json.nodup_ofLabels _, ?_⟩
  intro key
  rw [Json.lookup_texts, ← get?_fields]
  rfl

end Parts

/-- What a record says on a JSON line, if its message can be filled in and its failure is not
hidden. -/
def Record.parts? (r : Record) : Option Parts := do
  let message ← r.filled?
  let failure ← r.failure?
  some ⟨r.part "levelname" (levelName r.level), r.part "name" r.logger, message, r.shownContext,
    failure⟩

theorem Record.jsonLine?_eq (r : Record) (time : String) :
    r.jsonLine? time = r.parts?.map (Parts.line time) := by
  unfold jsonLine? fields? parts?
  cases r.filled? with
  | none => rfl
  | some message =>
    cases r.failure? with
    | none => rfl
    | some failure => rfl

theorem Record.isSome_parts? (r : Record) : r.parts?.isSome = true ↔
    r.filled?.isSome = true ∧ r.failure?.isSome = true := by
  unfold parts?
  cases r.filled? with
  | none => simp
  | some message => cases r.failure? <;> simp

/-- A record whose context binds no reserved name speaks for itself. -/
theorem Record.parts?_of_unreserved {r : Record} {text : String}
    (h : ∀ name ∈ reservedNames, r.context.get? name = none)
    (hfilled : fillMessage? r.message r.arguments = some text) :
    r.parts? = some ⟨levelName r.level, r.logger, text, r.context, r.failure⟩ := by
  have hmessage : r.filled? = some text := by
    unfold filled? part
    rw [h "getMessage" (by decide), h "args" (by decide), h "msg" (by decide)]
    exact hfilled
  have hfailure : r.failure? = some r.failure := by
    unfold failure?
    rw [h "exc_info" (by decide)]
  have hcontext : r.shownContext = r.context := by
    unfold shownContext
    rw [h "context" (by decide)]
    rfl
  unfold parts? part
  rw [hmessage, hfailure, hcontext, h "levelname" (by decide), h "name" (by decide)]
  rfl

/-- **One record, one line that can be decoded.** Whatever a record says, its line holds ASCII
without line breaks only, and is read back as the core fields with the context over them and the
failure over that. A record is written as that line if its message can be filled in and its failure
is not hidden, which is so where no reserved name is bound. What is written of several records has
their lines and no others. -/
theorem written_decoded :
    (∀ (time : String) (p : Parts), (∀ c ∈ (p.line time).toList, Text.Legible c) ∧
      ∃ members, Json.read (p.line time) = .ok (.object members) ∧
        (members.map Prod.fst).Nodup ∧
          ∀ key, members.lookup key = (p.payload time key).map Json.text) ∧
    (∀ (time : String) (r : Record), r.jsonLine? time = r.parts?.map (Parts.line time) ∧
      (r.parts?.isSome = true ↔ r.filled?.isSome = true ∧ r.failure?.isSome = true)) ∧
    (∀ (r : Record) (text : String), (∀ name ∈ reservedNames, r.context.get? name = none) →
      fillMessage? r.message r.arguments = some text →
        r.parts? = some ⟨levelName r.level, r.logger, text, r.context, r.failure⟩) ∧
    ∀ written : List (String × Parts),
      Text.lines (String.join ((written.map fun e => e.2.line e.1).map (· ++ "\n"))) =
        written.map fun e => e.2.line e.1 := by
  refine ⟨fun time p => ⟨p.legible_line time, p.read_line time⟩,
    fun time r => ⟨r.jsonLine?_eq time, r.isSome_parts?⟩,
    fun r text => Record.parts?_of_unreserved, ?_⟩
  intro written
  apply Text.lines_join
  intro s hs c hc
  obtain ⟨e, -, rfl⟩ := List.mem_map.1 hs
  exact (e.2.legible_line e.1 c hc).not_endsLine

/-- A message that looks like the end of its record and the beginning of another stays a message. -/
theorem written_decoded_forged :
    let forged := "x\"\x7d\n\x7b\"level\":\"ERROR"
    let r : Record := {
      logger := "app", level := 20, message := forged
      failure := some "ValueError: \u2028", context := Labels.ofList [("owner", "a\r\nb")] }
    (∀ name ∈ reservedNames, r.context.get? name = none) ∧
      fillMessage? r.message r.arguments = some forged ∧
      ∃ line members, r.jsonLine? "now" = some line ∧ Text.lines (line ++ "\n") = [line] ∧
        Json.read line = .ok (.object members) ∧
        members.lookup "message" = some (.text forged) ∧
        members.lookup "level" = some (.text "INFO") ∧
        members.lookup "exception" = some (.text "ValueError: \u2028") ∧
        members.lookup "owner" = some (.text "a\r\nb") := by
  intro forged r
  have hreserved : ∀ name ∈ reservedNames, r.context.get? name = none := by decide
  have hfilled : fillMessage? r.message r.arguments = some forged := rfl
  obtain ⟨hdecoded, hwritten, hparts, hlines⟩ := written_decoded
  have hown := hparts r forged hreserved hfilled
  obtain ⟨-, members, hread, -, hmembers⟩ := hdecoded "now"
    ⟨levelName r.level, r.logger, forged, r.context, r.failure⟩
  have hline := (hwritten "now" r).1
  rw [hown] at hline
  refine ⟨hreserved, hfilled, _, members, hline, ?_, hread, ?_, ?_, ?_, ?_⟩
  · simpa using hlines [("now", ⟨levelName r.level, r.logger, forged, r.context, r.failure⟩)]
  all_goals
    rw [hmembers]
    rfl

end Log

end Stowage
