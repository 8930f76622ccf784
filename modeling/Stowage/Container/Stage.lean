import Stowage.Container.Vocabulary
import Stowage.Validation.Scalar

/-!
Stage changes: the notes that the placement service is sent at the beginning and at the end of an
operation.
-/

namespace Stowage

/-- A note that an operation on a subject has begun or is complete. -/
structure StageEvent where
  subject : StageSubject
  subjectId : String
  operation : StageOperation
  phase : StagePhase
  deriving DecidableEq, Repr

namespace StageEvent

def fieldNames : List String := ["subject", "subject_id", "operation", "phase"]

/-- Read a stage change off the entries of a mapping. -/
def read (es : Entries) : Checked StageEvent :=
  StageEvent.mk
    <$> Checked.field es "subject" Checked.word
    <*> Checked.field es "subject_id" Checked.text
    <*> Checked.field es "operation" Checked.word
    <*> Checked.field es "phase" Checked.word
    <* Checked.noOthers fieldNames es

instance : Model StageEvent where
  title := "StageEvent"
  read := read
  fields e := [
    ("subject", .ofMember e.subject),
    ("subject_id", .text e.subjectId),
    ("operation", .ofMember e.operation),
    ("phase", .ofMember e.phase)]

end StageEvent

end Stowage
