import Stowage.Decimal.Literal
import Stowage.Failure.Basic
import Stowage.Json.Reader
import Stowage.Text.LetterCase
import Stowage.Text.Split

/-!
Configuration from environment variables.

A variable whose name begins with the prefix sets one path. The rest of the name is cut at doubled
underscores; the segments, without blanks at their ends and in lower case, are the path, and empty
ones do not count.

Text that is plainly a truth value, null, a JSON object or array, an integer or a number becomes
that value. All other text stays as it is, with the blanks around it.
-/

namespace Stowage.Config

/-! ## Values -/

/-- The value of one of the words for truth and null, case aside. -/
def wordValue? (lowered : String) : Option Value :=
  if lowered = "true" then some (.bool true)
  else if lowered = "false" then some (.bool false)
  else if lowered = "null" ∨ lowered = "none" then some .null
  else none

/-- Whether a text announces a JSON object or array. -/
def announcesJson : List Char → Bool
  | '{' :: _ => true
  | '[' :: _ => true
  | _ => false

/-- The value of a variable's text. -/
def coerce (raw : String) : Except Failure Value :=
  let value := Text.trim raw
  match wordValue? (Text.lower value) with
  | some v => .ok v
  | none =>
    if announcesJson value.toList then
      match Json.read value with
      | .ok j => .ok j.toValue
      | .error .malformed => .ok (.text raw)
      | .error (.overlong digits) => .error (.overlongLiteral digits)
    else match Decimal.integer? value with
      | some i => .ok (.int i)
      | none => match Decimal.double? value with
        | some x => .ok (.float x)
        | none => .ok (.text raw)

/-! ## Names and paths -/

/-- The start of the names that matter. -/
def standardPrefix : String := "STOWAGE_"

/-- The path that the rest of a name spells. -/
def pathOf (name : List Char) : List String :=
  ((Text.splitAtDouble '_' name).map fun piece => Text.trimChars Text.isBlank piece).filterMap
    fun piece => if piece.isEmpty then none else some (Text.lower (String.ofList piece))

/-- The path that a variable sets; none when it does not matter. -/
def variablePath? (start name : String) : Option (List String) :=
  match Text.dropStart? start.toList name.toList with
  | none => none
  | some rest => match pathOf rest with
    | [] => none
    | path => some path

/-- Set a path to a value. A mapping at a step of the path is kept, anything else there gives way
to a new mapping. -/
def setPath (value : Value) (es : Entries) : List String → Entries
  | [] => es
  | [last] => es.put (.text last) value
  | step :: path =>
    let inner : Entries := match es.get? step with
      | some (.mapping inner) => inner
      | _ => []
    es.put (.text step) (.mapping (setPath value inner path))

/-- Set the path of one variable. -/
def setVariable (start : String) (es : Entries) (entry : String × String) :
    Except Failure Entries :=
  match variablePath? start entry.1 with
  | none => .ok es
  | some path => (coerce entry.2).map fun value => setPath value es path

/-- The mapping that variables set, in their order. -/
def ofVariables (start : String) (environment : List (String × String)) :
    Except Failure Entries :=
  environment.foldlM (setVariable start) []

end Stowage.Config
