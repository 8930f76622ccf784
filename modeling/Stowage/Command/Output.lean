import Stowage.Failure.Basic
import Stowage.Json.Printer
import Stowage.Value.Serialize

/-!
What a command writes: its result to standard output, or its failure to standard error.

Text that goes to something else than a terminal is freed of the sequences that would set colours
or move the cursor: an escape character, a bracket, digits, semicolons and question marks, and a
letter.
-/

namespace Stowage.Text

/-- The rest after the parameters and the final letter of a control sequence. -/
def controlTail? : List Char → Option (List Char)
  | [] => none
  | c :: r =>
    if c = ';' ∨ c = '?' ∨ ('0' ≤ c ∧ c ≤ '9') then controlTail? r
    else if c.isAlpha then some r
    else none

/-- Text without control sequences. The fuel bounds the number of characters looked at. -/
def dropControls : Nat → List Char → List Char
  | 0, cs => cs
  | _ + 1, [] => []
  | fuel + 1, '\x1b' :: '[' :: r =>
    match controlTail? r with
    | some rest => dropControls fuel rest
    | none => '\x1b' :: dropControls fuel ('[' :: r)
  | fuel + 1, c :: r => c :: dropControls fuel r

/-- Text without terminal control sequences. -/
def withoutControls (s : String) : String :=
  String.ofList (dropControls (s.length + 1) s.toList)

end Stowage.Text

namespace Stowage.Command

/-- One written line or document. -/
def echo (s : String) : String := Text.withoutControls s ++ "\n"

/-- A document that is no container, in plain form. -/
def plainText : Json → String
  | .null => "ok"
  | .bool b => Value.boolText b
  | .int i => Decimal.integerText i
  | .float x => x.text
  | .text s => s
  | j => j.write .indented

/-- A result as standard output shows it. A whole number that is too long has no text. -/
def output (asJson : Bool) (result : Value) : Except Failure String := do
  let document ← result.serialize
  if result.isOverlong then .error .overlongInteger
  else .ok (echo (if asJson then document.write .compactSorted else plainText document))

/-- A failure as standard error shows it: its detail, or its text. -/
def errorOutput (asJson : Bool) (failure : Failure) : Except Failure String := do
  if asJson then
    let detail ← failure.normalized
    .ok (echo ((Json.object [("error", Value.detailJson detail)]).write .spaced))
  else
    let text ← failure.text
    .ok (echo ("error: " ++ text))

end Stowage.Command
