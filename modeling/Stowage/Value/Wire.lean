import Stowage.Failure.Basic
import Stowage.Json.Basic

/-!
Values as the documents that are sent over the wire.

Only values that have a form in JSON can be sent: no paths, sets, details or instances of models,
and no numbers that are not finite. Keys are text or become text.
-/

namespace Stowage.Value

/-- The kind of a value, as messages name it. -/
def kindName : Value → String
  | .null => "NoneType"
  | .bool _ => "bool"
  | .int _ => "int"
  | .float _ => "float"
  | .text _ => "str"
  | .bytes _ => "bytes"
  | .date _ => "date"
  | .moment _ => "datetime"
  | .list _ => "list"
  | .tuple _ => "tuple"
  | .set _ => "set"
  | .mapping _ => "dict"
  | .path _ => "PosixPath"
  | .object _ => "Opaque"
  | .member family _ _ => family
  | .detail _ => "ErrorDetail"
  | .record model _ => model

/-- The component that a kind of value belongs to, with the dots that lead to it; most kinds belong
to none. -/
def origin : Value → String
  | .date _ | .moment _ => "datetime."
  | .path _ => "pathlib."
  | .object _ => "__main__."
  | .detail _ => "packages.stowage_shared.errors.types."
  | .record model _ =>
    if model == "ContainerOperationsSettings" then
      "services.storage.container_operations.config."
    else if model == "PlacementAdapterSettings" then "resources.adapters.placement.config."
    else if model == "DatanodeAdapterSettings" then "resources.adapters.datanode.config."
    else if model.endsWith "Settings" then "packages.stowage_shared.config.models."
    else "packages.stowage_shared.containers."
  | _ => ""

/-- A value that has no form in JSON. -/
def notSerializable (v : Value) : Failure :=
  .badType ("Object of type " ++ v.kindName ++ " is not JSON serializable")

/-- A number that has no form in JSON. -/
def outOfRange : Failure := .badValue "Out of range float values are not JSON compliant"

/-- A key as text. -/
def wireKey : Value → Except Failure String
  | .text s => .ok s
  | .member _ _ s => .ok s
  | .null => .ok "null"
  | .bool b => .ok (if b then "true" else "false")
  | .int i => if Decimal.isOverlong i then .error .overlongInteger else .ok (Decimal.integerText i)
  | .float x => if x.isFinite then .ok x.text else .error outOfRange
  | v => .error (.badType
      ("keys must be str, int, float, bool or None, not " ++ v.kindName))

mutual

/-- A value as a document. -/
def document : Value → Except Failure Json
  | .null => .ok .null
  | .bool b => .ok (.bool b)
  | .int i => if Decimal.isOverlong i then .error .overlongInteger else .ok (.int i)
  | .float x => if x.isFinite then .ok (.float x) else .error outOfRange
  | .text s => .ok (.text s)
  | .member _ _ s => .ok (.text s)
  | .list items | .tuple items => (documents items).map .list
  | .mapping entries => (memberDocuments entries).map Json.ofPairs
  | v => .error (notSerializable v)

def documents : List Value → Except Failure (List Json)
  | [] => .ok []
  | v :: r => do
    let j ← document v
    let js ← documents r
    .ok (j :: js)

def memberDocuments : List (Value × Value) → Except Failure (List (String × Json))
  | [] => .ok []
  | (k, v) :: r => do
    let key ← wireKey k
    let j ← document v
    let ms ← memberDocuments r
    .ok ((key, j) :: ms)

end

end Stowage.Value
