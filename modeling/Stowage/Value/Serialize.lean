import Stowage.Failure.Basic

/-!
Values as JSON documents.

Words of vocabularies stand as their value, paths and unknown objects as their text, error details
and instances of models as objects, all sequences as arrays. Keys become text.

Inside instances of models stricter rules hold wherever no field is declared: numbers that are not
finite become null, truth values as keys are written as in JSON, a tuple as a key is its items with
commas between them, and unknown objects have no document.
-/

namespace Stowage.Value

/-- The failure of an unknown object inside an instance of a model. -/
def unknownObject : Failure := .unserializable "__main__.Opaque"

mutual

/-- The text of a key inside an instance of a model. -/
def innerKey : Value → Except Failure String
  | .bool b => .ok (if b then "true" else "false")
  | .float x => .ok (if x.isFinite then x.text else "None")
  | .member _ _ value => .ok value
  | .tuple items => (innerKeys items).map (Text.join ",")
  | .object _ => .error unknownObject
  | key => .ok key.display

def innerKeys : List Value → Except Failure (List String)
  | [] => .ok []
  | v :: r => do
    let key ← innerKey v
    let keys ← innerKeys r
    .ok (key :: keys)

end

/-- The text of a key. `inner` holds inside instances of models. -/
def keyText (inner : Bool) (key : Value) : Except Failure String :=
  if inner then innerKey key
  else if key.isOverlong then .error .overlongInteger
  else .ok key.display

/-- The object of an error detail. -/
def detailJson (d : ErrorDetail) : Json := .object [
  ("code", .text d.code),
  ("message", .text d.message),
  ("category", .text (Vocabulary.value d.category)),
  ("retryable", .bool d.retryable),
  ("metadata", .object (d.metadata.entries.map fun (k, v) => (k, .text v)))]

/-- The one model whose fields are not declared but given. -/
def openModel : String := "ComponentNamespaceSettings"

mutual

/-- The document of a value. `inner` holds inside instances of models. -/
def toJson (inner : Bool) : Value → Except Failure Json
  | .null => .ok .null
  | .bool b => .ok (.bool b)
  | .int i => .ok (.int i)
  | .float x => .ok (if inner && !x.isFinite then .null else .float x)
  | .text s => .ok (.text s)
  | .list items | .tuple items | .set items => (itemsToJson inner items).map .list
  | .mapping entries => (entriesToJson inner entries).map Json.ofPairs
  | .path s => .ok (.text s)
  | .object s => if inner then .error unknownObject else .ok (.text s)
  | .member _ _ value => .ok (.text value)
  | .detail d => .ok (detailJson d)
  | .record model fields => (fieldsToJson (model != openModel) fields).map .object
  | v => .ok (.text v.display)

def itemsToJson (inner : Bool) : List Value → Except Failure (List Json)
  | [] => .ok []
  | v :: r => do
    let j ← toJson inner v
    let js ← itemsToJson inner r
    .ok (j :: js)

def entriesToJson (inner : Bool) : List (Value × Value) → Except Failure (List (String × Json))
  | [] => .ok []
  | (k, v) :: r => do
    let key ← keyText inner k
    let j ← toJson inner v
    let ms ← entriesToJson inner r
    .ok ((key, j) :: ms)

/-- Fields; a number in a declared one is kept as it is. -/
def fieldsToJson (declared : Bool) : List (String × Value) → Except Failure (List (String × Json))
  | [] => .ok []
  | (k, v) :: r => do
    let j ← match v with
      | .float x => .ok (if declared || x.isFinite then Json.float x else .null)
      | v => toJson true v
    let ms ← fieldsToJson declared r
    .ok ((k, j) :: ms)

end

/-- The document of a value. -/
def serialize (v : Value) : Except Failure Json := toJson false v

end Stowage.Value
