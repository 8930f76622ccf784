import Stowage.Value.Basic

/-!
JSON documents.

Objects keep their members in order. `Json.toValue` places a document among the dynamic values.
-/

namespace Stowage

/-- A JSON document. Whole numbers and other numbers are told apart as they are in the text. -/
inductive Json where
  | null
  | bool (b : Bool)
  | int (i : Int)
  | float (x : Double)
  | text (s : String)
  | list (items : List Json)
  | object (members : List (String × Json))
  deriving Repr, Inhabited

namespace Json

/-- Give a key a value; a key that is there already keeps its place. -/
def put (key : String) (value : Json) : List (String × Json) → List (String × Json)
  | [] => [(key, value)]
  | (k, v) :: r => if k = key then (k, value) :: r else (k, v) :: put key value r

/-- The object of a list of members; of two values for a key the later counts. -/
def ofPairs (pairs : List (String × Json)) : Json :=
  .object (pairs.foldl (fun ms (k, v) => put k v ms) [])

mutual

/-- A document as a dynamic value. -/
def toValue : Json → Value
  | .null => .null
  | .bool b => .bool b
  | .int i => .int i
  | .float x => .float x
  | .text s => .text s
  | .list items => .list (toValues items)
  | .object members => .mapping (toEntries members)

def toValues : List Json → List Value
  | [] => []
  | j :: r => toValue j :: toValues r

def toEntries : List (String × Json) → List (Value × Value)
  | [] => []
  | (k, j) :: r => (.text k, toValue j) :: toEntries r

end

mutual

/-- Whether the document holds an integer that is too long to be written. -/
def isOverlong : Json → Bool
  | .int i => Decimal.isOverlong i
  | .list items => anyOverlong items
  | .object members => anyMemberOverlong members
  | _ => false

def anyOverlong : List Json → Bool
  | [] => false
  | j :: r => isOverlong j || anyOverlong r

def anyMemberOverlong : List (String × Json) → Bool
  | [] => false
  | (_, j) :: r => isOverlong j || anyMemberOverlong r

end

end Json

end Stowage
