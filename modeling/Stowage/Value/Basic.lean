import Stowage.Calendar
import Stowage.Decimal.Double
import Stowage.Failure.Detail
import Stowage.Text.Split

/-!
Dynamic values: what configuration files, call arguments and results may hold.

Mappings keep their entries in order and may have keys of any kind. Two keys are the same key when
`Value.sameKey` says so: numbers count by their value whatever their kind, and a word of a closed
vocabulary counts as its text. `Value.dump` replaces every instance of a model, at any depth, by the
mapping of its fields.
-/

namespace Stowage

/-- A dynamic value. `bytes` holds numbers below 256. `member` is a word of a closed vocabulary,
`path` a file path in normal form, `object` a thing of which only its text is known, `record` an
instance of a wire or settings model with its fields in order of declaration. -/
inductive Value where
  | null
  | bool (b : Bool)
  | int (i : Int)
  | float (x : Double)
  | text (s : String)
  | bytes (bs : List Nat)
  | date (d : Date)
  | moment (m : Moment)
  | list (items : List Value)
  | tuple (items : List Value)
  | set (items : List Value)
  | mapping (entries : List (Value × Value))
  | path (s : String)
  | object (s : String)
  | member (family name value : String)
  | detail (d : ErrorDetail)
  | record (model : String) (fields : List (String × Value))
  deriving Repr, Inhabited

namespace Value

/-- The word of a vocabulary, as a value. -/
def ofMember {α : Type} [Vocabulary α] (a : α) : Value :=
  .member (Vocabulary.family α) (Vocabulary.name a) (Vocabulary.value a)

/-- The text of a value that is text or a word of a vocabulary. -/
def text? : Value → Option String
  | .text s => some s
  | .member _ _ value => some value
  | _ => none

/-- The exact numeric value of a truth value, an integer or an integral number. -/
def integer? : Value → Option Int
  | .bool b => some (if b then 1 else 0)
  | .int i => some i
  | .float x => x.integer?
  | _ => none

mutual

/-- Equality of values as keys: numbers of all kinds count by value, words of vocabularies as
text. -/
def sameKey : Value → Value → Bool
  | .null, .null => true
  | .bool a, y => y.integer? == some (if a then 1 else 0)
  | .int a, y => y.integer? == some a
  | .float a, y =>
    match a.integer?, y with
    | some i, y => y.integer? == some i
    | none, .float b => a.equals b
    | none, _ => false
  | .text a, y => y.text? == some a
  | .member _ _ a, y => y.text? == some a
  | .bytes a, .bytes b => a == b
  | .date a, .date b => a == b
  | .moment a, .moment b => a.same b
  | .list a, .list b => sameKeys a b
  | .tuple a, .tuple b => sameKeys a b
  | .set a, .set b => sameKeys a b
  | .path a, .path b => a == b
  | .object a, .object b => a == b
  | .detail a, .detail b => a == b
  | .record m a, .record n b => m == n && sameFields a b
  | .mapping a, .mapping b => sameEntries a b
  | _, _ => false

def sameKeys : List Value → List Value → Bool
  | [], [] => true
  | a :: as, b :: bs => sameKey a b && sameKeys as bs
  | _, _ => false

def sameFields : List (String × Value) → List (String × Value) → Bool
  | [], [] => true
  | (k, a) :: as, (l, b) :: bs => k == l && sameKey a b && sameFields as bs
  | _, _ => false

def sameEntries : List (Value × Value) → List (Value × Value) → Bool
  | [], [] => true
  | (k, a) :: as, (l, b) :: bs => sameKey k l && sameKey a b && sameEntries as bs
  | _, _ => false

end

/-- What counts as true where a value is used as a condition. -/
def isTrue : Value → Bool
  | .null => false
  | .bool b => b
  | .int i => i != 0
  | .float x => x.isNonzero
  | .text s => s != ""
  | .bytes bs => !bs.isEmpty
  | .list items | .tuple items | .set items => !items.isEmpty
  | .mapping entries => !entries.isEmpty
  | .member _ _ value => value != ""
  | _ => true

/-- Whether the value is a mapping. -/
def isMapping : Value → Bool
  | .mapping _ => true
  | _ => false

end Value

/-- The entries of a mapping, in order. -/
abbrev Entries := List (Value × Value)

namespace Entries

/-- The value of a key. -/
def find? (key : Value) : Entries → Option Value
  | [] => none
  | (k, v) :: r => if k.sameKey key then some v else find? key r

/-- Give a key a value; a key that is there already keeps its place and its form. -/
def put (key value : Value) : Entries → Entries
  | [] => [(key, value)]
  | (k, v) :: r => if k.sameKey key then (k, value) :: r else (k, v) :: put key value r

/-- The entries of a list of pairs; of two values for a key the later counts. -/
def ofList (pairs : List (Value × Value)) : Entries :=
  pairs.foldl (fun es (k, v) => put k v es) []

/-- The value of a text key. -/
def get? (es : Entries) (key : String) : Option Value := find? (.text key) es

end Entries

/-- A mapping made of pairs; of two values for a key the later counts. -/
def Value.ofPairs (pairs : List (Value × Value)) : Value := .mapping (Entries.ofList pairs)

/-- A file path in normal form: repeated and trailing slashes and `.` parts are dropped, exactly
two leading slashes are kept, and nothing at all is `.`. -/
def Value.plainPath (s : String) : String :=
  let cs := s.toList
  let root := match (cs.takeWhile (· == '/')).length with
    | 0 => ""
    | 2 => "//"
    | _ => "/"
  let parts := (Text.splitAt (· == '/') cs).filter fun p => p ≠ [] ∧ p ≠ ['.']
  let body := Text.join "/" (parts.map String.ofList)
  if root == "" && body == "" then "." else root ++ body

/-- A file path. -/
def Value.ofPath (s : String) : Value := .path (plainPath s)

namespace Value

mutual

/-- The value with mappings in place of model instances. -/
def dump : Value → Value
  | .list items => .list (dumpItems items)
  | .tuple items => .tuple (dumpItems items)
  | .set items => .set (dumpItems items)
  | .mapping entries => .mapping (dumpEntries entries)
  | .record _ fields => .mapping (dumpFields fields)
  | v => v

def dumpItems : List Value → List Value
  | [] => []
  | v :: r => dump v :: dumpItems r

def dumpEntries : List (Value × Value) → List (Value × Value)
  | [] => []
  | (k, v) :: r => (dump k, dump v) :: dumpEntries r

def dumpFields : List (String × Value) → List (Value × Value)
  | [] => []
  | (k, v) :: r => (.text k, dump v) :: dumpFields r

end

end Value

end Stowage
