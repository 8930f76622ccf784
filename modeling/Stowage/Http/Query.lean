import Stowage.Http.Percent
import Stowage.Value.Parts

/-!
Queries: names with their values, out of values of any kind.

A text is a query already and is read; a mapping gives each name a value or a list of values; a list
is made of names with a value each. Values of one name stand together, where the name comes first.
-/

namespace Stowage.Http

/-- Names, each of them once, with their values. -/
abbrev Query := List (String × List String)

namespace Query

/-! ## Reading -/

/-- A name or a value as it stands in a query. -/
def word (cs : List Char) : Value :=
  .text (String.ofList (Percent.decoded (cs.map fun c => if c = '+' then ' ' else c)))

/-- The names and values of a text, in order. Nothing between two separators is nothing. -/
def read (s : String) : List (Value × Value) :=
  ((Text.splitAt (· == '&') s.toList).filter fun piece => !piece.isEmpty).map fun piece =>
    let (name, value) := Text.cut '=' piece
    (word name, word (value.getD []))

/-! ## Out of values -/

/-- One more value for a key. -/
def add (key value : Value) : List (Value × List Value) → List (Value × List Value)
  | [] => [(key, [value])]
  | (k, vs) :: r => if k.sameKey key then (k, vs ++ [value]) :: r else (k, vs) :: add key value r

/-- Keys, each of them once, with all their values. -/
def grouped (pairs : List (Value × Value)) : List (Value × List Value) :=
  pairs.foldl (fun groups (k, v) => add k v groups) []

/-- A value as a text that has to be short enough. -/
def shown (v : Value) : Except Failure String :=
  if v.isOverlong then .error .overlongInteger else .ok v.display

/-- A value in a query. -/
def valueText : Value → Except Failure String
  | .bool b => .ok (if b then "true" else "false")
  | .null => .ok ""
  | v => shown v

/-- A name with other values; a name that is there already keeps its place. -/
def put (name : String) (values : List String) : Query → Query
  | [] => [(name, values)]
  | (n, vs) :: r => if n = name then (n, values) :: r else (n, vs) :: put name values r

/-- Keys with their values as a query. Of two keys with one text the later counts. -/
def ofGroups (groups : List (Value × List Value)) : Except Failure Query := do
  let pairs ← groups.mapM fun (k, vs) => do
    let name ← shown k
    let values ← vs.mapM valueText
    .ok (name, values)
  .ok (pairs.foldl (fun query (name, values) => put name values query) [])

/-- The name and the value at the first two places of a value. -/
def pairOf (item : Value) : Except Failure (Value × Value) := do
  let name ← (← item.part 0).key
  let value ← item.part 1
  .ok (name, value)

/-- The query that a value stands for. -/
def ofValue : Value → Except Failure Query
  | .text s | .member _ _ s => ofGroups (grouped (read s))
  | .list items | .tuple items => do ofGroups (grouped (← items.mapM pairOf))
  | .mapping entries => ofGroups (entries.map fun (k, v) =>
      (k, match v with
        | .list vs | .tuple vs => vs
        | v => [v]))
  | v => .error (.fault .attributeError (some (.text
      ("'" ++ v.kindName ++ "' object has no attribute 'items'"))))

/-- A query as it stands in a URL. -/
def text (query : Query) : List Char :=
  let pairs := query.flatMap fun (name, values) => values.map (name, ·)
  ['&'].intercalate (pairs.map fun (name, value) =>
    Percent.encodeForm name.toList ++ '=' :: Percent.encodeForm value.toList)

end Query

end Stowage.Http
