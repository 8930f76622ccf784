import Stowage.Yaml.Lexer
import Stowage.Yaml.Scalar

/-!
Reading YAML: from a text to the value it denotes.

A mapping under the key `<<`, or each mapping of a sequence there, lends its entries to the mapping
around it, where the entries of that mapping itself take precedence. Keys are scalars; of two
values for a key the later counts.

Scalars are given their values where they are found, collections are filled one after another in
the order in which they are found. So the first fault of a text is not the first from its start:
those inside of a collection come after those next to it.
-/

namespace Stowage.Yaml

/-! ## Merging -/

/-- A node as text, where its kind was another. -/
def Node.asText : Node → Node
  | .scalar _ text plain => .scalar (.named "tag:yaml.org,2002:str") text plain
  | .sequence _ items => .sequence (.named "tag:yaml.org,2002:str") items
  | .mapping _ entries => .mapping (.named "tag:yaml.org,2002:str") entries
  | .enclosing _ isMapping => .enclosing (.named "tag:yaml.org,2002:str") isMapping

mutual

/-- The entries that a mapping consists of once it has taken over those it merges. -/
def flatten : Nat → List (Node × Node) → Except Failure (List (Node × Node))
  | 0, _ => .error .badYaml
  | fuel + 1, entries => do
    let (merged, own) ← flattenParts fuel entries
    .ok (merged ++ own)

/-- The entries taken over and the entries of its own. -/
def flattenParts : Nat → List (Node × Node) →
    Except Failure (List (Node × Node) × List (Node × Node))
  | 0, _ => .error .badYaml
  | _ + 1, [] => .ok ([], [])
  | fuel + 1, (key, value) :: r =>
    match key.kind with
    | .merge => do
      let taken ← mergedEntries fuel value
      let (merged, own) ← flattenParts fuel r
      .ok (taken ++ merged, own)
    | .value => do
      let (merged, own) ← flattenParts fuel r
      .ok (merged, (key.asText, value) :: own)
    | _ => do
      let (merged, own) ← flattenParts fuel r
      .ok (merged, (key, value) :: own)

/-- The entries that a value under the merge key lends. Of a sequence the last mapping comes
first, so that earlier ones take precedence. A mapping lends nothing to itself. -/
def mergedEntries : Nat → Node → Except Failure (List (Node × Node))
  | 0, _ => .error .badYaml
  | fuel + 1, .mapping _ entries => flatten fuel entries
  | fuel + 1, .sequence _ items => mergedItems fuel items
  | _ + 1, .enclosing _ true => .ok []
  | _ + 1, _ => .error .badYaml

/-- The entries that the mappings of a sequence lend. -/
def mergedItems : Nat → List Node → Except Failure (List (Node × Node))
  | 0, _ => .error .badYaml
  | _ + 1, [] => .ok []
  | fuel + 1, .mapping _ entries :: r => do
    let here ← flatten fuel entries
    let rest ← mergedItems fuel r
    .ok (rest ++ here)
  | fuel + 1, .enclosing _ true :: r => mergedItems fuel r
  | _ + 1, _ :: _ => .error .badYaml

end

mutual

/-- The number of nodes of a tree. -/
def Node.size : Node → Nat
  | .scalar .. | .enclosing .. => 1
  | .sequence _ items => 1 + Node.sizes items
  | .mapping _ entries => 1 + Node.pairSizes entries

def Node.sizes : List Node → Nat
  | [] => 0
  | n :: r => 1 + Node.size n + Node.sizes r

def Node.pairSizes : List (Node × Node) → Nat
  | [] => 0
  | (k, v) :: r => 1 + Node.size k + Node.size v + Node.pairSizes r

end

/-- More steps than are taken anywhere in a tree. -/
def Node.fuel (node : Node) : Nat := 4 * node.size + 4

/-! ## Scalars -/

mutual

/-- The text of a scalar, or of the scalar under the key `=` of a mapping. -/
def Node.scalarText : Node → Except Failure String
  | .scalar _ text _ => .ok text
  | .sequence .. | .enclosing .. => .error .badYaml
  | .mapping _ entries => Node.entryText entries

/-- The text of the scalar under the key `=`. -/
def Node.entryText : List (Node × Node) → Except Failure String
  | [] => .error .badYaml
  | (k, v) :: r => if k.kind = .value then v.scalarText else Node.entryText r

end

/-- The value of a node that is no collection. A point in time has to be a scalar by itself. -/
def Node.scalarValue (node : Node) : Except Failure Value := do
  let text ← node.scalarText
  match node.kind, node with
  | .timestamp, .mapping .. => .error (.badType "expected string or bytes-like object, got 'list'")
  | kind, _ => Scalar.ofKind kind text

/-! ## Collections -/

/-- Whether a node is to be a collection. -/
def Node.isCollection (node : Node) : Bool :=
  [Kind.sequence, .mapping, .set, .ordered, .pairs].contains node.kind

/-- A node at the place where it is found: itself if it is a collection and still to be filled;
otherwise it has a value. -/
def Node.found (node : Node) : Except Failure (List Node) :=
  match node with
  | .enclosing .. => .ok []
  | _ =>
    if node.isCollection then .ok [node]
    else do
      let _ ← node.scalarValue
      .ok []

/-- The collections found in the entries of a mapping, whose keys are no collections. -/
def Node.foundInEntry (entry : Node × Node) : Except Failure (List Node) := do
  let _ ← entry.1.found
  if entry.1.isCollection then .error .badYaml else entry.2.found

/-- The single entry of a mapping. -/
def Node.onlyEntry : Node → Except Failure (Node × Node)
  | .mapping _ [entry] => .ok entry
  | _ => .error .badYaml

/-- The collections found where a collection is filled. -/
def Node.fill (node : Node) : Except Failure (List Node) :=
  match node.kind, node with
  | .sequence, .sequence _ items => return (← items.mapM Node.found).flatten
  | .mapping, .mapping _ entries | .set, .mapping _ entries => do
    let entries ← flatten node.fuel entries
    return (← entries.mapM Node.foundInEntry).flatten
  | .ordered, .sequence _ items | .pairs, .sequence _ items => do
    let found ← items.mapM fun item => do
      let (key, value) ← item.onlyEntry
      return (← key.found) ++ (← value.found)
    return found.flatten
  | _, _ => .error .badYaml

/-- Fill collections one after another, and then those found in them. -/
def fillAll : Nat → List Node → Except Failure Unit
  | _, [] => .ok ()
  | 0, _ => .error .badYaml
  | fuel + 1, node :: r => do
    let found ← node.fill
    fillAll fuel (r ++ found)

/-! ## Values -/

/-- The number by which a whole number is given a place in a set. -/
def placeNumber (i : Int) : Int :=
  if i = -1 then -2 else i.tmod (Nat.pow 2 61 - 1 : Nat)

/-- The number of places in a set of so many members. -/
def placeCount (members : Nat) : Nat :=
  ([8, 32, 128, 512].find? fun places => 5 * members < 3 * (places - 1)).getD 2048

/-- The members of a set as they are listed: whole numbers in the order of their places, anything
else as it is written. -/
def listed (members : List Value) : List Value :=
  match members.mapM Value.integer? with
  | none => members
  | some numbers =>
    let places := numbers.map fun i => placeNumber i % (placeCount members.length : Int)
    ((places.zip members).mergeSort fun x y => x.1 ≤ y.1).map Prod.snd

/-- The text of a mapping or a sequence within itself. -/
def aroundText (isMapping : Bool) : String := if isMapping then "\x7b...\x7d" else "[...]"

mutual

/-- Whether a mapping is found again going from value to value through mappings only. -/
def holdsItself : Value → Bool
  | .mapping es => entriesHold es
  | .object s => s == aroundText true
  | _ => false

def entriesHold : List (Value × Value) → Bool
  | [] => false
  | (_, v) :: r => holdsItself v || entriesHold r

end

mutual

/-- Whether a value is found again within itself. -/
def isEndless : Value → Bool
  | .list vs | .tuple vs | .set vs => anyEndless vs
  | .mapping es => anyEntryEndless es
  | .object s => [true, false].any fun isMapping => aroundText isMapping == s
  | _ => false

def anyEndless : List Value → Bool
  | [] => false
  | v :: r => isEndless v || anyEndless r

def anyEntryEndless : List (Value × Value) → Bool
  | [] => false
  | (k, v) :: r => isEndless k || isEndless v || anyEntryEndless r

end

mutual

/-- The value of a node. -/
def Node.value : Nat → Node → Except Failure Value
  | 0, _ => .error .badYaml
  | fuel + 1, node =>
    match node.kind, node with
    | .sequence, .sequence _ items => (Node.values fuel items).map .list
    | .mapping, .mapping _ entries => do
      let entries ← flatten node.fuel entries
      (Node.entries fuel entries).map Value.ofPairs
    | .set, .mapping _ entries => do
      let entries ← flatten node.fuel entries
      let pairs ← Node.entries fuel entries
      .ok (.set (listed ((Entries.ofList pairs).map Prod.fst)))
    | .ordered, .sequence _ items | .pairs, .sequence _ items => do
      let entries ← items.mapM Node.onlyEntry
      let pairs ← Node.entries fuel entries
      .ok (.list (pairs.map fun (k, v) => .tuple [k, v]))
    | _, .enclosing _ isMapping => .ok (.object (aroundText isMapping))
    | _, node => if node.isCollection then .error .badYaml else node.scalarValue

def Node.values : Nat → List Node → Except Failure (List Value)
  | 0, _ => .error .badYaml
  | _ + 1, [] => .ok []
  | fuel + 1, n :: r => do
    let v ← Node.value fuel n
    let vs ← Node.values fuel r
    .ok (v :: vs)

def Node.entries : Nat → List (Node × Node) → Except Failure (List (Value × Value))
  | 0, _ => .error .badYaml
  | _ + 1, [] => .ok []
  | fuel + 1, (key, value) :: r => do
    let k ← Node.value fuel key
    let v ← Node.value fuel value
    let rest ← Node.entries fuel r
    .ok ((k, v) :: rest)

end

/-- The value of a tree: all of it is looked through in the order of filling, then it is put
together. -/
def Node.denotation (node : Node) : Except Failure Value := do
  fillAll node.fuel (← node.found)
  node.value node.fuel

/-- The value of the only document of a text; null when there is none. -/
def read (s : String) : Except Failure Value :=
  match Token.ofText? s with
  | none => .error .badYaml
  | some tokens => do
    match ← Node.ofTokens tokens with
    | none => .ok .null
    | some node =>
      let v ← node.denotation
      if holdsItself v then .error .endless else .ok v

end Stowage.Yaml
