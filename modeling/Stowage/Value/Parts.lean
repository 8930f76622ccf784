import Stowage.Value.Wire

/-!
Values taken apart: their parts one after another, the part at a place, and pairs.

Text is made of its characters, a mapping of its keys, an instance of a model of its fields with
their names. What has no parts cannot be taken apart, and what can change cannot be a key.
-/

namespace Stowage.Value

/-- The parts of a value, one after another. -/
def parts? : Value → Option (List Value)
  | .text s | .member _ _ s => some (s.toList.map fun c => .text (String.singleton c))
  | .bytes bs => some (bs.map fun b => .int (b : Nat))
  | .list items | .tuple items | .set items => some items
  | .mapping entries => some (entries.map Prod.fst)
  | .record _ fields => some (fields.map fun (k, v) => .tuple [.text k, v])
  | _ => none

/-- The failure of taking apart what has no parts. -/
def notIterable (v : Value) : Failure :=
  .badType ("'" ++ v.kindName ++ "' object is not iterable")

/-- What there is at a place, if the place is there. -/
def within (found : Option Value) (kind : String) : Except Failure Value :=
  match found with
  | some v => .ok v
  | none => .error (.fault .indexError (some (.text (kind ++ " index out of range"))))

/-- The part at a place, which is counted from zero; of a mapping, the value of the place as a
key. -/
def part (v : Value) (place : Nat) : Except Failure Value :=
  match v with
  | .text s | .member _ _ s =>
    within (s.toList[place]?.map fun c => .text (String.singleton c)) "string"
  | .list items => within items[place]? "list"
  | .tuple items => within items[place]? "tuple"
  | .mapping entries =>
    match Entries.find? (.int place) entries with
    | some found => .ok found
    | none => .error (.fault .keyError (some (.int place)))
  | v => .error (.badType ("'" ++ v.kindName ++ "' object is not subscriptable"))

mutual

/-- The part of a value that keeps it from being a key, if there is one. -/
def changing? : Value → Option Value
  | .list items => some (.list items)
  | .set items => some (.set items)
  | .mapping entries => some (.mapping entries)
  | .tuple items => anyChanging? items
  | _ => none

def anyChanging? : List Value → Option Value
  | [] => none
  | v :: r => (changing? v).or (anyChanging? r)

end

/-- A value as a key. -/
def key (v : Value) : Except Failure Value :=
  match v.changing? with
  | none => .ok v
  | some changing => .error (.badType ("unhashable type: '" ++ changing.kindName ++ "'"))

/-- The two parts of a value that has just two. -/
def pair (v : Value) : Except Failure (Value × Value) :=
  match v.parts? with
  | none => .error (.badType ("cannot unpack non-iterable " ++ v.kindName ++ " object"))
  | some [a, b] => .ok (a, b)
  | some parts =>
    if parts.length < 2 then
      .error (.badValue ("not enough values to unpack (expected 2, got " ++
        Decimal.naturalText parts.length ++ ")"))
    else .error (.badValue "too many values to unpack (expected 2)")

/-- The entry that a value stands for in a list of entries, at a place of the list. -/
def entry (place : Nat) (v : Value) : Except Failure (Value × Value) := do
  let shown := "dictionary update sequence element #" ++ Decimal.naturalText place
  match v.parts? with
  | none => .error (.badType ("cannot convert " ++ shown ++ " to a sequence"))
  | some [a, b] => .ok (← a.key, b)
  | some parts => .error (.badValue (shown ++ " has length " ++
      Decimal.naturalText parts.length ++ "; 2 is required"))

/-- The mapping that a value stands for: its entries, or its parts as entries. -/
def entries (v : Value) : Except Failure Entries :=
  match v with
  | .mapping es => .ok es
  | v => match v.parts? with
    | none => .error v.notIterable
    | some parts => do
      let pairs ← parts.zipIdx.mapM fun (part, place) => entry place part
      .ok (Entries.ofList pairs)

end Stowage.Value
