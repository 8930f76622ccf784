import Stowage.Validation.Issue
import Stowage.Value.Text

/-!
Checking values against models.

`Checked α` is a checked value or all the issues that were found. Checks that stand side by side
(`Checked.both`, the applicative) report the issues of both; a check that needs the outcome of
another (`Checked.andThen`) runs only when that one found nothing.
-/

namespace Stowage

/-- A value that fits, or what is wrong with it. -/
inductive Checked (α : Type) where
  | fits (a : α)
  | faulty (issues : List Issue)
  deriving DecidableEq, Repr

namespace Checked

variable {α β γ : Type}

/-- One issue about the whole value. -/
def fail (kind : Issue.Kind) : Checked α := .faulty [⟨[], kind⟩]

def map (f : α → β) : Checked α → Checked β
  | .fits a => .fits (f a)
  | .faulty issues => .faulty issues

/-- Two checks side by side. -/
def both (x : Checked (α → β)) (y : Checked α) : Checked β :=
  match x, y with
  | .fits f, .fits a => .fits (f a)
  | .fits _, .faulty issues => .faulty issues
  | .faulty issues, .fits _ => .faulty issues
  | .faulty issues, .faulty more => .faulty (issues ++ more)

instance : Applicative Checked where
  pure := .fits
  map := map
  seq x y := both x (y ())

/-- A further check of what fits so far. -/
def andThen (x : Checked α) (f : α → Checked β) : Checked β :=
  match x with
  | .fits a => f a
  | .faulty issues => .faulty issues

/-- The same check, made inside a larger value at the place `key`. -/
def within (key : String) : Checked α → Checked α
  | .fits a => .fits a
  | .faulty issues => .faulty (issues.map fun issue => { issue with path := key :: issue.path })

/-- The step to the value of a key: text as it is, small whole numbers as numbers, all else as its
literal. -/
def place (key : Value) : String :=
  match key with
  | .bool b => if b then "1" else "0"
  | key => Issue.step (key.text?.getD key.literal)

/-- The value, if it fits. -/
def toOption : Checked α → Option α
  | .fits a => some a
  | .faulty _ => none

/-- Check items one by one under their positions, from `start` on. -/
def items (check : Value → Checked α) (start : Nat) : List Value → Checked (List α)
  | [] => .fits []
  | v :: r =>
    both (map List.cons ((check v).within (Decimal.naturalText start))) (items check (start + 1) r)

/-- The field `name` of a mapping. A field that is not there takes the value `absent`, if it has
one. -/
def field (es : Entries) (name : String) (check : Value → Checked α) (absent : Option α := none) :
    Checked α :=
  match es.get? name, absent with
  | some v, _ => (check v).within name
  | none, some a => .fits a
  | none, none => (fail .missing).within name

/-- Refuse the keys that are not among the known ones. -/
def noOthers (known : List String) : Entries → Checked Unit
  | [] => .fits ()
  | (k, _) :: r =>
    let here : Checked Unit := match k.text? with
      | some name =>
        if known.contains name then .fits () else (fail .extraForbidden).within (place k)
      | none => (fail .invalidKey).within (place k)
    both (map (fun _ _ => ()) here) (noOthers known r)

end Checked

/-- A model: a record type that mappings are checked against. `fields` gives the fields of an
instance in order of declaration. -/
class Model (α : Type) where
  title : String
  read : Entries → Checked α
  fields : α → List (String × Value)

namespace Model

variable {α : Type} [Model α]

/-- Fields as the entries of a mapping. -/
def entries (fields : List (String × Value)) : Entries :=
  fields.map fun (k, v) => (.text k, v)

/-- Check a value: a mapping is read, an instance of the model counts as the mapping of its
fields. -/
def check : Value → Checked α
  | .mapping es => read es
  | .record model fields =>
    if model = title α then read (entries fields) else .fail (.modelType (title α))
  | _ => .fail (.modelType (title α))

/-- An instance as a dynamic value. -/
def toValue (a : α) : Value := .record (title α) (fields a)

end Model

end Stowage
