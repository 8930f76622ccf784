import Stowage.Failure.Basic
import Stowage.Validation.Checked
import Stowage.Value.Wire

/-!
Models as failures see them: checking a value to the end, and changing a field of an instance.
-/

namespace Stowage.Model

/-- The instance that a value describes, or the failure that reports all its issues. -/
def validate (α : Type) [Model α] (v : Value) : Except Failure α :=
  match (check v : Checked α) with
  | .fits a => .ok a
  | .faulty issues => .error (.invalid (title α) issues)

/-- Whether the fields of an instance may be changed. -/
inductive Mutability where
  /-- No field changes. -/
  | frozen
  /-- The declared fields change, without another check. -/
  | declared
  /-- Any field changes. -/
  | anything
  deriving DecidableEq, Repr

/-- Give a field a value, at its old place or at the end. -/
def putField (name : String) (value : Value) : List (String × Value) → List (String × Value)
  | [] => [(name, value)]
  | (k, v) :: r => if k = name then (k, value) :: r else (k, v) :: putField name value r

/-- An attribute of every model that is computed and cannot be given a value. -/
def computedFault (model name : String) : Failure :=
  .fault .attributeError (some (.text ("property '" ++ name ++ "' of '" ++ model ++
    "' object has no setter")))

/-- Give a private attribute a value: names that begin with an underscore are free, but for those
that hold an instance together. -/
def assignPrivate (model name : String) (value : Value) : Except Failure Unit :=
  match name, value with
  | "__class__", v => .error (.badType
      ("__class__ must be set to a class, not '" ++ v.kindName ++ "' object"))
  | "__dict__", .mapping _ => .ok ()
  | "__dict__", v => .error (.badType
      ("__dict__ must be set to a dictionary, not a '" ++ v.kindName ++ "'"))
  | "__weakref__", _ => .error (.fault .attributeError (some (.text
      ("attribute '__weakref__' of '" ++ model ++ "' objects is not writable"))))
  | "__fields_set__", _ => .error (computedFault model name)
  | _, _ => .ok ()

/-- Names of what every model has besides its fields. -/
def sharedNames : List String := [
  "construct", "copy", "dict", "from_orm", "json", "model_computed_fields", "model_config",
  "model_construct", "model_copy", "model_dump", "model_dump_json", "model_fields",
  "model_json_schema", "model_parametrized_name", "model_post_init", "model_rebuild",
  "model_validate", "model_validate_json", "model_validate_strings", "parse_file", "parse_obj",
  "parse_raw", "schema", "schema_json", "update_forward_refs", "validate"]

/-- Change a field of an instance of `model`. -/
def assign (model : String) (mutability : Mutability) (fields : List (String × Value))
    (name : String) (value : Value) : Except Failure (List (String × Value)) :=
  if name.startsWith "_" && name != "__root__" then
    (assignPrivate model name value).map fun _ => fields
  else if mutability = .frozen then .error (.invalid model [⟨[Issue.step name], .frozen⟩])
  else if ["model_extra", "model_fields_set"].contains name then
    .error (computedFault model name)
  else if fields.any (·.1 == name) && mutability = .declared then
    .ok (putField name value fields)
  else if mutability = .declared then
    .error (.badValue ("\"" ++ model ++ "\" object has no field \"" ++ name ++ "\""))
  else .ok (if sharedNames.contains name then fields else putField name value fields)

end Stowage.Model
