import Stowage.Session
import Stowage.Settings.Basic

/-!
Logging: the bound context, records, and how logging is set up.

Context is text bound to names; it goes with every record. `Log.within` binds context for one
computation and takes it back however that ends.
-/

namespace Stowage.Log

variable {σ α : Type}

/-! ## Context -/

/-- Context with values bound over it; null binds nothing. -/
def bound (context : Labels) : Entries → Except Failure Labels
  | [] => .ok context
  | (k, v) :: r =>
    match k.text? with
    | none => .error (.badType "keywords must be strings")
    | some key =>
      match v with
      | .null => bound context r
      | v => if v.isOverlong then .error .overlongInteger
        else bound (context.insert key v.display) r

/-- Values that can be bound: every key is text, which is found out before any value is looked at.
-/
def bindable (values : Entries) : Except Failure Entries :=
  if values.all fun (k, _) => k.text?.isSome then .ok values
  else .error (.badType "keywords must be strings")

/-- Bind values into the context. -/
def bind (values : Entries) : Flow σ Unit :=
  Flow.ofStep fun s =>
    match (bindable values).bind (bound s.context) with
    | .ok context => (.ok (), { s with context })
    | .error f => (.error f, s)

/-- Take keys out of the context, or everything when no key is given. -/
def clear (keys : List String) : Flow σ Unit :=
  Flow.ofStep fun s =>
    (.ok (), { s with context := if keys.isEmpty then {} else keys.foldl Labels.erase s.context })

/-- A computation in a context with values bound over it. -/
def within (values : Entries) (body : Flow σ α) : Flow σ α :=
  Flow.ofStep fun s =>
    let (outcome, after) := (do bind values; body : Flow σ α).runFrom s
    (outcome, { after with context := s.context })

/-- Fields with fixed names, as values to be bound. -/
def fields (entries : List (String × Value)) : Entries := entries.map fun (k, v) => (.text k, v)

/-! ## Records -/

def debug : Nat := 10
def info : Nat := 20
def warning : Nat := 30

/-- The handlers that a record reaches. One without a level reaches none. -/
def reached (s : Session σ) (record : Record) : List Handler :=
  if record.level = 0 ∨ record.level < s.logging.level then []
  else s.logging.handlers.filter fun h => h.level ≤ record.level

/-- The failure of giving a part of a record that holds it together the text of a context entry. -/
def partFault? (name : String) : Option Failure :=
  match name with
  | "__class__" => some (.badType "__class__ must be set to a class, not 'str' object")
  | "__dict__" => some (.badType "__dict__ must be set to a dictionary, not a 'str'")
  | "__weakref__" => some (.fault .attributeError (some (.text
      "attribute '__weakref__' of 'LogRecord' objects is not writable")))
  | _ => none

/-- Make a record; its context is the bound one. A handler that writes lines lays the context upon
the record first, and fails where that cannot be. -/
def emit (record : Record) : Flow σ Unit :=
  Flow.ofStep fun s =>
    let record := { record with context := s.context }
    let handlers := reached s record
    match if handlers.all (·.format = .kept) then none
      else s.context.entries.findSome? fun (name, _) => partFault? name with
    | some f => (.error f, s)
    | none =>
      (.ok (), { s with journal := s.journal ++ handlers.map fun h => .line h.format record })

/-- Log a message. -/
def log (logger : String) (level : Nat) (message : String) : Flow σ Unit :=
  emit { logger, level, message }

/-- Log a message with fields bound for it alone. -/
def logWith (logger : String) (level : Nat) (message : String) (entries : List (String × Value)) :
    Flow σ Unit :=
  within (fields entries) (log logger level message)

/-! ## Setting up -/

/-- Set logging up: one handler of a level and a format, and the names of the service and the
environment bound into the context unless they are empty. All handlers are taken away first. -/
def configure (level : String) (format : Format) (service environment : Option String) :
    Flow σ Unit := do
  let name := Text.upper level
  Flow.ofStep fun s => (.ok (), { s with logging := { s.logging with handlers := [] } })
  match levelNumber? name with
  | none => throw (.badValue ("Unknown level: " ++ Text.quoted name))
  | some number =>
    Flow.ofStep fun s => (.ok (), { s with logging := ⟨number, [⟨number, format⟩]⟩ })
    let given (s : Option String) : Value := match s with
      | none => .null
      | some "" => .null
      | some s => .text s
    bind (fields [("service", given service), ("environment", given environment)])

/-- Set logging up as settings say; a level that is given counts more. -/
def configureFrom (settings : LoggingSettings) (level : Option String) : Flow σ Unit :=
  let level := match level with
    | none => Vocabulary.value settings.level
    | some "" => Vocabulary.value settings.level
    | some level => level
  configure level (if settings.jsonOutput then .json else .plain) (some settings.service)
    (some settings.environment)

end Stowage.Log
