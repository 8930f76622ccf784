import Stowage.Json.Printer
import Stowage.Log.Template

/-!
Log records and the lines that they become.

A record carries the bound context of the moment it was made. A line is JSON, with the context laid
over the core fields, or plain text with the context after the message. A context entry that bears
the name of one of the record's own parts takes the place of that part: a line can be lost that
way, when the part has another shape.
-/

namespace Stowage.Log

/-- Level names and their numbers. -/
def levels : List (String × Nat) := [
  ("CRITICAL", 50), ("FATAL", 50), ("ERROR", 40), ("WARN", 30), ("WARNING", 30), ("INFO", 20),
  ("DEBUG", 10), ("NOTSET", 0)]

/-- The number of a level. -/
def levelNumber? (name : String) : Option Nat := levels.lookup name

/-- The name under which records of a level are written. -/
def levelName (number : Nat) : String :=
  match number with
  | 50 => "CRITICAL"
  | 40 => "ERROR"
  | 30 => "WARNING"
  | 20 => "INFO"
  | 10 => "DEBUG"
  | 0 => "NOTSET"
  | n => "Level " ++ Decimal.naturalText n

/-- A log record: who logs, at which level, a message and what fills it, the failure that goes with
it, and the bound context. -/
structure Record where
  logger : String
  level : Nat
  message : String
  arguments : Arguments := .none
  failure : Option String := none
  context : Labels := {}
  deriving Repr, Inhabited

/-- How a handler writes records. `kept` keeps them as they are. -/
inductive Format where
  | json | plain | kept
  deriving DecidableEq, Repr

namespace Record

/-- A part of the record, unless the context has an entry of that name. -/
def part (r : Record) (name own : String) : String := (r.context.get? name).getD own

/-- The message with its placeholders filled. -/
def filled? (r : Record) : Option String :=
  if (r.context.get? "getMessage").isSome then none
  else
    let arguments := match r.context.get? "args" with
      | some s => .text s
      | none => r.arguments
    fillMessage? (r.part "msg" r.message) arguments

/-- The context that lines show. -/
def shownContext (r : Record) : Labels :=
  if (r.context.get? "context").isSome then {} else r.context

/-- The text of the failure. An entry that hides it by a text of its own costs the line. -/
def failure? (r : Record) : Option (Option String) :=
  match r.context.get? "exc_info" with
  | none => some r.failure
  | some "" => some none
  | some _ => none

/-- The fields of a JSON line: the core fields, over them the context, over that the failure. -/
def fields? (time : String) (r : Record) : Option Labels := do
  let message ← r.filled?
  let failure ← r.failure?
  let core := Labels.ofList [
    ("timestamp", time),
    ("level", r.part "levelname" (levelName r.level)),
    ("logger", r.part "name" r.logger),
    ("message", message)]
  let fields := core.insertAll r.shownContext
  some (match failure with
    | some text => fields.insert "exception" text
    | none => fields)

/-- Labels as a JSON object. -/
def labelsJson (labels : Labels) : Json :=
  .object (labels.entries.map fun (k, v) => (k, .text v))

/-- A record as a JSON line. -/
def jsonLine? (time : String) (r : Record) : Option String :=
  (r.fields? time).map fun fields => (labelsJson fields).write .compact

/-- The context after a plain line, in order of its keys. -/
def contextSuffix (context : Labels) : String :=
  let sorted := context.entries.mergeSort fun a b => a.1 ≤ b.1
  String.join (sorted.map fun (k, v) => " " ++ k ++ "=" ++ v)

/-- Text with more under it, on a new line. -/
def under (s more : String) : String :=
  if s.endsWith "\n" then s ++ more else s ++ "\n" ++ more

/-- What stands under a plain line: the failure, or a bound text in its place, and a bound stack. -/
def below? (r : Record) : Option (List String) := do
  let given (name : String) : Option String := match r.context.get? name with
    | some "" => none
    | found => found
  let failure ← match given "exc_text" with
    | none => r.failure?
    | some text => some (some text)
  some (failure.toList ++ (given "stack_info").toList)

/-- A record as plain text, of one or more lines. -/
def plainText? (time : String) (r : Record) : Option String := do
  if (r.context.get? "created").isSome then none
  else
    let message ← r.filled?
    let below ← r.below?
    let line := time ++ " " ++ r.part "levelname" (levelName r.level) ++ " " ++
      r.part "name" r.logger ++ " " ++ message
    some (below.foldl under line ++ contextSuffix r.shownContext)

end Record

end Stowage.Log
