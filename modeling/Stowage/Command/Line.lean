import Stowage.Command.Basic
import Stowage.Decimal.Integer
import Stowage.Text.LetterCase
import Stowage.Text.Split
import Stowage.Validation.Scalar

/-!
Reading the command line.

A command line has three levels, each with its own options: the program, the group `container`, and
a command of that group. A level is scanned into the options given and the operands left; the first
two levels end at their first operand, which names what the next level is, while in a command
options may stand before and after operands. Of an option that is given twice the last one counts.
-/

namespace Stowage

/-- Why a command line is refused. -/
inductive UsageError where
  | unknownOption (name : String)
  | missingValue (option : String)
  /-- A flag came with a value. -/
  | unwantedValue (option : String)
  | missingOption (name : String)
  | badValue (name value : String)
  | missingCommand
  | unknownCommand (name : String)
  | missingOperand (name : String)
  | extraOperands (operands : List String)
  deriving DecidableEq, Repr

/-- What is wrong, for the one who typed it. -/
def UsageError.text : UsageError → String
  | unknownOption name => "No such option: " ++ name
  | missingValue option => "Option '" ++ option ++ "' requires an argument."
  | unwantedValue option => "Option '" ++ option ++ "' does not take a value."
  | missingOption name => "Missing option '" ++ name ++ "'."
  | badValue name value => "Invalid value for '" ++ name ++ "': '" ++ value ++ "'."
  | missingCommand => "Missing command."
  | unknownCommand name => "No such command '" ++ name ++ "'."
  | missingOperand name => "Missing argument '" ++ name ++ "'."
  | extraOperands operands =>
    "Got unexpected extra arguments (" ++ Text.join " " operands ++ ")"

namespace CommandLine

/-! ## One level -/

/-- The options that a level knows: those that are given or not, and those with a value. `mixed`
says that options may also stand after operands. -/
structure Level where
  flags : List String := []
  valued : List String := []
  mixed : Bool := false

/-- The arguments of a level: options in the order in which they stand, and operands. -/
structure Scan where
  flags : List String := []
  values : List (String × String) := []
  operands : List String := []
  deriving DecidableEq, Repr

namespace Scan

def withFlag (name : String) (s : Scan) : Scan := { s with flags := name :: s.flags }

def withValue (name value : String) (s : Scan) : Scan :=
  { s with values := (name, value) :: s.values }

def withOperand (operand : String) (s : Scan) : Scan :=
  { s with operands := operand :: s.operands }

/-- Whether a flag is given. -/
def has (s : Scan) (name : String) : Bool := s.flags.contains name

/-- The value of an option, the last one if there are several. -/
def value? (s : Scan) (name : String) : Option String := s.values.reverse.lookup name

end Scan

/-- Whether an argument is an option: a hyphen and something after it. -/
def isOption (argument : String) : Bool :=
  match argument.toList with
  | '-' :: _ :: _ => true
  | _ => false

/-- An option and the value attached to it with an equals sign. -/
def attached (argument : String) : String × Option String :=
  let (name, value) := Text.cut '=' argument.toList
  (String.ofList name, value.map String.ofList)

/-- Scan the arguments of a level. Two hyphens end its options. -/
def scan (level : Level) : List String → Except UsageError Scan
  | [] => .ok {}
  | a :: r =>
    if a = "--" then .ok { operands := r }
    else if isOption a then
      let (name, value) := attached a
      if level.flags.contains name then
        match value with
        | some _ => .error (.unwantedValue name)
        | none => (scan level r).map (·.withFlag name)
      else if level.valued.contains name then
        match value, r with
        | some v, r => (scan level r).map (·.withValue name v)
        | none, v :: r => (scan level r).map (·.withValue name v)
        | none, [] => .error (.missingValue name)
      else .error (.unknownOption name)
    else if level.mixed then (scan level r).map (·.withOperand a)
    else .ok { operands := a :: r }

/-! ## Values -/

/-- A whole number: any integer literal, also one with a fraction of nothing but zeros. -/
def integer (name : String) (s : String) : Except UsageError Int :=
  match Decimal.integer? s, Checked.integerLiteral s with
  | some i, _ => .ok i
  | none, .fits i => .ok i
  | none, _ => .error (.badValue name s)

/-- The number of a container. -/
def containerId (s : String) : Except UsageError Nat := do
  match ← integer "CONTAINER_ID" s with
  | .ofNat n => .ok n
  | .negSucc _ => .error (.badValue "CONTAINER_ID" s)

/-- A word of a vocabulary, in any letter case. -/
def word {α : Type} [Vocabulary α] (name : String) (s : String) : Except UsageError α :=
  match (Vocabulary.all : List α).find? fun a => Text.fold (Vocabulary.value a) == Text.fold s with
  | some a => .ok a
  | none => .error (.badValue name s)

/-- What an option says, if it is given. -/
def optional {α : Type} (s : Scan) (name : String) (read : String → Except UsageError α) :
    Except UsageError (Option α) :=
  match s.value? name with
  | none => .ok none
  | some v => (read v).map some

/-! ## Commands -/

/-- Nothing but options. -/
def noOperand (s : Scan) : Except UsageError Unit :=
  match s.operands with
  | [] => .ok ()
  | operands => .error (.extraOperands operands)

/-- One operand, the number of a container. -/
def oneContainer (s : Scan) : Except UsageError Nat :=
  match s.operands with
  | [] => .error (.missingOperand "CONTAINER_ID")
  | [operand] => containerId operand
  | _ :: operands => .error (.extraOperands operands)

/-- The command of a name with its arguments. -/
def readCommand (name : String) (arguments : List String) : Except UsageError Command := do
  match name with
  | "create" =>
    let s ← scan { valued := ["--owner", "--type", "--factor"], mixed := true } arguments
    noOperand s
    let type ← optional s "--type" (word "--type")
    let factor ← optional s "--factor" (word "--factor")
    match s.value? "--owner" with
    | some owner => .ok (.create owner type factor)
    | none => .error (.missingOption "--owner")
  | "close" => (oneContainer (← scan { mixed := true } arguments)).map .close
  | "delete" =>
    let s ← scan { flags := ["--force"], mixed := true } arguments
    (oneContainer s).map fun containerId => .delete containerId (s.has "--force")
  | "info" => (oneContainer (← scan { mixed := true } arguments)).map .info
  | "list" =>
    let s ← scan { valued := ["--start", "--count"], mixed := true } arguments
    noOperand s
    let start ← optional s "--start" (integer "--start")
    let count ← optional s "--count" (integer "--count")
    .ok (.list (start.getD 0) (count.getD 20))
  | "size" => (oneContainer (← scan { mixed := true } arguments)).map .size
  | _ => .error (.unknownCommand name)

/-- The operand that names what the next level is, and the arguments of that level. -/
def next (s : Scan) : Except UsageError (String × List String) :=
  match s.operands with
  | [] => .error .missingCommand
  | name :: arguments => .ok (name, arguments)

/-- Read a command line, the name of the program left out. -/
def read (arguments : List String) : Except UsageError CommandLine := do
  let s ← scan { flags := ["--json"], valued := ["--config", "--log-level"] } arguments
  let (group, arguments) ← next s
  if group ≠ "container" then throw (.unknownCommand group)
  let (name, arguments) ← next (← scan {} arguments)
  let command ← readCommand name arguments
  .ok {
    configPath := s.value? "--config"
    asJson := s.has "--json"
    logLevel := s.value? "--log-level"
    command }

end CommandLine

end Stowage
