import Stowage.Decimal.Double
import Stowage.Labels

/-!
What observers of public operations are told: the beginning and the end of every call.
-/

namespace Stowage.Instrument

/-- The beginning of a call: the component, the operation, and what the call refers to. -/
structure Invocation where
  component : String
  operation : String
  references : Labels := {}
  deriving DecidableEq, Repr, Inhabited

/-- The end of a call: whether it came to a result, how long it took, and the failure with its
category if there was one. -/
structure Completion where
  invocation : Invocation
  success : Bool
  durationMs : Double
  errors : List String := []
  categories : List String := []
  deriving DecidableEq, Repr, Inhabited

/-- How a call ended, in a word. -/
def Completion.outcome (c : Completion) : String := if c.success then "success" else "failure"

/-- The two moments at which observers are told. -/
inductive Stage where
  | invocation | completion
  deriving DecidableEq, Repr

/-- The word for a moment. -/
def Stage.name : Stage → String
  | invocation => "invocation"
  | completion => "completion"

/-- A span of a trace: its number in order of opening, and its name. -/
structure Span where
  number : Nat
  name : String
  deriving DecidableEq, Repr

/-- What is measured of calls. -/
inductive Measure where
  | calls
  | duration (ms : Double)
  | errors
  deriving DecidableEq, Repr

end Stowage.Instrument
