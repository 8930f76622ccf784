import Stowage.Instrument.Concern
import Stowage.Instrument.Signature

/-!
Observed operations: calls whose beginning and end a list of concerns is told of.

Observing changes nothing about a call. Its body runs once, its outcome is passed on, and a concern
that fails is only reported. Interruptions are no outcome of a call and pass by the concerns.
-/

namespace Stowage.Instrument

variable {σ α : Type}

/-- A public operation: the component it belongs to, its name, the concerns that observe it in
order, and the logger that concerns which fail are reported to. -/
structure Operation (σ : Type) where
  component : String
  name : String
  concerns : List (Concern σ)
  logger : Option String := none

namespace Operation

/-- An operation that logs to a logger, is observed by further concerns and passes on to telemetry.
Someone has to observe it. -/
def observed (component name : String) (logger : Option String) (concerns : List (Concern σ))
    (telemetry : List (Concern σ)) : Except Failure (Operation σ) :=
  let all := (logger.map Concern.logging).toList ++ concerns ++ telemetry
  if all.isEmpty then
    .error (.badValue "public_api_instrumented requires at least one concern")
  else .ok ⟨component, name, all, logger⟩

/-- Report that a concern has failed. -/
def report (op : Operation σ) (stage : Stage) (concern : String) (failure : Failure) :
    Flow σ Unit :=
  match op.logger with
  | none => pure ()
  | some logger =>
    Log.logWith logger Log.warning "Public API instrumentation concern failed" [
      ("event", .text "public_api_instrumentation_failure"),
      ("component_id", .text op.component),
      ("api_name", .text op.name),
      ("stage", .text stage.name),
      ("concern", .text concern),
      ("errors", .text failure.brief)]

/-- Tell concerns one after the other, each whatever became of those before. -/
def tell (op : Operation σ) (stage : Stage) (hook : Concern σ → Flow σ Unit) :
    List (Concern σ) → Flow σ Unit
  | [] => pure ()
  | c :: r => do
    Flow.handling (hook c) (op.report stage c.name)
    tell op stage hook r

/-- The end of a call as concerns are told of it. -/
def completion (invocation : Invocation) (elapsed : Double) (outcome : Except Failure α) :
    Completion :=
  match outcome with
  | .ok _ => ⟨invocation, true, elapsed, [], []⟩
  | .error f => ⟨invocation, false, elapsed, [f.brief], [Vocabulary.value f.detail.category]⟩

/-- Whether a call has come to an end that concerns are told of. -/
def isTold : Except Failure α → Bool
  | .ok _ => true
  | .error f => !f.isInterrupt

/-- A call of an operation that refers to `references`. -/
def run (op : Operation σ) (references : Except Failure Labels) (body : Flow σ α) : Flow σ α := do
  let invocation : Invocation := ⟨op.component, op.name, ← Flow.ofExcept references⟩
  op.tell .invocation (fun c => c.onInvocation invocation) op.concerns
  let outcome ← body.attempt
  if isTold outcome then
    let elapsed ← Flow.ofStep fun s => (.ok s.elapsed, s)
    let completion := completion invocation elapsed outcome
    op.tell .completion (fun c => c.onCompletion completion) op.concerns
  Flow.ofExcept outcome

end Operation

/-! ## References -/

/-- Whether a value is worth referring to. -/
def isReference : Value → Bool
  | .null => false
  | v => v.text? != some ""

/-- Supplied values as references, for the fields that identify a call. -/
def references (idFields : List String) (supplied : List (String × Value)) :
    Except Failure Labels :=
  idFields.foldlM (fun found name =>
    match supplied.lookup name with
    | none => .ok found
    | some v =>
      if !isReference v then .ok found
      else if v.isOverlong then .error .overlongInteger
      else .ok (found.insert name v.display)) {}

/-- What a call with these arguments refers to; nothing when they cannot be matched. -/
def Signature.references (sig : Signature) (idFields : List String) (call : Arguments) :
    Except Failure Labels :=
  match sig.bindPartial? call with
  | none => .ok {}
  | some supplied => Instrument.references idFields supplied

/-- A function with its calls observed. It is called with the arguments that are given, whatever
they refer to. -/
def Operation.wrapped (op : Operation σ) (sig : Signature) (idFields : List String)
    (function : Arguments → Flow σ α) (call : Arguments) : Flow σ α :=
  op.run (sig.references idFields call) (function call)

/-! ## Components -/

/-- A component with public operations: its name, its logger, and the telemetry that all its
operations pass on to. -/
structure Component (σ : Type) where
  id : String
  logger : String
  telemetry : List (Concern σ)

/-- An operation of a component. -/
def Component.operation (c : Component σ) (name : String) : Operation σ :=
  ⟨c.id, name, Concern.logging c.logger :: c.telemetry, some c.logger⟩

/-- A call of an operation of a component; `supplied` are the arguments that identify it. -/
def Component.call (c : Component σ) (name : String) (supplied : List (String × Value))
    (body : Flow σ α) : Flow σ α :=
  (c.operation name).run (references (supplied.map Prod.fst) supplied) body

end Stowage.Instrument
