import Stowage.Instrument.Operation

/-!
Rehearsed calls: trees of calls of one observed function, and concerns made for trying it out.

Every call writes into the journal when its body runs, then makes its inner calls, whatever becomes
of them, and ends as it is told to.
-/

namespace Stowage.Instrument

variable {σ : Type}

/-- A call with its arguments, the calls that its body makes, and the failure that it ends in, if
any. -/
inductive CallTree where
  | node (arguments : Arguments) (inner : List CallTree) (ending : Option Failure)

instance : Inhabited CallTree := ⟨.node {} [] none⟩

/-- The function that is called. -/
def rehearsed : Signature where
  function := "call"
  parameters := [
    { name := "container_id" },
    { name := "owner", required := false },
    { name := "force", kind := .keywordOnly, required := false },
    { name := "tag", kind := .keywordOnly, required := false },
    { name := "event", kind := .keywordOnly, required := false }]

/-- How a rehearsed call ends. -/
def ending : Option Failure → Except Failure String
  | none => .ok "done"
  | some f => .error f

mutual

/-- Make a call. -/
def CallTree.run (op : Operation σ) (idFields : List String) : CallTree → Flow σ String
  | .node arguments inner last =>
    op.wrapped rehearsed idFields (fun given => do
      Flow.ofExcept (rehearsed.check given)
      Flow.record .body
      CallTree.runAll op idFields inner
      Flow.ofExcept (ending last)) arguments

/-- Make calls one after the other and write down how each of them ended. -/
def CallTree.runAll (op : Operation σ) (idFields : List String) : List CallTree → Flow σ Unit
  | [] => pure ()
  | t :: r => do
    let outcome ← (CallTree.run op idFields t).attempt
    Flow.record (.nested outcome)
    CallTree.runAll op idFields r

end

/-- The concern that writes into the journal. -/
def Concern.recording : Concern σ where
  name := "Recording"
  onInvocation i := Flow.record (.invoked i)
  onCompletion c := Flow.record (.completed c)

/-- The concern that fails at some moments. -/
def Concern.failing (at? : Stage → Bool) (failure : Failure) : Concern σ where
  name := "Broken"
  onInvocation _ := if at? .invocation then throw failure else pure ()
  onCompletion _ := if at? .completion then throw failure else pure ()

end Stowage.Instrument
