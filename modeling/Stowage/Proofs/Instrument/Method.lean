import Stowage.Proofs.Instrument.Notes

/-!
Methods: trees of calls of observed operations.

A method takes steps in a world of its own, calls other methods, and goes on from what comes of
either; it may deal with failures or pass them on. Observers live beside the methods, in a world
that methods do not see. A method runs bare, with nobody told of its calls (`Method.bare`), or with
every call observed (`Method.observed`). `Method.noted` is the observed run with notes taken of all
that observers and callers get to see; taking notes changes nothing (`Method.mirrors_noted`).
-/

namespace Stowage

variable {σ ν ω κ ι ρ α β : Type}

namespace Instrument

/-- An observer that takes a note of what it is told before it acts. -/
def Concern.noted (began : Invocation → ν) (ended : Completion → ν) (c : Concern σ) :
    Concern (Noted σ ν) where
  name := c.name
  onInvocation i := do
    Flow.note (began i)
    (c.onInvocation i).zoom Noted.slot
  onCompletion e := do
    Flow.note (ended e)
    (c.onCompletion e).zoom Noted.slot

theorem Concern.mirrors_noted (began : Invocation → ν) (ended : Completion → ν) (c : Concern σ) :
    Concern.Mirrors Noted.slot (c.noted began ended) c where
  name := rfl
  onInvocation i := .note (.zoom (fun _ _ => rfl) (c.onInvocation i)) (began i)
  onCompletion e := .note (.zoom (fun _ _ => rfl) (c.onCompletion e)) (ended e)

/-! ## Methods -/

/-- A world of methods, and beside it one of observers. -/
structure Scene (ω κ : Type) where
  stage : ω
  audience : κ

/-- The world that methods see. -/
def Scene.slot : Slot (Scene ω κ) ω := ⟨stage, fun stage w => { w with stage }⟩

/-- A place where a method is called: the names of the operation, who observes it, in order, the
logger that observers who fail are reported to, and what the call refers to. -/
structure Site (ι : Type) where
  component : String
  name : String
  observers : List ι
  logger : Option String := none
  references : Labels := {}

/-- The operation that is called at a place. -/
def Site.operation (concern : ι → Concern σ) (site : Site ι) : Operation σ :=
  ⟨site.component, site.name, site.observers.map concern, site.logger⟩

/-- The beginning of a call at a place. -/
def Site.invocation (site : Site ι) : Invocation :=
  ⟨site.component, site.name, site.references⟩

/-- An observed call. -/
def Site.call (concern : ι → Concern σ) (site : Site ι) (body : Flow σ α) : Flow σ α :=
  (site.operation concern).run (.ok site.references) body

/-- What is noted while an observer is told; a report of its failure adds nothing. -/
theorem Operation.takes_attend (op : Operation (Noted σ ν)) (stage : Stage) (name : String)
    {hook : Flow (Noted σ ν) Unit} {before : Session (Noted σ ν) → Prop}
    {P : Session (Noted σ ν) → List ν → Prop}
    (h : Flow.Takes before hook fun o t more => Log.Writable t ∧
      (∀ f, o = .error f → f.isInterrupt = false) ∧ P t more)
    (hP : ∀ s t more, s.Alike t → t.spans = s.spans → Log.Writable s → P s more → P t more) :
    Flow.Takes before (hook.handling (op.report stage name))
      fun o t more => o = .ok () ∧ P t more := by
  intro s hs
  obtain ⟨more, hnotes, hw, hf, hmore⟩ := h s hs
  obtain ⟨hok, ha, hspans⟩ := op.attend hw hf stage name
  refine ⟨more, ?_, hok, hP _ _ more ha hspans hw hmore⟩
  rw [ha.world, hnotes]

/-- What is noted of an observed call: while its beginning is told, in its body, and while its end
is told. -/
theorem Site.takes_call {concern : ι → Concern (Noted σ ν)} {site : Site ι}
    {body : Flow (Noted σ ν) α} {before : Session (Noted σ ν) → Prop}
    {P : Session (Noted σ ν) → List ν → Prop}
    {Q R : Except Failure α → Session (Noted σ ν) → List ν → Prop}
    (hbegun : Flow.Takes before
      ((site.operation concern).tell .invocation (fun c => c.onInvocation site.invocation)
        (site.observers.map concern)) fun o t more => o = .ok () ∧ P t more)
    (hbody : ∀ first, Flow.Takes (fun t => P t first) body fun o t more =>
      Operation.isTold o = true ∧ Q o t (first ++ more))
    (hended : ∀ outcome so elapsed, Flow.Takes (fun t => Q outcome t so)
      ((site.operation concern).tell .completion
        (fun c => c.onCompletion (Operation.completion site.invocation elapsed outcome))
        (site.observers.map concern)) fun o t more => o = .ok () ∧ R outcome t (so ++ more)) :
    Flow.Takes before (site.call concern body) R := by
  intro s hs
  unfold Site.call Operation.run
  rw [Flow.runFrom_bind_ok (Flow.runFrom_ofExcept _ s)]
  refine Flow.Takes.bind_ok hbegun (fun first =>
    .bind_attempt (hbody first) fun outcome more => ?_) s hs
  by_cases htold : Operation.isTold outcome = true
  · simp only [htold, if_true, true_and]
    refine .read_bind fun elapsed => .bind_ok (hended outcome (first ++ more) elapsed)
      fun rest => .ofExcept fun u hu => ?_
    rw [List.append_nil, ← List.append_assoc]
    exact hu
  · exact fun t ht => absurd ht.1 htold

/-- A method with the calls it makes: it ends, or takes a step, or calls another method, and goes on
as the outcome of that may be. -/
inductive Method (ι ω ρ : Type) where
  | finish (outcome : Except Failure ρ)
  | step (act : Flow ω ρ) (next : Except Failure ρ → Method ι ω ρ)
  | call (site : Site ι) (body : Method ι ω ρ) (next : Except Failure ρ → Method ι ω ρ)

namespace Method

/-- Run a method, given how steps are taken and what is done about a call. -/
def run (step : Flow ω ρ → Flow σ ρ) (call : Site ι → Flow σ ρ → Flow σ ρ) :
    Method ι ω ρ → Flow σ ρ
  | .finish outcome => Flow.ofExcept outcome
  | .step act next => do
    let outcome ← (step act).attempt
    run step call (next outcome)
  | .call site body next => do
    let outcome ← (call site (run step call body)).attempt
    run step call (next outcome)

/-- A method by itself, nobody being told of its calls. -/
def bare : Method ι ω ρ → Flow ω ρ := run id fun _ body => body

/-- A method all of whose calls are observed. -/
def observed (concern : ι → Concern (Scene ω κ)) : Method ι ω ρ → Flow (Scene ω κ) ρ :=
  run (Flow.zoom Scene.slot) (Site.call concern)

end Method

/-- What there is to note about a call: an observer is told of its beginning, its body begins and
ends, an observer is told of its end, and its caller is given the outcome. -/
inductive Note (ι ρ : Type) where
  | began (observer : ι) (invocation : Invocation)
  | entered (invocation : Invocation)
  | left (outcome : Except Failure ρ)
  | ended (observer : ι) (completion : Completion)
  | returned (outcome : Except Failure ρ)

/-- A call with everything noted about it. -/
def Site.noted (concern : ι → Concern σ) (site : Site ι) (body : Flow (Noted σ (Note ι ρ)) ρ) :
    Flow (Noted σ (Note ι ρ)) ρ :=
  Flow.noting .returned
    (site.call (fun k => (concern k).noted (.began k) (.ended k)) do
      Flow.note (.entered site.invocation)
      Flow.noting .left body)

theorem Site.mirrors_call {τ : Type} {slot : Slot τ σ} {large : ι → Concern τ}
    {small : ι → Concern σ} (h : ∀ k, Concern.Mirrors slot (large k) (small k)) (site : Site ι)
    {body : Flow τ α} {body' : Flow σ α} (hbody : Flow.Mirrors slot body body') :
    Flow.Mirrors slot (site.call large body) (site.call small body') := by
  have hop : Operation.Mirrors slot (site.operation large) (site.operation small) :=
    ⟨rfl, rfl, rfl, Concern.mirrorsAll_map h site.observers⟩
  exact hop.run (.ok site.references) hbody

namespace Method

/-- A method all of whose calls are observed and noted. -/
def noted (concern : ι → Concern (Scene ω κ)) :
    Method ι ω ρ → Flow (Noted (Scene ω κ) (Note ι ρ)) ρ :=
  run (fun act => (act.zoom Scene.slot).zoom Noted.slot) (Site.noted concern)

/-- A method does the same in a larger world if its steps and calls do. -/
theorem mirrors_run {τ : Type} {slot : Slot τ σ} {step : Flow ω ρ → Flow τ ρ}
    {step' : Flow ω ρ → Flow σ ρ} {call : Site ι → Flow τ ρ → Flow τ ρ}
    {call' : Site ι → Flow σ ρ → Flow σ ρ}
    (hstep : ∀ act, Flow.Mirrors slot (step act) (step' act))
    (hcall : ∀ site body body', Flow.Mirrors slot body body' →
      Flow.Mirrors slot (call site body) (call' site body')) (m : Method ι ω ρ) :
    Flow.Mirrors slot (m.run step call) (m.run step' call') := by
  induction m with
  | finish outcome => exact .ofExcept outcome
  | step act next ih => exact .bind (hstep act).attempt ih
  | call site body next ihbody ih => exact .bind (hcall site _ _ ihbody).attempt ih

/-- Nobody sees that notes are taken. -/
theorem mirrors_noted (concern : ι → Concern (Scene ω κ)) (m : Method ι ω ρ) :
    Flow.Mirrors Noted.slot (m.noted concern) (m.observed concern) := by
  refine m.mirrors_run (fun act => .zoom (fun _ _ => rfl) _) fun site body body' hbody => ?_
  have hentered : Flow.Mirrors Noted.slot
      (do Flow.note (.entered site.invocation); Flow.noting .left body) body' :=
    (hbody.noting .left).note _
  exact (site.mirrors_call (fun k => (concern k).mirrors_noted _ _) hentered).noting .returned

end Method

end Instrument

end Stowage
