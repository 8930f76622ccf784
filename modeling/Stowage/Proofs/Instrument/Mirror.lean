import Stowage.Proofs.Instrument.Transparent

/-!
Flows that do the same in a larger world.

A flow mirrors another one when it ends in the same outcome and does the same to the part of its
world that the other one lives in (`Flow.Mirrors`). The rules follow the ways in which flows are put
together; log lines and observed calls mirror those of the smaller world.
-/

namespace Stowage

variable {σ τ α β : Type} {slot : Slot τ σ}

/-- A session as seen from a part of its world. -/
def Session.view (s : Session τ) (slot : Slot τ σ) : Session σ := s.withWorld (slot.get s.world)

namespace Flow

/-- A flow in a larger world does what another one does in a part of it. -/
def Mirrors (slot : Slot τ σ) (large : Flow τ α) (small : Flow σ α) : Prop :=
  ∀ s, small.runFrom (s.view slot) = ((large.runFrom s).1, (large.runFrom s).2.view slot)

namespace Mirrors

theorem ofExcept (outcome : Except Failure α) :
    Mirrors slot (Flow.ofExcept outcome) (Flow.ofExcept outcome) := fun _ => rfl

theorem pure (a : α) : Mirrors slot (Pure.pure a) (Pure.pure a) := ofExcept (.ok a)

theorem throw (f : Failure) :
    Mirrors slot (MonadExcept.throw f : Flow τ α) (MonadExcept.throw f) := ofExcept (.error f)

/-- A part of a session that the world is no part of. -/
theorem read {f : Session τ → α} {g : Session σ → α} (h : ∀ s, g (s.view slot) = f s) :
    Mirrors slot (Flow.ofStep fun s => (.ok (f s), s)) (Flow.ofStep fun s => (.ok (g s), s)) := by
  intro s
  rw [runFrom_ofStep, runFrom_ofStep, h]

theorem zoom (hget : ∀ part w, slot.get (slot.set part w) = part) (body : Flow σ α) :
    Mirrors slot (body.zoom slot) body := by
  intro s
  rw [runFrom_zoom]
  change _ = (_, Session.withWorld _ (slot.get (slot.set _ s.world)))
  rw [hget]
  rfl

theorem attempt {large : Flow τ α} {small : Flow σ α} (h : Mirrors slot large small) :
    Mirrors slot large.attempt small.attempt := by
  intro s
  rw [runFrom_attempt, runFrom_attempt, h s]

theorem bind {large : Flow τ α} {small : Flow σ α} {large' : α → Flow τ β} {small' : α → Flow σ β}
    (h : Mirrors slot large small) (h' : ∀ a, Mirrors slot (large' a) (small' a)) :
    Mirrors slot (large >>= large') (small >>= small') := by
  intro s
  rw [runFrom_bind, runFrom_bind, h s]
  generalize large.runFrom s = r
  rcases r with ⟨f | a, t⟩
  · rfl
  · exact h' a t

theorem andFinally {large : Flow τ α} {small : Flow σ α} {large' : Flow τ Unit}
    {small' : Flow σ Unit} (h : Mirrors slot large small) (h' : Mirrors slot large' small') :
    Mirrors slot (large.andFinally large') (small.andFinally small') :=
  h.attempt.bind fun outcome => h'.bind fun _ => .ofExcept outcome

theorem handling {large : Flow τ α} {small : Flow σ α} {large' : Failure → Flow τ α}
    {small' : Failure → Flow σ α} (h : Mirrors slot large small)
    (h' : ∀ f, Mirrors slot (large' f) (small' f)) :
    Mirrors slot (large.handling large') (small.handling small') := by
  refine h.attempt.bind fun outcome => ?_
  cases outcome with
  | ok a => exact .pure a
  | error f =>
    simp only
    split
    · exact .throw f
    · exact h' f

end Mirrors

end Flow

/-! ## Logging -/

namespace Log

theorem mirrors_bind (values : Entries) : Flow.Mirrors slot (bind values) (bind values) := by
  intro s
  unfold bind
  rw [Flow.runFrom_ofStep, Flow.runFrom_ofStep]
  have hcontext : (s.view slot).context = s.context := rfl
  rw [hcontext]
  cases (bindable values).bind (bound s.context) <;> rfl

theorem mirrors_within (values : Entries) {large : Flow τ α} {small : Flow σ α}
    (h : Flow.Mirrors slot large small) :
    Flow.Mirrors slot (within values large) (within values small) := by
  intro s
  unfold within
  rw [Flow.runFrom_ofStep, Flow.runFrom_ofStep, (mirrors_bind values).bind (fun _ => h) s]
  rfl

theorem mirrors_emit (record : Record) : Flow.Mirrors slot (emit record) (emit record) := by
  intro s
  rw [runFrom_emit, runFrom_emit]
  have hrefusal : refusal? (s.view slot) record = refusal? s record := rfl
  rw [hrefusal]
  cases refusal? s record <;> rfl

theorem mirrors_logWith (logger message : String) (level : Nat) (entries : List (String × Value)) :
    Flow.Mirrors slot (logWith logger level message entries)
      (logWith logger level message entries) :=
  mirrors_within _ (mirrors_emit _)

end Log

/-! ## Observed calls -/

namespace Instrument

/-- An observer that mirrors another one. -/
structure Concern.Mirrors (slot : Slot τ σ) (large : Concern τ) (small : Concern σ) : Prop where
  name : large.name = small.name
  onInvocation : ∀ i, Flow.Mirrors slot (large.onInvocation i) (small.onInvocation i)
  onCompletion : ∀ e, Flow.Mirrors slot (large.onCompletion e) (small.onCompletion e)

theorem Concern.mirrors_logging (logger : String) :
    Concern.Mirrors slot (.logging logger) (.logging logger) where
  name := rfl
  onInvocation _ := Log.mirrors_within _ (Log.mirrors_emit _)
  onCompletion _ := Log.mirrors_within _ (Log.mirrors_emit _)

theorem Concern.mirrors_zoom (hget : ∀ part w, slot.get (slot.set part w) = part)
    (c : Concern σ) : Concern.Mirrors slot (c.zoom slot) c where
  name := rfl
  onInvocation i := .zoom hget (c.onInvocation i)
  onCompletion e := .zoom hget (c.onCompletion e)

/-- Observers that mirror others one by one. -/
inductive Concern.MirrorsAll (slot : Slot τ σ) : List (Concern τ) → List (Concern σ) → Prop
  | nil : MirrorsAll slot [] []
  | cons {large small larges smalls} : Concern.Mirrors slot large small →
      MirrorsAll slot larges smalls → MirrorsAll slot (large :: larges) (small :: smalls)

theorem Concern.mirrorsAll_map {ι : Type} {large : ι → Concern τ} {small : ι → Concern σ}
    (h : ∀ k, Concern.Mirrors slot (large k) (small k)) (ks : List ι) :
    Concern.MirrorsAll slot (ks.map large) (ks.map small) := by
  induction ks with
  | nil => exact .nil
  | cons k r ih => exact .cons (h k) ih

/-- An operation that mirrors another one: it goes by the same names, and so do its observers. -/
structure Operation.Mirrors (slot : Slot τ σ) (large : Operation τ) (small : Operation σ) :
    Prop where
  component : large.component = small.component
  name : large.name = small.name
  logger : large.logger = small.logger
  concerns : Concern.MirrorsAll slot large.concerns small.concerns

namespace Operation.Mirrors

variable {large : Operation τ} {small : Operation σ}

theorem report (h : Operation.Mirrors slot large small) (concern : String) (stage : Stage)
    (f : Failure) :
    Flow.Mirrors slot (large.report stage concern f) (small.report stage concern f) := by
  unfold Operation.report
  rw [h.logger, h.component, h.name]
  cases small.logger with
  | none => exact .pure ()
  | some logger => exact Log.mirrors_logWith _ _ _ _

theorem tell (h : Operation.Mirrors slot large small) (stage : Stage)
    {hook : Concern τ → Flow τ Unit} {hook' : Concern σ → Flow σ Unit}
    (hhook : ∀ d d', Concern.Mirrors slot d d' → Flow.Mirrors slot (hook d) (hook' d'))
    {larges : List (Concern τ)} {smalls : List (Concern σ)}
    (hall : Concern.MirrorsAll slot larges smalls) :
    Flow.Mirrors slot (large.tell stage hook larges) (small.tell stage hook' smalls) := by
  induction hall with
  | nil => exact .pure ()
  | @cons d d' _ _ hd _ ih =>
    refine .bind ?_ fun _ => ih
    rw [hd.name]
    exact .handling (hhook d d' hd) fun f => h.report _ stage f

/-- An observed call mirrors another one whose body it mirrors. -/
theorem run (h : Operation.Mirrors slot large small) (references : Except Failure Labels)
    {body : Flow τ α} {body' : Flow σ α} (hbody : Flow.Mirrors slot body body') :
    Flow.Mirrors slot (large.run references body) (small.run references body') := by
  refine .bind (.ofExcept references) fun labels => ?_
  rw [h.component, h.name]
  refine .bind (h.tell .invocation (fun d d' hd => hd.onInvocation _) h.concerns)
    fun _ => hbody.attempt.bind fun outcome => ?_
  by_cases htold : Operation.isTold outcome = true
  · simp only [htold, if_true]
    exact .bind (.read fun _ => rfl) fun elapsed =>
      .bind (h.tell .completion (fun d d' hd => hd.onCompletion _) h.concerns)
        fun _ => .ofExcept outcome
  · simp only [htold]
    exact .ofExcept outcome

end Operation.Mirrors

/-- A component in a larger world. -/
def Component.zoom (slot : Slot τ σ) (c : Component σ) : Component τ where
  id := c.id
  logger := c.logger
  telemetry := c.telemetry.map (·.zoom slot)

theorem Component.mirrors_operation (hget : ∀ part w, slot.get (slot.set part w) = part)
    (c : Component σ) (name : String) :
    Operation.Mirrors slot ((c.zoom slot).operation name) (c.operation name) where
  component := rfl
  name := rfl
  logger := rfl
  concerns := by
    have hall := Concern.mirrorsAll_map (Concern.mirrors_zoom hget) c.telemetry
    rw [List.map_id'] at hall
    exact .cons (Concern.mirrors_logging c.logger) hall

/-- A call of a component mirrors another one whose body it mirrors. -/
theorem Component.mirrors_call (hget : ∀ part w, slot.get (slot.set part w) = part)
    (c : Component σ) (name : String) (supplied : List (String × Value)) {large : Flow τ α}
    {small : Flow σ α} (h : Flow.Mirrors slot large small) :
    Flow.Mirrors slot ((c.zoom slot).call name supplied large) (c.call name supplied small) :=
  (c.mirrors_operation hget name).run _ h

end Instrument

end Stowage
