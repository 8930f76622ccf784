import Stowage.Session

/-!
Laws of flows: the outcome of a flow and the session after it, from those of its parts.

`runFrom_bind` and its companions evaluate a flow step by step. `Flow.zoom` runs a flow in a part of
a larger world; the larger world may keep books of which the flow knows nothing.
-/

namespace Stowage

theorem bind_eq_ok {ε α β : Type} {x : Except ε α} {f : α → Except ε β} {b : β} :
    (x >>= f) = .ok b ↔ ∃ a, x = .ok a ∧ f a = .ok b := by
  cases x <;> simp [bind, Except.bind]

theorem bind_eq_error {ε α β : Type} {x : Except ε α} {f : α → Except ε β} {e : ε} :
    (x >>= f) = .error e ↔ x = .error e ∨ ∃ a, x = .ok a ∧ f a = .error e := by
  cases x <;> simp [bind, Except.bind]

/-- What is known of the failures of a step is known of those of all steps. -/
theorem mapM_error {ε α β : Type} {P : ε → Prop} {f : α → Except ε β}
    (hf : ∀ a e, f a = .error e → P e) {as : List α} {e : ε} (h : as.mapM f = .error e) : P e := by
  induction as with
  | nil => cases h
  | cons a r ih =>
    rw [List.mapM_cons] at h
    rcases bind_eq_error.1 h with h | ⟨_, -, h⟩
    · exact hf a e h
    · rcases bind_eq_error.1 h with h | ⟨_, -, h⟩
      · exact ih h
      · cases h

theorem foldlM_error {ε α β : Type} {P : ε → Prop} {f : β → α → Except ε β}
    (hf : ∀ b a e, f b a = .error e → P e) {as : List α} {b : β} {e : ε}
    (h : as.foldlM f b = .error e) : P e := by
  induction as generalizing b with
  | nil => cases h
  | cons a r ih =>
    rw [List.foldlM_cons] at h
    rcases bind_eq_error.1 h with h | ⟨_, -, h⟩
    · exact hf b a e h
    · exact ih h

theorem eq_ok_of_toOption {ε α : Type} {x : Except ε α} {a : α} (h : x.toOption = some a) :
    x = .ok a := by
  cases x with
  | error e => cases h
  | ok b => exact congrArg _ (Option.some.inj h)

/-- A session over another world. -/
def Session.withWorld {σ τ : Type} (s : Session σ) (world : τ) : Session τ where
  context := s.context
  logging := s.logging
  spans := s.spans
  spanCount := s.spanCount
  elapsed := s.elapsed
  journal := s.journal
  world := world

namespace Flow

variable {σ τ α β : Type}

/-- A flow in a part of a larger world. -/
def zoom (slot : Slot τ σ) (body : Flow σ α) : Flow τ α :=
  ofStep fun s =>
    let (outcome, after) := body.runFrom (s.withWorld (slot.get s.world))
    (outcome, after.withWorld (slot.set after.world s.world))

/-! ## Evaluation -/

@[simp] theorem runFrom_pure (a : α) (s : Session σ) :
    (pure a : Flow σ α).runFrom s = (.ok a, s) := rfl

@[simp] theorem runFrom_throw (f : Failure) (s : Session σ) :
    (throw f : Flow σ α).runFrom s = (.error f, s) := rfl

@[simp] theorem runFrom_ofStep (step : Session σ → Except Failure α × Session σ)
    (s : Session σ) : (ofStep step).runFrom s = step s := rfl

@[simp] theorem runFrom_ofExcept (outcome : Except Failure α) (s : Session σ) :
    (ofExcept outcome).runFrom s = (outcome, s) := rfl

@[simp] theorem runFrom_look (slot : Slot σ τ) (s : Session σ) :
    (look slot).runFrom s = (.ok (slot.get s.world), s) := rfl

@[simp] theorem runFrom_put (slot : Slot σ τ) (part : τ) (s : Session σ) :
    (put slot part).runFrom s = (.ok (), { s with world := slot.set part s.world }) := rfl

@[simp] theorem runFrom_record (event : Event) (s : Session σ) :
    (record event).runFrom s = (.ok (), { s with journal := s.journal ++ [event] }) := rfl

theorem runFrom_bind (body : Flow σ α) (next : α → Flow σ β) (s : Session σ) :
    (body >>= next).runFrom s = match body.runFrom s with
      | (.ok a, t) => (next a).runFrom t
      | (.error f, t) => (.error f, t) := by
  change ExceptT.bindCont next (body.runFrom s).1 (body.runFrom s).2 = _
  rcases body.runFrom s with ⟨_ | _, t⟩ <;> rfl

theorem runFrom_bind_ok {body : Flow σ α} {next : α → Flow σ β} {s t : Session σ} {a : α}
    (h : body.runFrom s = (.ok a, t)) : (body >>= next).runFrom s = (next a).runFrom t := by
  rw [runFrom_bind, h]

theorem runFrom_bind_error {body : Flow σ α} {next : α → Flow σ β} {s t : Session σ}
    {f : Failure} (h : body.runFrom s = (.error f, t)) :
    (body >>= next).runFrom s = (.error f, t) := by
  rw [runFrom_bind, h]

/-- The outcome of a flow is that of its parts, one after the other. -/
theorem outcome_bind (body : Flow σ α) (next : α → Flow σ β) (s : Session σ) :
    ((body >>= next).runFrom s).1 =
      (body.runFrom s).1 >>= fun a => ((next a).runFrom (body.runFrom s).2).1 := by
  rw [runFrom_bind]
  rcases body.runFrom s with ⟨_ | _, t⟩ <;> rfl

/-- What has succeeded has done so in both its parts. -/
theorem exists_of_bind_ok {body : Flow σ α} {next : α → Flow σ β} {s t : Session σ} {b : β}
    (h : (body >>= next).runFrom s = (.ok b, t)) :
    ∃ a u, body.runFrom s = (.ok a, u) ∧ (next a).runFrom u = (.ok b, t) := by
  rw [runFrom_bind] at h
  generalize body.runFrom s = r at h
  rcases r with ⟨f | a, u⟩
  · cases h
  · exact ⟨a, u, rfl, h⟩

theorem runFrom_attempt (body : Flow σ α) (s : Session σ) :
    body.attempt.runFrom s = (.ok (body.runFrom s).1, (body.runFrom s).2) := rfl

theorem runFrom_andFinally (body : Flow σ α) (last : Flow σ Unit) (s : Session σ) :
    (body.andFinally last).runFrom s = match last.runFrom (body.runFrom s).2 with
      | (.ok (), t) => ((body.runFrom s).1, t)
      | (.error f, t) => (.error f, t) := by
  unfold andFinally
  rw [runFrom_bind_ok (runFrom_attempt body s), runFrom_bind]
  rcases last.runFrom (body.runFrom s).2 with ⟨_ | _, t⟩ <;> rfl

theorem runFrom_handling (body : Flow σ α) (deal : Failure → Flow σ α) (s : Session σ) :
    (body.handling deal).runFrom s = match body.runFrom s with
      | (.ok a, t) => (.ok a, t)
      | (.error f, t) => if f.isInterrupt then (.error f, t) else (deal f).runFrom t := by
  unfold handling
  rw [runFrom_bind_ok (runFrom_attempt body s)]
  rcases body.runFrom s with ⟨f | a, t⟩
  · by_cases h : f.isInterrupt = true <;> simp [h]
  · rfl

theorem runFrom_zoom (slot : Slot τ σ) (body : Flow σ α) (s : Session τ) :
    (body.zoom slot).runFrom s =
      ((body.runFrom (s.withWorld (slot.get s.world))).1,
        (body.runFrom (s.withWorld (slot.get s.world))).2.withWorld
          (slot.set (body.runFrom (s.withWorld (slot.get s.world))).2.world s.world)) := rfl

end Flow

end Stowage
