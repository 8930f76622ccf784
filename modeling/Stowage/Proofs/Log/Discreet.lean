import Stowage.Log.Logger
import Stowage.Proofs.Flow.Laws

/-!
Discreet flows, and what logging does to a session.

A flow is discreet when it leaves alone everything that other parts of the program rely on: the
world, the bound context, the set-up of logging and the requests that have been sent. Log lines are
discreet (`discreet_logWith`). They also succeed (`logWith_ok`) in a session whose context hides no
part that holds a record together (`Log.Writable`).
-/

namespace Stowage

variable {σ τ α β : Type}

/-- The request that an event is about. -/
def Event.request? : Event → Option Http.Request
  | .request sent => some sent
  | _ => none

namespace Session

/-- The requests that have been sent, in order. -/
def requests (s : Session σ) : List Http.Request := s.journal.filterMap Event.request?

/-- Sessions that differ in nothing but log lines, spans and measurements. -/
structure Alike (s t : Session σ) : Prop where
  world : t.world = s.world
  context : t.context = s.context
  logging : t.logging = s.logging
  requests : t.requests = s.requests

namespace Alike

theorem refl (s : Session σ) : s.Alike s := ⟨rfl, rfl, rfl, rfl⟩

theorem trans {s t u : Session σ} (h₁ : s.Alike t) (h₂ : t.Alike u) : s.Alike u :=
  ⟨h₂.world.trans h₁.world, h₂.context.trans h₁.context, h₂.logging.trans h₁.logging,
    h₂.requests.trans h₁.requests⟩

end Alike

end Session

namespace Flow

/-- A flow that leaves a session as it was but for log lines, spans and measurements, and that is
not interrupted. -/
def Discreet (body : Flow σ α) : Prop :=
  ∀ s, s.Alike (body.runFrom s).2 ∧
    ∀ f, (body.runFrom s).1 = .error f → f.isInterrupt = false

namespace Discreet

theorem pure (a : α) : (Pure.pure a : Flow σ α).Discreet :=
  fun s => ⟨.refl s, fun f h => by cases h⟩

theorem bind {body : Flow σ α} {next : α → Flow σ β} (hb : body.Discreet)
    (hn : ∀ a, (next a).Discreet) : (body >>= next).Discreet := by
  intro s
  rw [runFrom_bind]
  have hs := hb s
  generalize body.runFrom s = r at hs ⊢
  rcases r with ⟨f | a, t⟩
  · exact ⟨hs.1, fun g hg => hs.2 g (by cases hg; rfl)⟩
  · exact ⟨hs.1.trans (hn a t).1, (hn a t).2⟩

theorem record {event : Event} (h : event.request? = none) :
    (Flow.record event : Flow σ Unit).Discreet := by
  refine fun s => ⟨⟨rfl, rfl, rfl, ?_⟩, fun f hf => by cases hf⟩
  change (s.journal ++ [event]).filterMap Event.request? = s.requests
  simp [Session.requests, List.filterMap_append, h]

theorem handling {body : Flow σ α} {deal : Failure → Flow σ α} (hb : body.Discreet)
    (hd : ∀ f, (deal f).Discreet) : (body.handling deal).Discreet := by
  intro s
  rw [runFrom_handling]
  have hs := hb s
  generalize body.runFrom s = r at hs ⊢
  rcases r with ⟨f | a, t⟩
  · have hf : f.isInterrupt = false := hs.2 f rfl
    simp only [hf, Bool.false_eq_true, if_false]
    exact ⟨hs.1.trans (hd f t).1, (hd f t).2⟩
  · exact ⟨hs.1, fun g hg => by cases hg⟩

/-- A discreet flow is discreet in a larger world. -/
theorem zoom {slot : Slot τ σ} (hset : ∀ w, slot.set (slot.get w) w = w) {body : Flow σ α}
    (hb : body.Discreet) : (body.zoom slot).Discreet := by
  intro s
  rw [runFrom_zoom]
  obtain ⟨ha, hf⟩ := hb (s.withWorld (slot.get s.world))
  refine ⟨⟨?_, ha.context, ha.logging, ha.requests⟩, hf⟩
  change slot.set _ s.world = s.world
  rw [ha.world]
  exact hset s.world

end Discreet

end Flow

namespace Log

/-- Log records can be written: no bound name takes the place of a part that holds a record
together, or there is no handler that would mind. -/
def Writable (s : Session σ) : Prop :=
  (∀ h ∈ s.logging.handlers, h.format = .kept) ∨ ∀ e ∈ s.context.entries, partFault? e.1 = none

theorem Writable.alike {s t : Session σ} (h : s.Alike t) (hs : Writable s) : Writable t := by
  unfold Writable at *
  rw [h.logging, h.context]
  exact hs

/-- Fields whose names and values can always be bound. -/
def Bindable (entries : List (String × Value)) : Prop :=
  ∀ e ∈ entries, partFault? e.1 = none ∧ e.2.isOverlong = false

/-! ## Context -/

theorem mem_keys_insert {labels : Labels} {key value k : String}
    (h : k ∈ (labels.insert key value).entries.map Prod.fst) :
    k = key ∨ k ∈ labels.entries.map Prod.fst :=
  Labels.mem_keys_putEntry.1 h

/-- Binding adds no names but those that are bound. -/
theorem bound_fields {entries : List (String × Value)}
    (h : ∀ e ∈ entries, e.2.isOverlong = false) (context : Labels) :
    ∃ after, bound context (fields entries) = .ok after ∧
      ∀ k ∈ after.entries.map Prod.fst,
        k ∈ context.entries.map Prod.fst ∨ k ∈ entries.map Prod.fst := by
  induction entries generalizing context with
  | nil => exact ⟨context, rfl, fun k hk => .inl hk⟩
  | cons e r ih =>
    obtain ⟨key, v⟩ := e
    have hr : ∀ e ∈ r, e.2.isOverlong = false := fun e he => h e (List.mem_cons_of_mem _ he)
    have hv : v.isOverlong = false := h (key, v) List.mem_cons_self
    by_cases hnull : v = .null
    · subst hnull
      obtain ⟨after, ha, hk⟩ := ih hr context
      refine ⟨after, ha, fun k hmem => ?_⟩
      rcases hk k hmem with hc | hc
      · exact .inl hc
      · exact .inr (List.mem_cons_of_mem _ hc)
    · obtain ⟨after, ha, hk⟩ := ih hr (context.insert key v.display)
      refine ⟨after, ?_, fun k hmem => ?_⟩
      · rw [← ha]
        change bound context ((.text key, v) :: fields r) = _
        cases v <;> first | exact absurd rfl hnull | simp [bound, Value.text?, hv]
      · rcases hk k hmem with hc | hc
        · rcases mem_keys_insert hc with rfl | hc
          · exact .inr List.mem_cons_self
          · exact .inl hc
        · exact .inr (List.mem_cons_of_mem _ hc)

/-- A value that is too long to be written cannot be bound. -/
theorem bound_fields_overlong {entries : List (String × Value)}
    (h : ∃ e ∈ entries, e.2.isOverlong = true) (context : Labels) :
    bound context (fields entries) = .error .overlongInteger := by
  induction entries generalizing context with
  | nil =>
    obtain ⟨_, hmem, -⟩ := h
    cases hmem
  | cons e r ih =>
    obtain ⟨key, v⟩ := e
    change bound context ((.text key, v) :: fields r) = _
    by_cases hv : v.isOverlong = true
    · have hnull : v ≠ .null := by
        rintro rfl
        exact absurd hv Bool.false_ne_true
      cases v <;> first | exact absurd rfl hnull | simp [bound, Value.text?, hv]
    · have hr : ∃ e ∈ r, e.2.isOverlong = true := by
        obtain ⟨e, hmem, he⟩ := h
        rcases List.mem_cons.1 hmem with rfl | hmem
        · exact absurd he hv
        · exact ⟨e, hmem, he⟩
      cases v <;> simp [bound, Value.text?, hv, ih hr]

theorem bindable_fields (entries : List (String × Value)) :
    bindable (fields entries) = .ok (fields entries) := by
  unfold bindable
  refine if_pos ?_
  simp [fields, List.all_map, Value.text?]

theorem bound_not_interrupt {context : Labels} {values : Entries} {f : Failure}
    (h : bound context values = .error f) : f.isInterrupt = false := by
  induction values generalizing context with
  | nil => cases h
  | cons e r ih =>
    obtain ⟨k, v⟩ := e
    unfold bound at h
    split at h
    · cases h
      rfl
    · split at h
      · exact ih h
      · split at h
        · cases h
          rfl
        · exact ih h

theorem bindable_bind_not_interrupt {context : Labels} {values : Entries} {f : Failure}
    (h : (bindable values).bind (bound context) = .error f) : f.isInterrupt = false := by
  unfold bindable at h
  split at h
  · exact bound_not_interrupt h
  · cases h
    rfl

theorem runFrom_within (values : Entries) (body : Flow σ α) (s : Session σ) :
    (within values body).runFrom s = match (bindable values).bind (bound s.context) with
      | .ok context =>
        ((body.runFrom { s with context }).1,
          { (body.runFrom { s with context }).2 with context := s.context })
      | .error f => (.error f, s) := by
  unfold within
  rw [Flow.runFrom_ofStep, Flow.runFrom_bind]
  unfold bind
  rw [Flow.runFrom_ofStep]
  cases (bindable values).bind (bound s.context) <;> rfl

/-- A discreet flow is discreet in a context of its own. -/
theorem discreet_within (values : Entries) {body : Flow σ α} (hb : body.Discreet) :
    (within values body).Discreet := by
  intro s
  rw [runFrom_within]
  cases h : (bindable values).bind (bound s.context) with
  | error f => exact ⟨.refl s, fun g hg => by cases hg; exact bindable_bind_not_interrupt h⟩
  | ok context =>
    obtain ⟨ha, hf⟩ := hb { s with context }
    exact ⟨⟨ha.world, rfl, ha.logging, ha.requests⟩, hf⟩

/-! ## Records -/

theorem partFault?_not_interrupt {name : String} {f : Failure} (h : partFault? name = some f) :
    f.isInterrupt = false := by
  unfold partFault? at h
  split at h <;> cases h <;> rfl

/-- A record with the context of a session. -/
def stamped (s : Session σ) (record : Record) : Record := { record with context := s.context }

/-- Why a record cannot be written, if it cannot. -/
def refusal? (s : Session σ) (record : Record) : Option Failure :=
  if (reached s (stamped s record)).all (·.format = .kept) then none
  else s.context.entries.findSome? fun (name, _) => partFault? name

theorem runFrom_emit (record : Record) (s : Session σ) :
    (emit record).runFrom s = match refusal? s record with
      | some f => (.error f, s)
      | none =>
        (.ok (), { s with journal := s.journal ++
          (reached s (stamped s record)).map fun h => .line h.format (stamped s record) }) := rfl

theorem refusal?_not_interrupt {s : Session σ} {record : Record} {f : Failure}
    (h : refusal? s record = some f) : f.isInterrupt = false := by
  unfold refusal? at h
  split at h
  · cases h
  · obtain ⟨e, -, he⟩ := List.exists_of_findSome?_eq_some h
    exact partFault?_not_interrupt he

theorem mem_handlers_of_mem_reached {s : Session σ} {record : Record} {h : Handler}
    (hh : h ∈ reached s record) : h ∈ s.logging.handlers := by
  unfold reached at hh
  split at hh
  · cases hh
  · exact (List.mem_filter.1 hh).1

theorem refusal?_of_writable {s : Session σ} (hs : Writable s) (record : Record) :
    refusal? s record = none := by
  unfold refusal?
  split
  · rfl
  · rename_i hall
    rcases hs with hk | hc
    · refine absurd (List.all_eq_true.2 fun h hh => ?_) hall
      simpa using hk h (mem_handlers_of_mem_reached hh)
    · exact List.findSome?_eq_none_iff.2 hc

theorem filterMap_request?_line (handlers : List Handler) (record : Record) :
    (handlers.map fun h => Event.line h.format record).filterMap Event.request? = [] := by
  induction handlers with
  | nil => rfl
  | cons h r ih => exact ih

theorem discreet_emit (record : Record) : (emit record : Flow σ Unit).Discreet := by
  intro s
  rw [runFrom_emit]
  cases h : refusal? s record with
  | some f => exact ⟨.refl s, fun g hg => by cases hg; exact refusal?_not_interrupt h⟩
  | none =>
    refine ⟨⟨rfl, rfl, rfl, ?_⟩, fun g hg => by cases hg⟩
    unfold Session.requests
    rw [List.filterMap_append, filterMap_request?_line, List.append_nil]

theorem emit_ok {s : Session σ} (hs : Writable s) (record : Record) :
    ((emit record).runFrom s).1 = .ok () := by
  rw [runFrom_emit, refusal?_of_writable hs]

/-- Log lines are discreet. -/
theorem discreet_logWith (logger : String) (level : Nat) (message : String)
    (entries : List (String × Value)) :
    (logWith logger level message entries : Flow σ Unit).Discreet :=
  discreet_within _ (discreet_emit _)

theorem spans_logWith (logger : String) (level : Nat) (message : String)
    (entries : List (String × Value)) (s : Session σ) :
    ((logWith logger level message entries).runFrom s).2.spans = s.spans := by
  unfold logWith log
  rw [runFrom_within]
  cases (bindable (fields entries)).bind (bound s.context) with
  | error f => rfl
  | ok context =>
    simp only [runFrom_emit]
    split <;> rfl

/-- A line is logged where records can be written, if its fields can be bound. -/
theorem logWith_ok {s : Session σ} (hs : Writable s) (logger : String) (level : Nat)
    (message : String) {entries : List (String × Value)} (he : Bindable entries) :
    ((logWith logger level message entries).runFrom s).1 = .ok () := by
  unfold logWith
  rw [runFrom_within, bindable_fields]
  obtain ⟨after, ha, hk⟩ := bound_fields (fun e h => (he e h).2) s.context
  have hb : (Except.ok (fields entries)).bind (bound s.context) = .ok after := ha
  rw [hb]
  refine emit_ok ?_ _
  rcases hs with h | h
  · exact .inl h
  · refine .inr fun e hmem => ?_
    rcases hk e.1 (List.mem_map_of_mem hmem) with hc | hc
    · obtain ⟨e', he', heq⟩ := List.mem_map.1 hc
      rw [← heq]
      exact h e' he'
    · obtain ⟨e', he', heq⟩ := List.mem_map.1 hc
      rw [← heq]
      exact (he e' he').1

theorem logWith_overlong (s : Session σ) (logger : String) (level : Nat) (message : String)
    {entries : List (String × Value)} (h : ∃ e ∈ entries, e.2.isOverlong = true) :
    ((logWith logger level message entries).runFrom s).1 = .error .overlongInteger := by
  unfold logWith
  rw [runFrom_within, bindable_fields]
  have hb : (Except.ok (fields entries)).bind (bound s.context) = .error .overlongInteger :=
    bound_fields_overlong h s.context
  rw [hb]

end Log

end Stowage
