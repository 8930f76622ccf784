import Stowage.Instrument.Operation
import Stowage.Proofs.Flow.Gauge

/-!
Observing a call changes nothing about it.

`Operation.run_transparent` is the general statement: concerns that are discreet leave the outcome
of a call and everything that its body did. The call can only fail by itself where what it refers to
cannot be written, or where a concern has failed and the report of that is refused.
-/

namespace Stowage

variable {σ ε α : Type}

namespace Instrument

/-- A concern whose hooks are discreet. They may fail. -/
structure Concern.Discreet (c : Concern σ) : Prop where
  onInvocation : ∀ i, (c.onInvocation i).Discreet
  onCompletion : ∀ e, (c.onCompletion e).Discreet

/-- A concern in a larger world. -/
def Concern.zoom {τ : Type} (slot : Slot τ σ) (c : Concern σ) : Concern τ where
  name := c.name
  onInvocation i := (c.onInvocation i).zoom slot
  onCompletion e := (c.onCompletion e).zoom slot

theorem Concern.Discreet.zoom {τ : Type} {slot : Slot τ σ} {c : Concern σ} (h : c.Discreet)
    (hset : ∀ w, slot.set (slot.get w) w = w) : (c.zoom slot).Discreet where
  onInvocation i := (h.onInvocation i).zoom hset
  onCompletion e := (h.onCompletion e).zoom hset

theorem Concern.discreet_logging (logger : String) :
    (Concern.logging logger : Concern σ).Discreet where
  onInvocation _ := Log.discreet_within _ (Log.discreet_emit _)
  onCompletion _ := Log.discreet_within _ (Log.discreet_emit _)

theorem discreet_openSpan (name : String) : (openSpan name : Flow σ Span).Discreet :=
  fun _ => ⟨⟨rfl, rfl, rfl, rfl⟩, fun f h => by cases h⟩

theorem discreet_pushSpan (concern : Nat) (span : Span) :
    (pushSpan concern span : Flow σ Unit).Discreet :=
  fun _ => ⟨⟨rfl, rfl, rfl, rfl⟩, fun f h => by cases h⟩

theorem discreet_popSpan? (concern : Nat) : (popSpan? concern : Flow σ (Option Span)).Discreet :=
  fun _ => ⟨⟨rfl, rfl, rfl, rfl⟩, fun f h => by cases h⟩

theorem discreet_annotateAll_silent (span : Span) (attributes : List (String × Value)) :
    (annotateAll .silent span attributes : Flow σ Unit).Discreet := by
  induction attributes with
  | nil => exact .pure ()
  | cons a r ih => exact .bind (.pure ()) fun _ => ih

theorem Concern.discreet_tracing_silent (number : Nat) :
    (Concern.tracing number .silent : Concern σ).Discreet where
  onInvocation _ := .bind (discreet_openSpan _) fun span =>
    .bind (discreet_annotateAll_silent span _) fun _ => discreet_pushSpan number span
  onCompletion c := .bind (discreet_popSpan? number) fun span => by
    cases span with
    | none => exact .pure ()
    | some span =>
      refine .bind (discreet_annotateAll_silent span _) fun _ => ?_
      cases c.success <;> exact .bind (.pure ()) fun _ => .pure ()

theorem discreet_countErrors_silent (i : Invocation) (categories : List String) :
    (countErrors .silent i categories : Flow σ Unit).Discreet := by
  induction categories with
  | nil => exact .pure ()
  | cons category r ih => exact .bind (.pure ()) fun _ => ih

theorem Concern.discreet_metrics_silent : (Concern.metrics .silent : Concern σ).Discreet where
  onInvocation _ := .pure ()
  onCompletion c := by
    refine .bind (.pure ()) fun _ => .bind (.pure ()) fun _ => ?_
    cases c.success
    · exact discreet_countErrors_silent _ _
    · exact .pure ()

/-- Telemetry that nobody listens to is discreet. -/
theorem discreet_telemetry_silent (number : Nat) :
    ∀ c ∈ (telemetry number .silent .silent : List (Concern σ)), c.Discreet := by
  intro c hc
  simp only [telemetry, List.mem_cons, List.not_mem_nil, or_false] at hc
  rcases hc with rfl | rfl
  · exact Concern.discreet_tracing_silent number
  · exact Concern.discreet_metrics_silent

namespace Operation

variable (op : Operation σ)

/-! ## Telling -/

theorem discreet_report (stage : Stage) (concern : String) (f : Failure) :
    (op.report stage concern f).Discreet := by
  unfold report
  split
  · exact .pure ()
  · exact Log.discreet_logWith _ _ _ _

theorem report_ok {s : Session σ} (hs : Log.Writable s) (stage : Stage) (concern : String)
    (f : Failure) : ((op.report stage concern f).runFrom s).1 = .ok () := by
  unfold report
  split
  · rfl
  · refine Log.logWith_ok hs _ _ _ fun e he => ?_
    simp only [List.mem_cons, List.not_mem_nil, or_false] at he
    rcases he with rfl | rfl | rfl | rfl | rfl | rfl <;> exact ⟨rfl, rfl⟩

theorem spans_report (stage : Stage) (concern : String) (f : Failure) (s : Session σ) :
    ((op.report stage concern f).runFrom s).2.spans = s.spans := by
  unfold report
  split
  · rfl
  · exact Log.spans_logWith _ _ _ _ s

/-- A concern that fails is reported, and nothing comes of that, where reports are not refused. -/
theorem attend {hook : Flow σ Unit} {s : Session σ} (hs : Log.Writable (hook.runFrom s).2)
    (hf : ∀ f, (hook.runFrom s).1 = .error f → f.isInterrupt = false) (stage : Stage)
    (concern : String) :
    ((hook.handling (op.report stage concern)).runFrom s).1 = .ok () ∧
      (hook.runFrom s).2.Alike ((hook.handling (op.report stage concern)).runFrom s).2 ∧
      ((hook.handling (op.report stage concern)).runFrom s).2.spans =
        (hook.runFrom s).2.spans := by
  rw [Flow.runFrom_handling]
  generalize hook.runFrom s = out at hs hf ⊢
  rcases out with ⟨f | ⟨⟩, t⟩
  · have hni : f.isInterrupt = false := hf f rfl
    simp only [hni, Bool.false_eq_true, if_false]
    exact ⟨report_ok op hs stage concern f, (discreet_report op stage concern f t).1,
      spans_report op stage concern f t⟩
  · exact ⟨rfl, .refl t, rfl⟩

theorem discreet_tell (stage : Stage) {hook : Concern σ → Flow σ Unit} {cs : List (Concern σ)}
    (h : ∀ c ∈ cs, (hook c).Discreet) : (op.tell stage hook cs).Discreet := by
  induction cs with
  | nil => exact .pure ()
  | cons c r ih =>
    refine .bind (.handling (h c List.mem_cons_self) fun f => discreet_report op stage c.name f)
      fun _ => ih fun d hd => h d (List.mem_cons_of_mem _ hd)

/-- All concerns are told, whatever becomes of them, where reports are not refused. -/
theorem tell_ok (stage : Stage) {hook : Concern σ → Flow σ Unit} {cs : List (Concern σ)}
    (h : ∀ c ∈ cs, (hook c).Discreet) {s : Session σ} (hs : Log.Writable s) :
    ((op.tell stage hook cs).runFrom s).1 = .ok () := by
  induction cs generalizing s with
  | nil => rfl
  | cons c r ih =>
    obtain ⟨ha, hf⟩ := h c List.mem_cons_self s
    obtain ⟨hfirst, hreported, -⟩ := op.attend (hs.alike ha) hf stage c.name
    unfold tell
    rw [Flow.runFrom_bind_ok (Prod.ext hfirst rfl)]
    exact ih (fun d hd => h d (List.mem_cons_of_mem _ hd)) (hs.alike (ha.trans hreported))

/-! ## Calls -/

/-- A call with discreet concerns either fails before its body, because a report is refused, or it
runs its body in a session like the one before and leaves what the body has left; its outcome is
that of the body, unless a report is refused afterwards. -/
theorem run_transparent {op : Operation σ} (h : ∀ c ∈ op.concerns, c.Discreet) (labels : Labels)
    (body : Flow σ α) (s : Session σ) :
    (¬ Log.Writable s ∧ s.Alike ((op.run (.ok labels) body).runFrom s).2 ∧
      ∃ f, ((op.run (.ok labels) body).runFrom s).1 = .error f) ∨
    ∃ s₁, s.Alike s₁ ∧ (body.runFrom s₁).2.Alike ((op.run (.ok labels) body).runFrom s).2 ∧
      (((op.run (.ok labels) body).runFrom s).1 = (body.runFrom s₁).1 ∨
        ¬ Log.Writable (body.runFrom s₁).2 ∧
          ∃ f, ((op.run (.ok labels) body).runFrom s).1 = .error f) := by
  unfold run
  rw [Flow.runFrom_bind_ok (Flow.runFrom_ofExcept _ s)]
  let i : Invocation := ⟨op.component, op.name, labels⟩
  have hin : ∀ c ∈ op.concerns, (c.onInvocation i).Discreet := fun c hc => (h c hc).onInvocation i
  obtain ⟨hsame, -⟩ := discreet_tell op .invocation hin s
  have htold := fun hs => tell_ok op .invocation (s := s) hin hs
  rw [Flow.runFrom_bind]
  generalize (op.tell .invocation _ op.concerns).runFrom s = r at hsame htold ⊢
  rcases r with ⟨f | ⟨⟩, s₁⟩
  · refine .inl ⟨fun hs => ?_, hsame, f, rfl⟩
    cases htold hs
  · refine .inr ⟨s₁, hsame, ?_⟩
    simp only
    rw [Flow.runFrom_bind_ok (Flow.runFrom_attempt body s₁)]
    generalize body.runFrom s₁ = b
    obtain ⟨outcome, t⟩ := b
    by_cases hend : isTold outcome = true
    · -- the concerns are told of the end before the outcome is passed on
      simp only [hend, if_true]
      rw [Flow.runFrom_bind_ok (Flow.runFrom_ofStep (fun s => (.ok s.elapsed, s)) t),
        Flow.runFrom_bind]
      let e : Completion := completion i t.elapsed outcome
      have hout : ∀ c ∈ op.concerns, (c.onCompletion e).Discreet :=
        fun c hc => (h c hc).onCompletion e
      obtain ⟨hlast, -⟩ := discreet_tell op .completion hout t
      have hdone := fun ht => tell_ok op .completion (s := t) hout ht
      generalize (op.tell .completion _ op.concerns).runFrom t = r at hlast hdone ⊢
      rcases r with ⟨f | ⟨⟩, u⟩
      · refine ⟨hlast, .inr ⟨fun ht => ?_, f, rfl⟩⟩
        cases hdone ht
      · exact ⟨hlast, .inl rfl⟩
    · simp [hend, Session.Alike.refl]

end Operation

/-! ## Components -/

theorem foldlM_ok {ε β γ : Type} {f : β → γ → Except ε β} (h : ∀ b c, ∃ b', f b c = .ok b')
    (cs : List γ) (b : β) : ∃ b', cs.foldlM f b = .ok b' := by
  induction cs generalizing b with
  | nil => exact ⟨b, rfl⟩
  | cons c r ih =>
    obtain ⟨b', hb⟩ := h b c
    obtain ⟨b'', hr⟩ := ih b'
    exact ⟨b'', by rw [List.foldlM_cons, hb]; exact hr⟩

theorem mem_of_lookup {supplied : List (String × Value)} {name : String} {v : Value}
    (h : supplied.lookup name = some v) : (name, v) ∈ supplied := by
  obtain ⟨before, after, rfl, -⟩ := List.lookup_eq_some_iff.1 h
  exact List.mem_append_right before List.mem_cons_self

/-- Arguments that can be written are referred to. -/
theorem references_ok {supplied : List (String × Value)}
    (h : ∀ e ∈ supplied, e.2.isOverlong = false) (names : List String) :
    ∃ labels, references names supplied = .ok labels := by
  refine foldlM_ok (fun found name => ?_) names Labels.empty
  cases hv : supplied.lookup name with
  | none => exact ⟨found, rfl⟩
  | some v =>
    have hfits : v.isOverlong = false := h (name, v) (mem_of_lookup hv)
    cases hr : isReference v
    · exact ⟨found, by simp [hr]⟩
    · exact ⟨found.insert name v.display, by simp [hr, hfits]⟩

/-- An integer that cannot be written is not referred to. -/
theorem references_overlong {i : Int} (h : Decimal.isOverlong i = true) (name : String)
    (names : List String) (rest : List (String × Value)) :
    references (name :: names) ((name, .int i) :: rest) = .error .overlongInteger := by
  have hr : isReference (.int i) = true := rfl
  simp only [references, List.foldlM_cons, List.lookup_cons_self, hr, Value.isOverlong, h]
  rfl

end Instrument

namespace Gauge

variable {g : Gauge σ ε} {c : Instrument.Component σ} {body : Flow σ α}
  {P : Except Failure α → List ε → Prop}

/-- What goes for a body goes for the call around it, unless a report is refused. -/
def Passed (writable : Prop) (P : Except Failure α → List ε → Prop) (o : Except Failure α)
    (more : List ε) : Prop :=
  P o more ∨ ¬ writable ∧ (∃ f, o = .error f) ∧ (more = [] ∨ ∃ o', P o' more)

theorem Passed.of_writable {writable : Prop} (hw : writable) {o : Except Failure α}
    {more : List ε} (h : Passed writable P o more) : P o more := by
  rcases h with h | ⟨hn, -⟩
  · exact h
  · exact absurd hw hn

/-- What goes for what is added, whatever the outcome, goes for the call around it. -/
theorem Passed.of_list {writable : Prop} {P : List ε → Prop} {o : Except Failure α} {more : List ε}
    (h : Passed writable (fun _ more => P more) o more) (hnil : ¬ writable → P []) : P more := by
  rcases h with h | ⟨hn, -, rfl | ⟨-, h⟩⟩
  · exact h
  · exact hnil hn
  · exact h

theorem discreet_concerns (hc : ∀ d ∈ c.telemetry, d.Discreet) (name : String) :
    ∀ d ∈ (c.operation name).concerns, d.Discreet := by
  intro d hd
  rcases List.mem_cons.1 hd with rfl | hd
  · exact Instrument.Concern.discreet_logging _
  · exact hc d hd

/-- A call adds what its body adds, once it is known what the call refers to. -/
theorem AddsAt.run {op : Instrument.Operation σ} {s : Session σ} (hs : g.holds s)
    (hb : ∀ s₁, s.Alike s₁ → g.AddsAt s₁ body P) (hc : ∀ d ∈ op.concerns, d.Discreet)
    (labels : Labels) : g.AddsAt s (op.run (.ok labels) body) (Passed g.writable P) := by
  rcases Instrument.Operation.run_transparent hc labels body s with
    ⟨hw, ha, hf⟩ | ⟨s₁, ha, hb', ho⟩
  · have hn : ¬ g.writable := fun h => hw (g.log_writable h hs)
    refine ⟨g.holds_alike ha hs, [], ?_, .inr ⟨hn, hf, .inl rfl⟩⟩
    rw [g.list_alike ha, List.append_nil]
  · obtain ⟨ht, more, hlist, hP⟩ := hb s₁ ha
    refine ⟨g.holds_alike hb' ht, more, ?_, ?_⟩
    · rw [g.list_alike hb', hlist, g.list_alike ha]
    · rcases ho with ho | ⟨hw, hf⟩
      · exact .inl (ho ▸ hP)
      · exact .inr ⟨fun h => hw (g.log_writable h ht), hf, .inr ⟨_, hP⟩⟩

/-- A call adds what its body adds. -/
theorem Adds.call (hb : g.Adds body P) (hc : ∀ d ∈ c.telemetry, d.Discreet) (name : String)
    {supplied : List (String × Value)} (hs : ∀ e ∈ supplied, e.2.isOverlong = false) :
    g.Adds (c.call name supplied body) (Passed g.writable P) := by
  intro s hhs
  obtain ⟨labels, hl⟩ := Instrument.references_ok hs (supplied.map Prod.fst)
  unfold Instrument.Component.call
  rw [hl]
  exact AddsAt.run hhs (fun s₁ ha => hb s₁ (g.holds_alike ha hhs)) (discreet_concerns hc name) labels

/-- Where a failure may come at any time, what goes for a body goes for the call around it. -/
theorem AddsAt.call {s : Session σ} (hs : g.holds s) (hb : ∀ s₁, s.Alike s₁ → g.AddsAt s₁ body P)
    (hnil : ∀ f, P (.error f) []) (hfail : ∀ o f more, P o more → P (.error f) more)
    (hc : ∀ d ∈ c.telemetry, d.Discreet) (name : String) (supplied : List (String × Value)) :
    g.AddsAt s (c.call name supplied body) P := by
  unfold Instrument.Component.call
  cases Instrument.references (supplied.map Prod.fst) supplied with
  | error f => exact ⟨hs, [], (List.append_nil _).symm, hnil f⟩
  | ok labels =>
    refine (AddsAt.run hs hb (discreet_concerns hc name) labels).mono ?_
    rintro o more (h | ⟨-, ⟨f, rfl⟩, rfl | ⟨o', h⟩⟩)
    · exact h
    · exact hnil f
    · exact hfail o' f more h

/-- A call that refers to an integer which cannot be written fails before its body. -/
theorem Adds.call_overlong {i : Int} (h : Decimal.isOverlong i = true) (name argument : String)
    (rest : List (String × Value)) :
    g.Adds (c.call name ((argument, .int i) :: rest) body) fun o more =>
      o = .error .overlongInteger ∧ more = [] := by
  intro s hs
  unfold Instrument.Component.call
  rw [List.map_cons, Instrument.references_overlong h]
  exact ⟨hs, [], (List.append_nil _).symm, rfl, rfl⟩

/-- A call that refers to an integer adds what its body adds, if the integer can be written. -/
theorem Adds.call_int {i : Int} {R : Except Failure α → List ε → Prop}
    (hb : Decimal.isOverlong i = false → g.Adds body P) (hc : ∀ d ∈ c.telemetry, d.Discreet)
    (name argument : String) {rest : List (String × Value)}
    (hrest : ∀ e ∈ rest, e.2.isOverlong = false)
    (hover : Decimal.isOverlong i = true → R (.error .overlongInteger) [])
    (hfits : Decimal.isOverlong i = false → ∀ o more, Passed g.writable P o more → R o more) :
    g.Adds (c.call name ((argument, .int i) :: rest) body) R := by
  cases hid : Decimal.isOverlong i with
  | true =>
    refine .mono (.call_overlong hid name argument rest) ?_
    rintro o more ⟨rfl, rfl⟩
    exact hover hid
  | false =>
    refine .mono (.call (hb hid) hc name fun e he => ?_) (hfits hid)
    rcases List.mem_cons.1 he with rfl | he
    · exact hid
    · exact hrest e he

end Gauge

end Stowage
