import Stowage.Proofs.Instrument.Method
import Stowage.Proofs.Instrument.Faithful

/-!
Spans of calls, and notes of them.

A tracing concern keeps the spans that it has open on a stack: a call that records a span puts it
there (`takes_onInvocation`), and the end of a call closes the innermost one, whichever call has
recorded it (`takes_closed`). Notes are taken of what is recorded and of what the tracer is asked
for; the tracer may refuse to start a span or to take attributes of one that is being opened.
-/

namespace Stowage

variable {σ ω κ ι ρ ν α β : Type}

/-! ## Flows that leave the open spans alone -/

/-- A flow that leaves alone the spans that a tracing concern has open. Log records can be written
after it, and it is not interrupted. -/
def Flow.Aloof (number : Nat) (body : Flow σ α) : Prop :=
  ∀ s, Log.Writable s → Log.Writable (body.runFrom s).2 ∧
    (body.runFrom s).2.spans number = s.spans number ∧
    ∀ f, (body.runFrom s).1 = .error f → f.isInterrupt = false

namespace Flow.Aloof

variable {number : Nat}

theorem pure (a : α) : (Pure.pure a : Flow σ α).Aloof number :=
  fun _ hs => ⟨hs, rfl, fun f h => by cases h⟩

theorem bind {body : Flow σ α} {next : α → Flow σ β} (hb : body.Aloof number)
    (hn : ∀ a, (next a).Aloof number) : (body >>= next).Aloof number := by
  intro s hs
  rw [Flow.runFrom_bind]
  obtain ⟨hw, hspans, hf⟩ := hb s hs
  generalize body.runFrom s = r at hw hspans hf ⊢
  rcases r with ⟨f | a, t⟩
  · exact ⟨hw, hspans, fun g hg => hf g (by cases hg; rfl)⟩
  · obtain ⟨hw', hspans', hf'⟩ := hn a t hw
    exact ⟨hw', hspans'.trans hspans, hf'⟩

end Flow.Aloof

namespace Instrument

/-- A concern that leaves alone the open spans of a tracing concern. -/
structure Concern.Aloof (number : Nat) (c : Concern σ) : Prop where
  onInvocation : ∀ i, (c.onInvocation i).Aloof number
  onCompletion : ∀ e, (c.onCompletion e).Aloof number

/-- The attributes that a span is given when it is closed. -/
def closing (c : Completion) : List (String × Value) := [
  ("success", .bool c.success), ("duration_ms", .float c.durationMs), ("outcome", .text c.outcome)]

/-- A tracer that can refuse to start a span and to take attributes of a span that is being opened,
but not what it takes to close one. -/
structure Tracer.Closes (number : Nat) (tracer : Tracer σ) : Prop where
  start : ∀ name, (tracer.start name).Aloof number
  annotate : ∀ span key value, (tracer.annotate span key value).Aloof number
  markFailed : ∀ span reason, (tracer.markFailed span reason).Aloof number
  finish : ∀ span, (tracer.finish span).Aloof number
  annotate_ok : ∀ c, ∀ e ∈ closing c, ∀ span s,
    ((tracer.annotate span e.1 e.2).runFrom s).1 = .ok ()
  markFailed_ok : ∀ span reason s, ((tracer.markFailed span reason).runFrom s).1 = .ok ()
  finish_ok : ∀ span s, ((tracer.finish span).runFrom s).1 = .ok ()

/-! ## Notes of spans -/

/-- What a tracer is asked to do with a span. -/
inductive Ask where
  | annotate (span : Span) (key : String) (value : Value)
  | markFailed (span : Span) (reason : String)
  | finish (span : Span)

/-- What a tracer is asked to close a span at the end of a call. -/
def Span.close (span : Span) (c : Completion) : List Ask :=
  (closing c).map (fun (key, value) => .annotate span key value) ++
    (if c.success then [] else [.markFailed span (Text.join "; " (c.errors.take 3))]) ++
    [.finish span]

/-- What a call asks for that has recorded a span, or none. -/
def closeRecorded (span? : Option Span) (c : Completion) : List Ask :=
  match span? with
  | none => []
  | some span => span.close c

/-- What there is to note about the spans of a call. Its beginning is told: the span that the
tracing concern records, if any, and those open before. The body ends. The end is told: the tracer
is asked for things, and when that is done some spans are open. -/
inductive SpanNote (ρ : Type) where
  | opened (invocation : Invocation) (recorded : Option Span) (before : List Span)
  | left (outcome : Except Failure ρ)
  | closed (completion : Completion)
  | asked (ask : Ask)
  | done (after : List Span)

/-- The spans that a tracing concern has open. -/
def openSpans (number : Nat) : Flow σ (List Span) := Flow.ofStep fun s => (.ok (s.spans number), s)

/-- The span that has been recorded when others are open than before. -/
def recordedSince (before after : List Span) : Option Span :=
  if before.length < after.length then after.head? else none

/-- A tracer of which notes are taken. -/
def Tracer.noted (tracer : Tracer σ) : Tracer (Noted σ (SpanNote ρ)) where
  start name := (tracer.start name).zoom Noted.slot
  annotate span key value := do
    Flow.note (.asked (.annotate span key value))
    (tracer.annotate span key value).zoom Noted.slot
  markFailed span reason := do
    Flow.note (.asked (.markFailed span reason))
    (tracer.markFailed span reason).zoom Noted.slot
  finish span := do
    Flow.note (.asked (.finish span))
    (tracer.finish span).zoom Noted.slot

/-- The tracing concern with notes taken of what it does. -/
def Concern.traced (number : Nat) (tracer : Tracer σ) : Concern (Noted σ (SpanNote ρ)) where
  name := (Concern.tracing number tracer).name
  onInvocation i := do
    let before ← openSpans number
    let outcome ← (((Concern.tracing number tracer).onInvocation i).zoom Noted.slot).attempt
    let after ← openSpans number
    Flow.note (.opened i (recordedSince before after) before)
    Flow.ofExcept outcome
  onCompletion c := do
    Flow.note (.closed c)
    (Concern.tracing number tracer.noted).onCompletion c
    Flow.note (.done (← openSpans number))

/-- Observers with a tracing concern, which is none of the others. -/
def sharing (tracing : Concern σ) (concern : ι → Concern σ) : Option ι → Concern σ
  | none => tracing
  | some k => concern k

/-- A method all of whose calls are observed, with notes of the spans of a tracing concern. -/
def Method.traced (number : Nat) (tracer : Tracer (Scene ω κ)) (concern : ι → Concern (Scene ω κ)) :
    Method (Option ι) ω ρ → Flow (Noted (Scene ω κ) (SpanNote ρ)) ρ :=
  run (fun act => (act.zoom Scene.slot).zoom Noted.slot) fun site body =>
    site.call (sharing (.traced number tracer) fun k => (concern k).zoom Noted.slot)
      (Flow.noting .left body)

variable {number : Nat} {tracer : Tracer σ}

theorem mirrors_annotateAll (span : Span) (attributes : List (String × Value)) :
    Flow.Mirrors Noted.slot
      (annotateAll (tracer.noted : Tracer (Noted σ (SpanNote ρ))) span attributes)
      (annotateAll tracer span attributes) := by
  induction attributes with
  | nil => exact .pure ()
  | cons e r ih => exact .bind (.note (.zoom (fun _ _ => rfl) _) _) fun _ => ih

theorem mirrors_onCompletion (c : Completion) :
    Flow.Mirrors Noted.slot
      ((Concern.tracing number (tracer.noted : Tracer (Noted σ (SpanNote ρ)))).onCompletion c)
      ((Concern.tracing number tracer).onCompletion c) := by
  have hpop : Flow.Mirrors Noted.slot (popSpan? number : Flow (Noted σ (SpanNote ρ)) _)
      (popSpan? number) := fun _ => rfl
  refine .bind hpop fun span? => ?_
  cases span? with
  | none => exact .pure ()
  | some span =>
    refine .bind (mirrors_annotateAll span _) fun _ => ?_
    have hfinish : Flow.Mirrors Noted.slot
        ((tracer.noted : Tracer (Noted σ (SpanNote ρ))).finish span) (tracer.finish span) :=
      .note (.zoom (fun _ _ => rfl) _) _
    cases c.success
    · exact .bind (.note (.zoom (fun _ _ => rfl) _) _) fun _ => hfinish
    · exact hfinish

theorem Concern.mirrors_traced (number : Nat) (tracer : Tracer σ) :
    Concern.Mirrors Noted.slot (Concern.traced number tracer : Concern (Noted σ (SpanNote ρ)))
      (.tracing number tracer) where
  name := rfl
  onInvocation i := fun s => rfl
  onCompletion c := by
    refine .note (fun s => ?_) _
    rw [mirrors_onCompletion c s, Flow.runFrom_bind]
    generalize ((Concern.tracing number tracer.noted).onCompletion c).runFrom s = r
    rcases r with ⟨f | ⟨⟩, t⟩ <;> rfl

/-- Nobody sees that notes of spans are taken. -/
theorem Method.mirrors_traced (number : Nat) (tracer : Tracer (Scene ω κ))
    (concern : ι → Concern (Scene ω κ)) (m : Method (Option ι) ω ρ) :
    Flow.Mirrors Noted.slot (m.traced number tracer concern)
      (m.observed (sharing (.tracing number tracer) concern)) := by
  refine m.mirrors_run (fun act => .zoom (fun _ _ => rfl) _) fun site body body' hbody => ?_
  refine site.mirrors_call (fun k => ?_) (hbody.noting .left)
  cases k with
  | none => exact Concern.mirrors_traced number tracer
  | some k => exact Concern.mirrors_zoom (fun _ _ => rfl) (concern k)

/-! ## What is noted of spans -/

/-- Log records can be written, and a tracing concern has these spans open. -/
def Open (number : Nat) (spans : List Span) (s : Session σ) : Prop :=
  Log.Writable s ∧ s.spans number = spans

variable {spans : List Span}

theorem Open.alike {s t : Session σ} (h : Open number spans s) (ha : s.Alike t)
    (hspans : t.spans = s.spans) : Open number spans t :=
  ⟨h.1.alike ha, by rw [hspans, h.2]⟩

/-- A request to a tracer that succeeds. -/
theorem takes_ask {ask : Ask} {act : Flow σ Unit} (h : act.Aloof number)
    (hok : ∀ s, (act.runFrom s).1 = .ok ()) :
    Flow.Takes (Open number spans)
      (do Flow.note (.asked ask : SpanNote ρ); act.zoom Noted.slot)
      fun o t more => o = .ok () ∧ Open number spans t ∧ more = [.asked ask] := by
  refine .note_bind (fun s hs => hs) fun s hs => ?_
  obtain ⟨hw, hspans, -⟩ := h (s.view Noted.slot) hs.1
  exact ⟨[], (List.append_nil _).symm, hok _, ⟨hw, hspans.trans hs.2⟩, rfl⟩

theorem takes_annotateAll (h : tracer.Closes number) (span : Span)
    {attributes : List (String × Value)}
    (hok : ∀ e ∈ attributes, ∀ s, ((tracer.annotate span e.1 e.2).runFrom s).1 = .ok ()) :
    Flow.Takes (Open number spans)
      (annotateAll (tracer.noted : Tracer (Noted σ (SpanNote ρ))) span attributes)
      fun o t more => o = .ok () ∧ Open number spans t ∧
        more = attributes.map fun (key, value) => .asked (.annotate span key value) := by
  induction attributes with
  | nil => exact .ofExcept fun s hs => ⟨rfl, hs, rfl⟩
  | cons e r ih =>
    obtain ⟨key, value⟩ := e
    have hfirst := hok (key, value) List.mem_cons_self
    have hrest := ih fun e he => hok e (List.mem_cons_of_mem _ he)
    refine .bind_exact (takes_ask (h.annotate span key value) hfirst)
      (hrest.mono fun o t more hmore => ?_)
    exact ⟨hmore.1, hmore.2.1, congrArg (_ :: ·) hmore.2.2⟩

/-- The end of a call closes the innermost span, if one is open. -/
theorem takes_onCompletion (h : tracer.Closes number) (c : Completion) :
    Flow.Takes (Open number spans)
      ((Concern.tracing number (tracer.noted : Tracer (Noted σ (SpanNote ρ)))).onCompletion c)
      fun o t more => o = .ok () ∧ Open number spans.tail t ∧
        more = (closeRecorded spans.head? c).map .asked := by
  have hpop : Flow.Takes (Open number spans)
      (popSpan? number : Flow (Noted σ (SpanNote ρ)) (Option Span)) fun o t more =>
      o = .ok spans.head? ∧ Open number spans.tail t ∧ more = [] := by
    rintro s ⟨hw, rfl⟩
    exact ⟨[], (List.append_nil _).symm, rfl, ⟨hw, if_pos rfl⟩, rfl⟩
  refine .bind_exact hpop ?_
  cases spans.head? with
  | none => exact .ofExcept fun s hs => ⟨rfl, hs, rfl⟩
  | some span =>
    have hfinish : Flow.Takes (Open number spans.tail)
        ((tracer.noted : Tracer (Noted σ (SpanNote ρ))).finish span) fun o t more =>
        o = .ok () ∧ Open number spans.tail t ∧ more = [.asked (.finish span)] :=
      takes_ask (h.finish span) (h.finish_ok span)
    refine .bind_exact (takes_annotateAll h span fun e he => h.annotate_ok c e he span) ?_
    cases hsuccess : c.success
    · refine .bind_exact (takes_ask (h.markFailed span _) (h.markFailed_ok span _))
        (hfinish.mono fun o t more hmore => ?_)
      obtain ⟨hok, ht, rfl⟩ := hmore
      exact ⟨hok, ht, by simp [closeRecorded, Span.close, closing, hsuccess]⟩
    · refine hfinish.mono fun o t more hmore => ?_
      obtain ⟨hok, ht, rfl⟩ := hmore
      exact ⟨hok, ht, by simp [closeRecorded, Span.close, closing, hsuccess]⟩

theorem aloof_annotateAll (h : tracer.Closes number) (span : Span)
    (attributes : List (String × Value)) : (annotateAll tracer span attributes).Aloof number := by
  induction attributes with
  | nil => exact .pure ()
  | cons e r ih => exact .bind (h.annotate span e.1 e.2) fun _ => ih

/-- A call either records a span at its beginning, or fails to and leaves the open spans alone. -/
theorem runFrom_onInvocation (h : tracer.Closes number) (i : Invocation) {s : Session σ}
    (hs : Open number spans s) :
    ∃ recorded : Option Span, Open number (recorded.toList ++ spans)
        (((Concern.tracing number tracer).onInvocation i).runFrom s).2 ∧
      ∀ f, (((Concern.tracing number tracer).onInvocation i).runFrom s).1 = .error f →
        f.isInterrupt = false := by
  have hhook : (Concern.tracing number tracer).onInvocation i = (tracer.start _ >>= fun span =>
      annotateAll tracer span _ >>= fun _ => pushSpan number span) := rfl
  rw [hhook, Flow.runFrom_bind]
  obtain ⟨hw, hstart, hf⟩ := h.start _ s hs.1
  generalize (tracer.start _).runFrom s = r at hw hstart hf ⊢
  rcases r with ⟨f | span, t⟩
  · exact ⟨none, ⟨hw, hstart.trans hs.2⟩, fun g hg => hf g (by cases hg; rfl)⟩
  · simp only
    rw [Flow.runFrom_bind]
    obtain ⟨hw', hset, hf'⟩ := aloof_annotateAll h span _ t hw
    generalize (annotateAll tracer span _).runFrom t = r at hw' hset hf' ⊢
    rcases r with ⟨f | ⟨⟩, u⟩
    · exact ⟨none, ⟨hw', hset.trans (hstart.trans hs.2)⟩, fun g hg => hf' g (by cases hg; rfl)⟩
    · refine ⟨some span, ⟨hw', ?_⟩, fun g hg => by cases hg⟩
      have hopen : u.spans number = spans := hset.trans (hstart.trans hs.2)
      change (if number = number then span :: u.spans number else u.spans number) = span :: spans
      rw [if_pos rfl, hopen]

theorem recordedSince_append (recorded : Option Span) (spans : List Span) :
    recordedSince spans (recorded.toList ++ spans) = recorded := by
  cases recorded <;> simp [recordedSince]

/-- What is noted at the beginning of a call: the span that it records, if any. -/
theorem takes_onInvocation (h : tracer.Closes number) (i : Invocation) :
    Flow.Takes (Open number spans)
      ((Concern.traced number tracer : Concern (Noted σ (SpanNote ρ))).onInvocation i)
      fun o t more => Log.Writable t ∧ (∀ f, o = .error f → f.isInterrupt = false) ∧
        ∃ recorded : Option Span, Open number (recorded.toList ++ spans) t ∧
          more = [.opened i recorded spans] := by
  intro s hs
  obtain ⟨recorded, ht, hf⟩ := runFrom_onInvocation h i (s := s.view Noted.slot) hs
  refine ⟨[.opened i recorded spans], ?_, ht.1, hf, recorded, ht, rfl⟩
  have hrecorded : recordedSince (s.spans number)
      ((((Concern.tracing number tracer).onInvocation i).runFrom (s.view Noted.slot)).2.spans
        number) = recorded := by
    rw [ht.2, hs.2, recordedSince_append]
  rw [← hrecorded, ← hs.2]
  rfl

theorem takes_closed (h : tracer.Closes number) (c : Completion) :
    Flow.Takes (Open number spans)
      ((Concern.traced number tracer : Concern (Noted σ (SpanNote ρ))).onCompletion c)
      fun o t more => o = .ok () ∧ Open number spans.tail t ∧
        more = .closed c :: ((closeRecorded spans.head? c).map .asked ++ [.done spans.tail]) := by
  refine .note_bind (fun s hs => hs) (.bind_exact (takes_onCompletion h c) ?_)
  intro s hs
  refine ⟨[.done spans.tail], ?_, rfl, hs, rfl⟩
  rw [← hs.2]
  rfl

end Instrument

end Stowage
