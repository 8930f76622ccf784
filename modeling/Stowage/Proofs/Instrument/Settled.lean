import Stowage.Proofs.Instrument.Spans

/-!
Whose span a call closes.

One tracing concern observes methods that call each other. `Settled` says that every call closes the
span that it has itself recorded and no other. A run is settled exactly when no call fails to record
its span while there is an open one (`Method.settled_iff`): at its end such a call closes the span
of another call, since the concern takes the innermost one.
-/

namespace Stowage

variable {σ ω κ ι ρ ν : Type}

namespace Instrument

variable {number : Nat} {spans : List Span}

/-! ## Settled runs -/

/-- The spans of calls are settled: every call closes the span that it has recorded, if any, and no
other, telling its own outcome, and leaves open what was open before it. The calls that have begun
and not ended are given, innermost first, each with the span that it has recorded and those open
before. -/
inductive Settled : List (Invocation × Option Span × List Span) → List (SpanNote ρ) → Prop
  | nil : Settled [] []
  | opened {i recorded before calls later} : Settled ((i, recorded, before) :: calls) later →
      Settled calls (.opened i recorded before :: later)
  | closed {i recorded before outcome c calls later} : c.Tells i outcome → Settled calls later →
      Settled ((i, recorded, before) :: calls)
        (.left outcome :: .closed c ::
          ((closeRecorded recorded c).map .asked ++ .done before :: later))

/-- No call fails to record a span while there is an open one. -/
def NoneMissed (notes : List (SpanNote ρ)) : Prop :=
  ∀ i before, .opened i none before ∈ notes → before = []

/-- A call has failed to record a span while there is an open one. -/
def SpanNote.missed : SpanNote ρ → Bool
  | .opened _ none (_ :: _) => true
  | _ => false

theorem noneMissed_iff {notes : List (SpanNote ρ)} :
    NoneMissed notes ↔ notes.any SpanNote.missed = false := by
  rw [List.any_eq_false]
  constructor
  · intro h note hmem hmissed
    match note, hmissed with
    | .opened i none (span :: rest), _ => cases h i (span :: rest) hmem
  · intro h i before hmem
    cases before with
    | nil => rfl
    | cons span rest => exact absurd rfl (h _ hmem)

theorem noneMissed_append {notes later : List (SpanNote ρ)} :
    NoneMissed (notes ++ later) ↔ NoneMissed notes ∧ NoneMissed later := by
  simp only [NoneMissed, List.mem_append, or_imp, forall_and]

variable {calls : List (Invocation × Option Span × List Span)} {notes later : List (SpanNote ρ)}
  {i : Invocation} {recorded : Option Span} {c : Completion} {outcome : Except Failure ρ}

theorem settled_opened :
    Settled calls (.opened i recorded spans :: later) ↔
      Settled ((i, recorded, spans) :: calls) later := by
  refine ⟨fun h => ?_, .opened⟩
  cases h with
  | opened h => exact h

/-- A call is settled when it asks to close what it has recorded, and what comes after it is. -/
theorem settled_closed (hc : c.Tells i outcome) :
    Settled ((i, recorded, spans) :: calls) (.left outcome :: .closed c :: notes) ↔
      ∃ later, notes = (closeRecorded recorded c).map .asked ++ .done spans :: later ∧
        Settled calls later := by
  constructor
  · intro h
    generalize hall : SpanNote.left outcome :: .closed c :: notes = all at h
    cases h with
    | opened h => cases hall
    | @closed _ _ _ _ _ _ later _ h =>
      cases hall
      exact ⟨later, rfl, h⟩
  · rintro ⟨later, rfl, h⟩
    exact .closed hc h

/-- What becomes of the spans in a part of a run that starts with given spans open. They are
settled, and the same spans are open after it; or they are not, whatever comes before and after. -/
inductive Fate (number : Nat) (spans : List Span) (s : Session σ) (notes : List (SpanNote ρ)) : Prop
  | settled (none : NoneMissed notes) (kept : Open number spans s)
      (settles : ∀ calls later, Settled calls (notes ++ later) ↔ Settled calls later)
  | unsettled {after : List Span} (some : ¬ NoneMissed notes) (kept : Open number after s)
      (never : ∀ calls later, ¬ Settled calls (notes ++ later))

namespace Fate

variable {s t : Session σ}

theorem nil (h : Open number spans s) : Fate number spans s ([] : List (SpanNote ρ)) :=
  .settled (fun _ _ hmem => by cases hmem) h fun _ _ => Iff.rfl

/-- What comes after a settled part decides. -/
theorem after_settled (h : Fate number spans t later) (hnone : NoneMissed notes)
    (hsettles : ∀ calls later, Settled calls (notes ++ later) ↔ Settled calls later) :
    Fate number spans t (notes ++ later) := by
  cases h with
  | settled hnone' hkept hsettles' =>
    refine .settled (noneMissed_append.2 ⟨hnone, hnone'⟩) hkept fun calls rest => ?_
    rw [List.append_assoc, hsettles, hsettles']
  | unsettled hsome hkept hnever =>
    refine .unsettled (fun h => hsome (noneMissed_append.1 h).2) hkept fun calls rest h => ?_
    rw [List.append_assoc, hsettles] at h
    exact hnever calls rest h

/-- Nothing settles what is unsettled. -/
theorem after_unsettled {after : List Span} (h : Open number after t) (hsome : ¬ NoneMissed notes)
    (hnever : ∀ calls later, ¬ Settled calls (notes ++ later)) :
    Fate number spans t (notes ++ later) := by
  refine .unsettled (fun h => hsome (noneMissed_append.1 h).1) h fun calls rest h => ?_
  rw [List.append_assoc] at h
  exact hnever calls _ h

theorem jotted {s : Session (Noted σ ν)} (h : Fate number spans s notes) (n : ν) :
    Fate number spans (s.jotted n) notes := by
  cases h with
  | settled hnone hkept hsettles => exact .settled hnone hkept hsettles
  | unsettled hsome hkept hnever => exact .unsettled hsome hkept hnever

theorem is_open (h : Fate number spans s notes) : ∃ after, Open number after s := by
  cases h with
  | settled _ hkept _ => exact ⟨_, hkept⟩
  | unsettled _ hkept _ => exact ⟨_, hkept⟩

/-- The notes of a call whose body is settled: the call is settled as well, unless it has missed to
record a span and so closes that of another call. -/
theorem call {within : List (SpanNote ρ)} (hc : c.Tells i outcome) (hnone : NoneMissed within)
    (hsettles : ∀ calls later, Settled calls (within ++ later) ↔ Settled calls later)
    (ht : Open number (recorded.toList ++ spans).tail t) :
    Fate number spans t (.opened i recorded spans :: within ++ .left outcome :: .closed c ::
      ((closeRecorded (recorded.toList ++ spans).head? c).map .asked ++
        [.done (recorded.toList ++ spans).tail])) := by
  by_cases hown : (recorded.toList ++ spans).head? = recorded
  · have hkept : (recorded.toList ++ spans).tail = spans := by
      cases recorded with
      | none =>
        have hnil : spans = [] := List.head?_eq_none_iff.1 hown
        rw [hnil]
        rfl
      | some span => rfl
    rw [hkept] at ht
    rw [hown, hkept]
    refine .settled ?_ ht fun calls later => ?_
    · intro j before hmem
      simp only [List.cons_append, List.mem_cons, List.mem_append, List.mem_map, reduceCtorEq,
        and_false, exists_false, List.not_mem_nil, or_false] at hmem
      rcases hmem with h | h
      · cases h
        exact List.head?_eq_none_iff.1 hown
      · exact hnone j before h
    · simp only [List.cons_append, List.append_assoc, List.nil_append]
      rw [settled_opened, hsettles, settled_closed hc]
      refine ⟨fun h => ?_, fun h => ⟨later, rfl, h⟩⟩
      obtain ⟨rest, hrest, h⟩ := h
      cases List.append_cancel_left hrest
      exact h
  · cases recorded with
    | some span => exact absurd rfl hown
    | none =>
      cases spans with
      | nil => exact absurd rfl hown
      | cons span rest =>
        refine .unsettled (fun h => ?_) ht fun calls later h => ?_
        · cases h i (span :: rest) List.mem_cons_self
        · simp only [List.cons_append, List.append_assoc] at h
          rw [settled_opened, hsettles, settled_closed hc] at h
          obtain ⟨_, hrest, -⟩ := h
          cases hrest

/-- A run is settled or not according to whether no call has failed to record its span. -/
theorem settles_iff (h : Fate number spans s notes) : Settled [] notes ↔ NoneMissed notes := by
  cases h with
  | settled hnone _ hsettles =>
    have hall := (hsettles [] []).2 .nil
    rw [List.append_nil] at hall
    exact ⟨fun _ => hnone, fun _ => hall⟩
  | unsettled hsome _ hnever =>
    have hnone := hnever [] []
    rw [List.append_nil] at hnone
    exact ⟨fun h => absurd h hnone, fun h => absurd h hsome⟩

theorem open_of_settled (h : Fate number spans s notes) (hall : Settled [] notes) :
    Open number spans s := by
  cases h with
  | settled _ hkept _ => exact hkept
  | unsettled _ _ hnever => exact absurd hall (by simpa using hnever [] [])

end Fate

/-! ## Runs -/

theorem Operation.tell_append (op : Operation σ) (stage : Stage) (hook : Concern σ → Flow σ Unit)
    (first later : List (Concern σ)) :
    op.tell stage hook (first ++ later) =
      (do op.tell stage hook first; op.tell stage hook later) := by
  induction first with
  | nil => exact (pure_bind _ _).symm
  | cons c r ih => simp only [List.cons_append, Operation.tell, ih, bind_assoc]

variable {concern : ι → Concern (Scene ω κ)} {tracer : Tracer (Scene ω κ)}

/-- Other observers are told, and nothing is noted. -/
theorem takes_others (op : Operation (Noted σ ν)) (stage : Stage)
    {hook : Concern (Noted σ ν) → Flow (Noted σ ν) Unit} {other : ι → Concern (Noted σ ν)}
    {part : ι → Flow σ Unit} (hpart : ∀ k, (part k).Aloof number)
    (hhook : ∀ k, hook (other k) = (part k).zoom Noted.slot) (ks : List ι) :
    Flow.Takes (Open number spans) (op.tell stage hook (ks.map other))
      fun o t more => o = .ok () ∧ Open number spans t ∧ more = [] := by
  induction ks with
  | nil => exact .ofExcept fun s hs => ⟨rfl, hs, rfl⟩
  | cons k r ih =>
    have hfirst : Flow.Takes (Open number spans)
        ((hook (other k)).handling (op.report stage (other k).name))
        fun o t more => o = .ok () ∧ Open number spans t ∧ more = [] := by
      rw [hhook k]
      refine op.takes_attend stage _ (fun s hs => ?_) ?_
      · obtain ⟨hw, hspans, hf⟩ := hpart k (s.view Noted.slot) hs.1
        exact ⟨[], (List.append_nil _).symm, hw, hf, ⟨hw, hspans.trans hs.2⟩, rfl⟩
      · rintro s t more ha hspans - ⟨hs, hmore⟩
        exact ⟨hs.alike ha hspans, hmore⟩
    exact .bind_exact hfirst ih

/-- The observers of a call are told, the tracing concern once among them; what that notes is
noted. -/
theorem takes_sharing (op : Operation (Noted σ ν)) (stage : Stage)
    {hook : Concern (Noted σ ν) → Flow (Noted σ ν) Unit} {tracing : Concern (Noted σ ν)}
    {other : ι → Concern (Noted σ ν)} {part : ι → Flow σ Unit}
    (hpart : ∀ k, (part k).Aloof number)
    (hhook : ∀ k, hook (other k) = (part k).zoom Noted.slot)
    {N : List Span → List ν → Prop}
    (htracing : Flow.Takes (Open number spans) (hook tracing) fun o t more => Log.Writable t ∧
      (∀ f, o = .error f → f.isInterrupt = false) ∧ ∃ after, Open number after t ∧ N after more)
    (first later : List ι) :
    Flow.Takes (Open number spans)
      (op.tell stage hook ((first.map some ++ none :: later.map some).map (sharing tracing other)))
      fun o t more => o = .ok () ∧ ∃ after, Open number after t ∧ N after more := by
  have hmap : (first.map some ++ none :: later.map some).map (sharing tracing other) =
      first.map other ++ tracing :: later.map other := by
    simp only [List.map_append, List.map_cons, List.map_map]
    rfl
  rw [hmap, Operation.tell_append]
  refine .bind_exact (takes_others op stage hpart hhook first) ?_
  refine .bind_ok (op.takes_attend stage _ htracing ?_) fun more => ?_
  · rintro s t more ha hspans - ⟨after, hs, hmore⟩
    exact ⟨after, hs.alike ha hspans, hmore⟩
  · rintro s ⟨after, hs, hmore⟩
    have hlater : Flow.Takes (Open number after) (op.tell stage hook (later.map other)) _ :=
      takes_others op stage hpart hhook later
    obtain ⟨rest, hnotes, hok, ht, rfl⟩ := hlater s hs
    exact ⟨[], hnotes, hok, after, ht, by rwa [List.append_nil]⟩

/-- A call has a fate if its body has one. -/
theorem takes_traced_call (htracer : tracer.Closes number) (hc : ∀ k, (concern k).Aloof number)
    {site : Site (Option ι)} {first later : List ι}
    (hsite : site.observers = first.map some ++ none :: later.map some)
    {body : Flow (Noted (Scene ω κ) (SpanNote ρ)) ρ}
    (hbody : ∀ spans, Flow.Takes (Open number spans) body fun o t more =>
      Operation.isTold o = true ∧ Fate number spans t more) (spans : List Span) :
    Flow.Takes (Open number spans)
      (site.call (sharing (.traced number tracer) fun k => (concern k).zoom Noted.slot)
        (Flow.noting .left body))
      fun o t more => Operation.isTold o = true ∧ Fate number spans t more := by
  let observer := sharing (Concern.traced number tracer : Concern (Noted _ (SpanNote ρ)))
    fun k => (concern k).zoom Noted.slot
  have hbegun : Flow.Takes (Open number spans)
      ((site.operation observer).tell .invocation (fun c => c.onInvocation site.invocation)
        (site.observers.map observer)) fun o t more => o = .ok () ∧ ∃ after, Open number after t ∧
      ∃ recorded : Option Span, after = recorded.toList ++ spans ∧
        more = [.opened site.invocation recorded spans] := by
    rw [hsite]
    refine takes_sharing _ _ (fun k => (hc k).onInvocation _) (fun _ => rfl) ?_ first later
    refine (takes_onInvocation htracer site.invocation).mono fun o t more h => ?_
    obtain ⟨hw, hf, recorded, ht, hmore⟩ := h
    exact ⟨hw, hf, _, ht, recorded, rfl, hmore⟩
  have hended (spans : List Span) (c : Completion) : Flow.Takes (Open number spans)
      ((site.operation observer).tell .completion (fun d => d.onCompletion c)
        (site.observers.map observer)) fun o t more => o = .ok () ∧ ∃ after, Open number after t ∧
      after = spans.tail ∧ more = .closed c ::
        ((closeRecorded spans.head? c).map .asked ++ [.done spans.tail]) := by
    rw [hsite]
    refine takes_sharing _ _ (fun k => (hc k).onCompletion _) (fun _ => rfl) ?_ first later
    refine (takes_closed htracer c).mono fun o t more h => ?_
    obtain ⟨rfl, ht, hmore⟩ := h
    exact ⟨ht.1, fun f hf => (by cases hf), _, ht, rfl, hmore⟩
  refine Site.takes_call (Q := fun o t so => Operation.isTold o = true ∧
    ∃ recorded : Option Span, ∃ within, Fate number (recorded.toList ++ spans) t within ∧
      so = .opened site.invocation recorded spans :: within ++ [.left o]) hbegun (fun _ => ?_) ?_
  · rintro s ⟨after, hs, recorded, rfl, rfl⟩
    have hnoted : Flow.Takes (Open number (recorded.toList ++ spans)) (Flow.noting .left body)
        fun o t more => Operation.isTold o = true ∧
          ∃ within, Fate number (recorded.toList ++ spans) t within ∧ more = within ++ [.left o] :=
      .noting (hbody _) fun o t within h => ⟨h.1, within, h.2.jotted _, rfl⟩
    obtain ⟨more, hnotes, htold, within, hfate, rfl⟩ := hnoted s hs
    exact ⟨_, hnotes, htold, htold, recorded, within, hfate, rfl⟩
  · rintro outcome so elapsed s ⟨htold, recorded, within, hfate, rfl⟩
    let c := Operation.completion site.invocation elapsed outcome
    have htells : c.Tells site.invocation outcome := completion_tells _ elapsed outcome
    cases hfate with
    | settled hnone hkept hsettles =>
      obtain ⟨more, hnotes, hok, after, ht, rfl, rfl⟩ := hended _ c s hkept
      refine ⟨_, hnotes, hok, htold, ?_⟩
      have hfate := Fate.call htells hnone hsettles ht
      simpa using hfate
    | unsettled hsome hkept hnever =>
      obtain ⟨more, hnotes, hok, after, ht, rfl, rfl⟩ := hended _ c s hkept
      refine ⟨_, hnotes, hok, htold, ?_⟩
      refine Fate.after_unsettled ht (fun h => hsome fun i before hmem => h i before ?_) ?_
      · simp [hmem]
      · intro calls later h
        simp only [List.cons_append, List.append_assoc] at h
        exact hnever _ _ (settled_opened.1 h)

/-- A method whose calls are observed by a tracing concern, each once, that come to an end which
observers are told of, and that leaves the open spans to the tracing concern. -/
def Method.Shares (number : Nat) : Method (Option ι) ω ρ → Prop
  | .finish outcome => Operation.isTold outcome = true
  | .step act next => ∀ s, Log.Writable s → Log.Writable (act.runFrom s).2 ∧
    (act.runFrom s).2.spans number = s.spans number ∧ Shares number (next (act.runFrom s).1)
  | .call site body next =>
    (∃ first later : List ι, site.observers = first.map some ++ none :: later.map some) ∧
      Shares number body ∧ ∀ outcome, Operation.isTold outcome = true → Shares number (next outcome)

/-- Either the spans of a run are settled, or some call misses to record one while there is an open
one. -/
theorem Method.takes_traced (htracer : tracer.Closes number) (hc : ∀ k, (concern k).Aloof number)
    {m : Method (Option ι) ω ρ} (hm : m.Shares number) (spans : List Span) :
    Flow.Takes (Open number spans) (m.traced number tracer concern) fun o t more =>
      Operation.isTold o = true ∧ Fate number spans t more := by
  induction m generalizing spans with
  | finish outcome => exact .ofExcept fun s hs => ⟨hm, .nil hs⟩
  | step act next ih =>
    have hstep : Flow.Takes (Open number spans)
        ((act.zoom Scene.slot).zoom Noted.slot : Flow (Noted (Scene ω κ) (SpanNote ρ)) ρ)
        fun o t more => (next o).Shares number ∧ Open number spans t ∧ more = [] := by
      intro s hs
      obtain ⟨hw, hspans, hnext⟩ := hm ((s.view Noted.slot).view Scene.slot) hs.1
      exact ⟨[], (List.append_nil _).symm, hnext, ⟨hw, hspans.trans hs.2⟩, rfl⟩
    refine .bind_attempt hstep fun o first => ?_
    rintro s ⟨hnext, hs, rfl⟩
    exact ih _ hnext spans s hs
  | call site body next ihbody ih =>
    obtain ⟨⟨first, later, hsite⟩, hbody, hnext⟩ := hm
    refine .bind_attempt (takes_traced_call htracer hc hsite (ihbody hbody) spans) fun o first => ?_
    rintro s ⟨htold, hfate⟩
    cases hfate with
    | settled hnone hkept hsettles =>
      obtain ⟨rest, hnotes, hend, hfate⟩ := ih o (hnext o htold) spans s hkept
      exact ⟨rest, hnotes, hend, hfate.after_settled hnone hsettles⟩
    | unsettled hsome hkept hnever =>
      obtain ⟨rest, hnotes, hend, hfate⟩ := ih o (hnext o htold) _ s hkept
      obtain ⟨after, ht⟩ := hfate.is_open
      exact ⟨rest, hnotes, hend, .after_unsettled ht hsome hnever⟩

/-- **When calls close their own spans.** One tracing concern observes all calls of a method. The
calls close the spans that they have themselves recorded and no others, each telling its own outcome
and leaving open what was open before it, exactly if no call fails to record its span while there is
an open one. -/
theorem Method.settled_iff (htracer : tracer.Closes number) (hc : ∀ k, (concern k).Aloof number)
    {m : Method (Option ι) ω ρ} (hm : m.Shares number) {s : Session (Scene ω κ)}
    (hs : Log.Writable s) :
    let observed := (m.observed (sharing (.tracing number tracer) concern)).runFrom s
    ∃ notes, (m.traced number tracer concern).runFrom (s.withWorld ⟨s.world, []⟩) =
        (observed.1, observed.2.withWorld ⟨observed.2.world, notes⟩) ∧
      (Settled [] notes ↔ ∀ i before, .opened i none before ∈ notes → before = []) ∧
      (Settled [] notes → observed.2.spans number = s.spans number) := by
  intro observed
  have htakes := m.takes_traced htracer hc hm (s.spans number)
  obtain ⟨notes, hrun, -, hfate⟩ :=
    htakes.exists_notes (m.mirrors_traced number tracer concern) ⟨hs, rfl⟩
  exact ⟨notes, hrun, hfate.settles_iff, fun h => (hfate.open_of_settled h).2⟩

theorem Method.not_settled (htracer : tracer.Closes number) (hc : ∀ k, (concern k).Aloof number)
    {m : Method (Option ι) ω ρ} (hm : m.Shares number) {s : Session (Scene ω κ)}
    (hs : Log.Writable s)
    (hmissed : ((m.traced number tracer concern).runFrom
      (s.withWorld ⟨s.world, []⟩)).2.world.notes.any SpanNote.missed = true) :
    ¬ Settled [] ((m.traced number tracer concern).runFrom
      (s.withWorld ⟨s.world, []⟩)).2.world.notes := by
  have htakes := m.takes_traced htracer hc hm (s.spans number)
  obtain ⟨notes, hrun, -, hfate⟩ :=
    htakes.exists_notes (m.mirrors_traced number tracer concern) ⟨hs, rfl⟩
  rw [hrun] at hmissed ⊢
  intro hsettled
  have hnone : notes.any SpanNote.missed = false :=
    noneMissed_iff.1 (hfate.settles_iff.1 hsettled)
  exact Bool.noConfusion (hnone.symm.trans hmissed)

/-- The tracer that drops what it is given and refuses spans of a name. -/
def Tracer.refusing (name : String) : Tracer σ where
  start given := if given = name then throw (.badValue "refused") else openSpan given
  annotate _ _ _ := pure ()
  markFailed _ _ := pure ()
  finish _ := pure ()

theorem Tracer.closes_refusing (number : Nat) (name : String) :
    (Tracer.refusing name : Tracer σ).Closes number where
  start given s hs := by
    unfold Tracer.refusing
    dsimp only
    split
    · exact ⟨hs, rfl, fun f h => by cases h; rfl⟩
    · exact ⟨hs, rfl, fun f h => by cases h⟩
  annotate _ _ _ := .pure ()
  markFailed _ _ := .pure ()
  finish _ := .pure ()
  annotate_ok _ _ _ _ _ := rfl
  markFailed_ok _ _ _ := rfl
  finish_ok _ _ := rfl

/-- A call that fails to record its span while none is open closes none, and the next call closes
its own. -/
theorem Method.settled_iff_apart :
    let tracer : Tracer (Scene Unit Unit) := .refusing "public_api.c.b"
    let concern : Empty → Concern (Scene Unit Unit) := nofun
    let m : Method (Option Empty) Unit String :=
      .call ⟨"c", "b", [none], none, {}⟩ (.finish (.error (.badValue "no"))) fun _ =>
        .call ⟨"c", "a", [none], none, {}⟩ (.finish (.ok "kept")) .finish
    let s : Session (Scene Unit Unit) := { world := ⟨(), ()⟩ }
    tracer.Closes 0 ∧ (∀ k, (concern k).Aloof 0) ∧ m.Shares 0 ∧ Log.Writable s ∧
      Settled [] ((m.traced 0 tracer concern).runFrom
        (s.withWorld ⟨s.world, []⟩)).2.world.notes := by
  intro tracer concern m s
  have htracer : tracer.Closes 0 := Tracer.closes_refusing 0 _
  have hc : ∀ k, (concern k).Aloof 0 := nofun
  have hm : m.Shares 0 := ⟨⟨[], [], rfl⟩, rfl, fun _ _ => ⟨⟨[], [], rfl⟩, rfl, fun _ h => h⟩⟩
  have hs : Log.Writable s := .inl fun h hh => by cases hh
  have hnone : ((m.traced 0 tracer concern).runFrom
      (s.withWorld ⟨s.world, []⟩)).2.world.notes.any SpanNote.missed = false := by
    decide +kernel
  obtain ⟨notes, hrun, hiff, -⟩ := m.settled_iff htracer hc hm hs
  rw [hrun] at hnone ⊢
  exact ⟨htracer, hc, hm, hs, hiff.2 (noneMissed_iff.2 hnone)⟩

/-- A call within another one fails to record its span, and closes that of the other one. -/
theorem not_settled_within :
    let tracer : Tracer (Scene Unit Unit) := .refusing "public_api.c.b"
    let concern : Empty → Concern (Scene Unit Unit) := nofun
    let m : Method (Option Empty) Unit String :=
      .call ⟨"c", "a", [none], none, {}⟩
        (.call ⟨"c", "b", [none], none, {}⟩ (.finish (.error (.badValue "no"))) fun _ =>
          .finish (.ok "kept"))
        .finish
    let s : Session (Scene Unit Unit) := { world := ⟨(), ()⟩ }
    tracer.Closes 0 ∧ (∀ k, (concern k).Aloof 0) ∧ m.Shares 0 ∧ Log.Writable s ∧
      ¬ Settled [] ((m.traced 0 tracer concern).runFrom
        (s.withWorld ⟨s.world, []⟩)).2.world.notes := by
  intro tracer concern m s
  have htracer : tracer.Closes 0 := Tracer.closes_refusing 0 _
  have hc : ∀ k, (concern k).Aloof 0 := nofun
  have hm : m.Shares 0 :=
    ⟨⟨[], [], rfl⟩, ⟨⟨[], [], rfl⟩, rfl, fun _ _ => rfl⟩, fun _ h => h⟩
  have hs : Log.Writable s := .inl fun h hh => by cases hh
  have hmissed : ((m.traced 0 tracer concern).runFrom
      (s.withWorld ⟨s.world, []⟩)).2.world.notes.any SpanNote.missed = true := by
    decide +kernel
  exact ⟨htracer, hc, hm, hs, m.not_settled htracer hc hm hs hmissed⟩

end Instrument

end Stowage
