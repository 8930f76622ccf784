import Stowage.Instrument.Rehearsal
import Stowage.Proofs.Instrument.Method

/-!
Observed methods are faithful to bare ones.

Observers may fail whenever they are told of anything, as long as they keep to themselves
(`Concern.Contained`). Then an observed method does what it does by itself: every body runs once,
and every caller is given the outcome of that (`Method.observed_faithful`). Each observer of a call
is told once of its beginning, before the body, and once of its end, after it; what any of them is
told in a whole run is balanced, as parentheses are.
-/

namespace Stowage

variable {ω κ ι ρ ν α : Type}

/-! ## Sessions as methods see them -/

/-- Sessions that methods do not tell apart, in both of which log records can be written. -/
structure Session.Resembles (s t : Session ω) : Prop where
  world : t.world = s.world
  context : t.context = s.context
  writable : Log.Writable s
  also_writable : Log.Writable t

/-- What methods see of a session in which notes are taken. -/
def Session.seen (s : Session (Noted (Instrument.Scene ω κ) ν)) : Session ω :=
  (s.view Noted.slot).view Instrument.Scene.slot

namespace Session.Resembles

theorem trans {s t u : Session ω} (h₁ : s.Resembles t) (h₂ : t.Resembles u) : s.Resembles u :=
  ⟨h₂.world.trans h₁.world, h₂.context.trans h₁.context, h₁.writable, h₂.also_writable⟩

end Session.Resembles

namespace Flow

/-- A step of a method: it goes by what methods see of a session, and log records can be written
after it. -/
def Steady (act : Flow ω ρ) : Prop :=
  ∀ s t, s.Resembles t →
    (act.runFrom t).1 = (act.runFrom s).1 ∧ (act.runFrom s).2.Resembles (act.runFrom t).2

/-- What an observer does: methods see nothing of it, and it is not interrupted. It may fail. -/
def Contained (body : Flow (Instrument.Scene ω κ) α) : Prop :=
  ∀ s, Log.Writable s →
    (s.view Instrument.Scene.slot).Resembles ((body.runFrom s).2.view Instrument.Scene.slot) ∧
      ∀ f, (body.runFrom s).1 = .error f → f.isInterrupt = false

/-- Discreet flows are contained. -/
theorem Discreet.contained {body : Flow (Instrument.Scene ω κ) α} (h : body.Discreet) :
    body.Contained := by
  intro s hs
  obtain ⟨ha, hf⟩ := h s
  have hafter : Log.Writable (body.runFrom s).2 := hs.alike ha
  exact ⟨⟨congrArg Instrument.Scene.stage ha.world, ha.context, hs, hafter⟩, hf⟩

end Flow

namespace Instrument

/-- A concern that keeps to itself. -/
structure Concern.Contained (c : Concern (Scene ω κ)) : Prop where
  onInvocation : ∀ i, (c.onInvocation i).Contained
  onCompletion : ∀ e, (c.onCompletion e).Contained

theorem Concern.Discreet.contained {c : Concern (Scene ω κ)} (h : c.Discreet) : c.Contained where
  onInvocation i := (h.onInvocation i).contained
  onCompletion e := (h.onCompletion e).contained

/-- A method whose steps are steady and whose calls are not interrupted. -/
def Method.Orderly : Method ι ω ρ → Prop
  | .finish outcome => Operation.isTold outcome = true
  | .step act next => act.Steady ∧ ∀ s, Log.Writable s → Orderly (next (act.runFrom s).1)
  | .call _ body next =>
    Orderly body ∧ ∀ outcome, Operation.isTold outcome = true → Orderly (next outcome)

/-! ## What is noted of calls -/

/-- A call that is made, with the calls that its body makes. -/
inductive Call (ι ρ : Type) where
  | made (site : Site ι) (inner : List (Call ι ρ)) (outcome : Except Failure ρ)

/-- The calls that a method makes by itself. -/
def Method.calls : Method ι ω ρ → Session ω → List (Call ι ρ)
  | .finish _, _ => []
  | .step act next, s => calls (next (act.runFrom s).1) (act.runFrom s).2
  | .call site body next, s =>
    .made site (calls body s) (body.bare.runFrom s).1 ::
      calls (next (body.bare.runFrom s).1) (body.bare.runFrom s).2

/-- The end of a call is told as it is. -/
structure Completion.Tells (c : Completion) (i : Invocation) (outcome : Except Failure ρ) :
    Prop where
  invocation : c.invocation = i
  success : c.success = true ↔ ∃ a, outcome = .ok a
  ok : ∀ a, outcome = .ok a → c.errors = [] ∧ c.categories = []
  error : ∀ f, outcome = .error f → c.errors = [f.kind ++ ": " ++ f.words] ∧
    c.categories = [Vocabulary.value f.detail.category]

/-- Notes of calls, one after the other. -/
inductive Recorded : List (Call ι ρ) → List (Note ι ρ) → Prop
  | nil : Recorded [] []
  | call {site inner outcome rest within later c} : c.Tells site.invocation outcome →
      Recorded inner within → Recorded rest later →
      Recorded (.made site inner outcome :: rest)
        (site.observers.map (.began · site.invocation) ++ .entered site.invocation :: within ++
          .left outcome :: site.observers.map (.ended · c) ++ .returned outcome :: later)

theorem completion_tells (i : Invocation) (elapsed : Double) (outcome : Except Failure ρ) :
    (Operation.completion i elapsed outcome).Tells i outcome := by
  cases outcome with
  | ok a =>
    refine ⟨rfl, by simp [Operation.completion], fun _ _ => ⟨rfl, rfl⟩, fun f hf => ?_⟩
    cases hf
  | error f =>
    refine ⟨rfl, by simp [Operation.completion], fun a ha => ?_, fun g hg => ?_⟩
    · cases ha
    · cases hg
      exact ⟨rfl, rfl⟩

/-! ## Runs -/

theorem seen_of_alike {s t : Session (Noted (Scene ω κ) ν)} (h : s.Alike t) (hs : Log.Writable s) :
    s.seen.Resembles t.seen := by
  have ht : Log.Writable t := hs.alike h
  exact ⟨congrArg (fun w => w.inner.stage) h.world, h.context, hs, ht⟩

variable {b : Session ω}

/-- An observer is told, and that is noted. -/
theorem takes_attend (op : Operation (Noted (Scene ω κ) ν)) (stage : Stage) (name : String)
    {hook : Flow (Scene ω κ) Unit} (h : hook.Contained) (n : ν) :
    Flow.Takes (fun s => b.Resembles s.seen)
      (Flow.handling (do Flow.note n; hook.zoom Noted.slot) (op.report stage name))
      fun o t more => o = .ok () ∧ b.Resembles t.seen ∧ more = [n] := by
  refine op.takes_attend stage name (.note_bind (fun s hs => hs) fun s hs => ?_) ?_
  · obtain ⟨hsame, hf⟩ := h (s.view Noted.slot) hs.also_writable
    exact ⟨[], (List.append_nil _).symm, hsame.also_writable, hf, hs.trans hsame, rfl⟩
  · rintro s t more ha - hs ⟨hsame, hmore⟩
    exact ⟨hsame.trans (seen_of_alike ha hs), hmore⟩

/-- Observers are told one after the other, whatever becomes of the others. -/
theorem takes_tell (op : Operation (Noted (Scene ω κ) ν)) (stage : Stage)
    {hook : Concern (Noted (Scene ω κ) ν) → Flow (Noted (Scene ω κ) ν) Unit}
    {observer : ι → Concern (Noted (Scene ω κ) ν)} {told : ι → ν}
    {part : ι → Flow (Scene ω κ) Unit} (hpart : ∀ k, (part k).Contained)
    (hhook : ∀ k, hook (observer k) = do Flow.note (told k); (part k).zoom Noted.slot)
    (ks : List ι) :
    Flow.Takes (fun s => b.Resembles s.seen) (op.tell stage hook (ks.map observer))
      fun o t more => o = .ok () ∧ b.Resembles t.seen ∧ more = ks.map told := by
  induction ks with
  | nil => exact .ofExcept fun s hs => ⟨rfl, hs, rfl⟩
  | cons k r ih =>
    have hfirst := takes_attend (b := b) op stage (observer k).name (hpart k) (told k)
    rw [← hhook k] at hfirst
    refine .bind_exact hfirst (ih.mono fun o t rest h => ?_)
    exact ⟨h.1, h.2.1, congrArg (told k :: ·) h.2.2⟩

variable {concern : ι → Concern (Scene ω κ)} {site : Site ι}

/-- The notes of a call but for the last one. -/
def Site.Account (site : Site ι) (calls : List (Call ι ρ)) (outcome : Except Failure ρ)
    (notes : List (Note ι ρ)) : Prop :=
  ∃ within c, Completion.Tells c site.invocation outcome ∧ Recorded calls within ∧
    notes = site.observers.map (.began · site.invocation) ++ .entered site.invocation :: within ++
      .left outcome :: site.observers.map (.ended · c)

/-- A call runs its body once, in a session that looks to it as before, and passes its outcome on;
everyone is told once of the beginning and once of the end. -/
theorem takes_call (hc : ∀ k, (concern k).Contained)
    {body : Flow (Noted (Scene ω κ) (Note ι ρ)) ρ} {calls : List (Call ι ρ)}
    {outcome : Except Failure ρ} {b' : Session ω}
    (hbody : Flow.Takes (fun s => b.Resembles s.seen) body fun o t more =>
      Operation.isTold o = true ∧ o = outcome ∧ b'.Resembles t.seen ∧ Recorded calls more) :
    Flow.Takes (fun s => b.Resembles s.seen) (site.noted concern body) fun o t more =>
      Operation.isTold o = true ∧ o = outcome ∧ b'.Resembles t.seen ∧
        ∃ account, site.Account calls outcome account ∧ more = account ++ [.returned outcome] := by
  let observer (k : ι) : Concern (Noted (Scene ω κ) (Note ι ρ)) :=
    (concern k).noted (.began k) (.ended k)
  have hbegun (b : Session ω) : Flow.Takes (fun s => b.Resembles s.seen)
      ((site.operation observer).tell .invocation (fun c => c.onInvocation site.invocation)
        (site.observers.map observer)) fun o t more =>
      o = .ok () ∧ b.Resembles t.seen ∧ more = site.observers.map (.began · site.invocation) :=
    takes_tell _ _ (fun k => (hc k).onInvocation site.invocation) (fun _ => rfl) _
  have hended (b : Session ω) (c : Completion) : Flow.Takes (fun s => b.Resembles s.seen)
      ((site.operation observer).tell .completion (fun d => d.onCompletion c)
        (site.observers.map observer)) fun o t more =>
      o = .ok () ∧ b.Resembles t.seen ∧ more = site.observers.map (.ended · c) :=
    takes_tell _ _ (fun k => (hc k).onCompletion c) (fun _ => rfl) _
  have hinner : Flow.Takes (fun s => b.Resembles s.seen)
      (do Flow.note (.entered site.invocation); Flow.noting .left body) fun o t more =>
      Operation.isTold o = true ∧ o = outcome ∧ b'.Resembles t.seen ∧ ∃ within,
        Recorded calls within ∧ more = .entered site.invocation :: within ++ [.left outcome] := by
    refine .note_bind (fun s hs => hs) (.noting hbody ?_)
    rintro o t within ⟨htold, rfl, ht, hwithin⟩
    exact ⟨htold, rfl, ht, within, hwithin, rfl⟩
  have hcall : Flow.Takes (fun s => b.Resembles s.seen)
      (site.call observer do Flow.note (.entered site.invocation); Flow.noting .left body)
      fun o t more => Operation.isTold o = true ∧ o = outcome ∧ b'.Resembles t.seen ∧
        site.Account calls outcome more := by
    refine Site.takes_call (Q := fun o t so => Operation.isTold o = true ∧ o = outcome ∧
      b'.Resembles t.seen ∧ ∃ within, Recorded calls within ∧
        so = site.observers.map (.began · site.invocation) ++
          (.entered site.invocation :: within ++ [.left outcome]))
      (hbegun b) (fun first => ?_) fun o so elapsed => ?_
    · rintro s ⟨hs, rfl⟩
      obtain ⟨more, hnotes, htold, ho, ht, within, hwithin, rfl⟩ := hinner s hs
      exact ⟨_, hnotes, htold, htold, ho, ht, within, hwithin, rfl⟩
    · rintro s ⟨htold, rfl, hs, within, hwithin, rfl⟩
      obtain ⟨more, hnotes, hok, ht, rfl⟩ :=
        hended b' (Operation.completion site.invocation elapsed o) s hs
      refine ⟨_, hnotes, hok, htold, rfl, ht, within, _,
        completion_tells site.invocation elapsed o, hwithin, ?_⟩
      simp only [List.append_assoc, List.cons_append, List.nil_append]
  refine .noting hcall ?_
  rintro o t account ⟨htold, rfl, ht, haccount⟩
  exact ⟨htold, rfl, ht, account, haccount, rfl⟩

/-- A method in a run that is noted does what it does by itself, and its calls are noted as they
are. -/
theorem Method.takes_noted (hc : ∀ k, (concern k).Contained) {m : Method ι ω ρ} (hm : m.Orderly)
    (b : Session ω) :
    Flow.Takes (fun s => b.Resembles s.seen) (m.noted concern) fun o t more =>
      Operation.isTold o = true ∧ o = (m.bare.runFrom b).1 ∧
        (m.bare.runFrom b).2.Resembles t.seen ∧ Recorded (m.calls b) more := by
  induction m generalizing b with
  | finish outcome => exact .ofExcept fun s hs => ⟨hm, rfl, hs, .nil⟩
  | step act next ih =>
    have hstep : Flow.Takes (fun s => b.Resembles s.seen)
        ((act.zoom Scene.slot).zoom Noted.slot : Flow (Noted (Scene ω κ) (Note ι ρ)) ρ)
        fun o t more => o = (act.runFrom b).1 ∧ (act.runFrom b).2.Resembles t.seen ∧
          Log.Writable b ∧ more = [] := by
      intro s hs
      obtain ⟨ho, ht⟩ := hm.1 b s.seen hs
      exact ⟨[], (List.append_nil _).symm, ho, ht, hs.writable, rfl⟩
    refine .bind_attempt hstep fun o first => ?_
    rintro s ⟨rfl, hs, hb, rfl⟩
    exact ih _ (hm.2 b hb) _ s hs
  | call site body next ihbody ih =>
    refine .bind_attempt (takes_call hc (ihbody hm.1 b)) fun o first => ?_
    rintro s ⟨htold, rfl, hs, account, ⟨within, c, htells, hwithin, rfl⟩, rfl⟩
    obtain ⟨later, hnotes, hend, ho, ht, hlater⟩ := ih _ (hm.2 _ htold) _ s hs
    refine ⟨later, hnotes, hend, ho, ht, ?_⟩
    rw [List.append_assoc]
    exact .call htells hwithin hlater

/-! ## Balance -/

/-- Something that an observer is told. -/
inductive Told where
  | began (invocation : Invocation)
  | ended (completion : Completion)

/-- What one of the observers is told. -/
def Note.told? [DecidableEq ι] (k : ι) : Note ι ρ → Option Told
  | .began observer i => if observer = k then some (.began i) else none
  | .ended observer c => if observer = k then some (.ended c) else none
  | .entered _ | .left _ | .returned _ => none

/-- Every beginning has its end, and what is between them is balanced. -/
inductive Balanced : List Told → Prop
  | nil : Balanced []
  | call {i c within later} : c.invocation = i → Balanced within → Balanced later →
      Balanced (.began i :: within ++ .ended c :: later)

namespace Balanced

theorem append {told later : List Told} (h : Balanced told) (hl : Balanced later) :
    Balanced (told ++ later) := by
  induction h with
  | nil => exact hl
  | call hi hw _ _ ih =>
    have hcall := Balanced.call hi hw ih
    simpa using hcall

/-- An observer may be told several times of one call. -/
theorem replicate {i : Invocation} {c : Completion} {within : List Told} (hi : c.invocation = i)
    (hw : Balanced within) (n : Nat) :
    Balanced (List.replicate n (.began i) ++ within ++ List.replicate n (.ended c)) := by
  induction n with
  | zero => simpa using hw
  | succ n ih =>
    have hcall := Balanced.call hi ih .nil
    have hends : List.replicate (n + 1) (Told.ended c) =
        List.replicate n (.ended c) ++ [.ended c] := List.replicate_succ'
    rw [List.replicate_succ, hends]
    simpa using hcall

end Balanced

/-- An observer is told as often as it is among those who are. -/
theorem filterMap_told? [DecidableEq ι] {k : ι} {note : ι → Note ι ρ} {told : Told}
    (h : ∀ j, (note j).told? k = if j = k then some told else none) (ks : List ι) :
    (ks.map note).filterMap (Note.told? k) = List.replicate (ks.count k) told := by
  induction ks with
  | nil => rfl
  | cons j r ih =>
    rw [List.map_cons, List.filterMap_cons, h j, ih, List.count_cons]
    by_cases hj : j = k
    · simp [hj, List.replicate_succ]
    · simp [hj]

/-- What an observer is told in the course of calls is balanced. -/
theorem Recorded.balanced [DecidableEq ι] {calls : List (Call ι ρ)} {notes : List (Note ι ρ)}
    (h : Recorded calls notes) (k : ι) : Balanced (notes.filterMap (Note.told? k)) := by
  induction h with
  | nil => exact .nil
  | @call site _ _ _ within later c htells _ _ ihwithin ihlater =>
    have hbegan := filterMap_told? (k := k) (fun _ : ι => rfl : ∀ j,
      (Note.began (ρ := ρ) j site.invocation).told? k = _) site.observers
    have hended := filterMap_told? (k := k) (fun _ : ι => rfl : ∀ j,
      (Note.ended (ρ := ρ) j c).told? k = _) site.observers
    have hcall := (Balanced.replicate htells.invocation ihwithin (site.observers.count k)).append
      ihlater
    rw [← hbegan, ← hended] at hcall
    simpa only [List.filterMap_append, List.filterMap_cons, Note.told?, List.append_assoc,
      List.cons_append] using hcall

/-! ## The main statement -/

/-- **Observing changes nothing.** With observers that keep to themselves, however often they fail,
an observed method comes to the outcome that it comes to by itself, and leaves to other methods what
it leaves by itself. Each of its calls runs its body once and gives its caller the outcome of that;
every observer of the call, in order, is told once of the beginning before the body and once of the
end after it, and what an observer is told in the whole run is balanced. -/
theorem Method.observed_faithful [DecidableEq ι] (hc : ∀ k, (concern k).Contained)
    {m : Method ι ω ρ} (hm : m.Orderly) {s : Session (Scene ω κ)} (hs : Log.Writable s) :
    let bare := m.bare.runFrom (s.view Scene.slot)
    let observed := (m.observed concern).runFrom s
    observed.1 = bare.1 ∧ bare.2.Resembles (observed.2.view Scene.slot) ∧
      ∃ notes, (m.noted concern).runFrom (s.withWorld ⟨s.world, []⟩) =
          (observed.1, observed.2.withWorld ⟨observed.2.world, notes⟩) ∧
        Recorded (m.calls (s.view Scene.slot)) notes ∧
        ∀ k, Balanced (notes.filterMap (Note.told? k)) := by
  intro bare observed
  have htakes := m.takes_noted hc hm (s.view Scene.slot)
  obtain ⟨notes, hrun, -, ho, ht, hrecorded⟩ :=
    htakes.exists_notes (m.mirrors_noted concern) ⟨rfl, rfl, hs, hs⟩
  exact ⟨ho, ht, notes, hrun, hrecorded, hrecorded.balanced⟩

/-- An observer that fails whenever it is told of anything is as good as any other. -/
theorem Concern.contained_failing (at? : Stage → Bool) {f : Failure} (hf : f.isInterrupt = false) :
    (Concern.failing at? f : Concern (Scene ω κ)).Contained := by
  have hook (fails : Bool) :
      (if fails then throw f else pure () : Flow (Scene ω κ) Unit).Contained := by
    intro s hs
    cases fails
    · exact ⟨⟨rfl, rfl, hs, hs⟩, fun g hg => by cases hg⟩
    · exact ⟨⟨rfl, rfl, hs, hs⟩, fun g hg => by cases hg; exact hf⟩
  exact ⟨fun _ => hook _, fun _ => hook _⟩

/-- A call within a call: the inner one fails, the outer one goes on and succeeds, and of two
observers one fails whenever it is told of anything. Both bodies run, once each. -/
theorem Method.observed_faithful_broken :
    let concern : Bool → Concern (Scene Nat Unit) := fun k =>
      if k then .logging "audit" else .failing (fun _ => true) (.badValue "broken")
    let count : Flow Nat String := Flow.ofStep fun s => (.ok "", { s with world := s.world + 1 })
    let inner : Method Bool Nat String := .step count fun _ => .finish (.error (.badValue "no"))
    let m : Method Bool Nat String :=
      .call ⟨"store", "save", [false, true], some "audit", {}⟩
        (.step count fun _ => .call ⟨"disk", "write", [true, false], none, {}⟩ inner
          fun _ => .finish (.ok "kept"))
        .finish
    let s : Session (Scene Nat Unit) := { world := ⟨0, ()⟩ }
    (∀ k, (concern k).Contained) ∧ m.Orderly ∧ Log.Writable s ∧
      ((m.observed concern).runFrom s).1 = .ok "kept" ∧
      ((m.observed concern).runFrom s).2.world.stage = 2 := by
  intro concern count inner m s
  have hc : ∀ k, (concern k).Contained := by
    intro k
    have hbroken : (Failure.badValue "broken").isInterrupt = false := rfl
    cases k
    · exact Concern.contained_failing (fun _ => true) hbroken
    · exact (Concern.discreet_logging "audit").contained
  have hcount : count.Steady := fun s t h =>
    ⟨rfl, congrArg (· + 1) h.world, h.context, h.writable, h.also_writable⟩
  have hinner : inner.Orderly := ⟨hcount, fun _ _ => rfl⟩
  have hm : m.Orderly := ⟨⟨hcount, fun _ _ => ⟨hinner, fun _ _ => rfl⟩⟩, fun _ h => h⟩
  have hs : Log.Writable s := .inl fun h hh => by cases hh
  have hbare : m.bare.runFrom (s.view Scene.slot) = (.ok "kept", { world := 2 }) := rfl
  have hall := m.observed_faithful hc hm hs
  rw [hbare] at hall
  generalize (m.observed concern).runFrom s = r at hall ⊢
  exact ⟨hc, hm, hs, hall.1, hall.2.1.world⟩

end Instrument

end Stowage
