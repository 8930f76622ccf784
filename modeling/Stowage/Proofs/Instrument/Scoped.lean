import Stowage.Proofs.Instrument.Method
import Stowage.Proofs.Log.Configured
import Stowage.Proofs.Value.Labels

/-!
Blocks of bound context.

A program binds and forgets names, sets logging up, logs, looks at the context, runs blocks in a
context of their own and makes observed calls; whatever comes of a step, it may go on or give up, so
that a failure may leave any number of blocks at once. `Program.sighted` runs a program and notes
the context at every moment at which it could be seen. `Shows` says, of contexts alone, what there
is to see: a block begins in the context around it, overridden by what is bound for it, and after it
the context is the one from before it. `Program.shows_scoped` is that of every program, in every session.
-/

namespace Stowage

variable {σ ν ι α β γ : Type}

namespace Log

variable {c inner after : Labels} {values : Entries} {key : String}

/-! ## Binding -/

/-- The text that a value is bound as. Null is not bound. -/
def shown? : Value → Option String
  | .null => none
  | v => some v.display

/-- What is bound to a name: of several values the last that is not null. -/
def given? (key : String) : Entries → Option String
  | [] => none
  | (k, v) :: r => (given? key r).or (if k.text? = some key then shown? v else none)

/-- A context overridden by values. -/
def Overridden (c : Labels) (values : Entries) (inner : Labels) : Prop :=
  ∀ key, inner.get? key = (given? key values).or (c.get? key)

/-- What comes of binding values over a context. -/
inductive Bound (c : Labels) (values : Entries) : Except Failure Labels → Prop
  | nameless : (∃ e ∈ values, e.1.text? = none) →
    Bound c values (.error (.badType "keywords must be strings"))
  | overlong : (∀ e ∈ values, e.1.text?.isSome) → (∃ e ∈ values, e.2.isOverlong = true) →
    Bound c values (.error .overlongInteger)
  | over (inner : Labels) : (∀ e ∈ values, e.1.text?.isSome) →
    (∀ e ∈ values, e.2.isOverlong = false) → Overridden c values inner →
    Bound c values (.ok inner)

theorem bound_cons {k : Value} (h : k.text? = some key) (c : Labels) (v : Value) (r : Entries) :
    bound c ((k, v) :: r) = match shown? v with
      | none => bound c r
      | some s => if v.isOverlong then .error .overlongInteger else bound (c.insert key s) r := by
  rw [bound, h]
  cases v <;> rfl

theorem bound_spec (h : ∀ e ∈ values, e.1.text?.isSome) (c : Labels) :
    (∃ e ∈ values, e.2.isOverlong = true) ∧ bound c values = .error .overlongInteger ∨
      (∀ e ∈ values, e.2.isOverlong = false) ∧
        ∃ inner, bound c values = .ok inner ∧ Overridden c values inner := by
  induction values generalizing c with
  | nil => exact .inr ⟨List.forall_mem_nil _, c, rfl, fun _ => rfl⟩
  | cons e r ih =>
    obtain ⟨k, v⟩ := e
    obtain ⟨hk, hr⟩ := List.forall_mem_cons.1 h
    obtain ⟨name, hname⟩ := Option.isSome_iff_exists.1 hk
    rw [bound_cons hname]
    cases hshown : shown? v with
    | none =>
      have hv : v.isOverlong = false := by
        cases v with
        | null => rfl
        | _ => cases hshown
      have hgiven : ∀ key, given? key ((k, v) :: r) = given? key r := by
        intro key
        rw [given?, hshown, ite_self, Option.or_none]
      rcases ih hr c with ⟨⟨e, he, hlong⟩, hbound⟩ | ⟨hshort, inner, hbound, hover⟩
      · exact .inl ⟨⟨e, List.mem_cons_of_mem _ he, hlong⟩, hbound⟩
      · refine .inr ⟨List.forall_mem_cons.2 ⟨hv, hshort⟩, inner, hbound, fun key => ?_⟩
        rw [hgiven]
        exact hover key
    | some s =>
      dsimp only
      by_cases hlong : v.isOverlong = true
      · rw [if_pos hlong]
        exact .inl ⟨⟨_, List.mem_cons_self, hlong⟩, rfl⟩
      rw [if_neg hlong]
      rcases ih hr (c.insert name s) with ⟨⟨e, he, hlong⟩, hbound⟩ | ⟨hshort, inner, hbound, hover⟩
      · exact .inl ⟨⟨e, List.mem_cons_of_mem _ he, hlong⟩, hbound⟩
      · refine .inr ⟨List.forall_mem_cons.2 ⟨Bool.eq_false_iff.2 hlong, hshort⟩, inner, hbound,
          fun key => ?_⟩
        rw [hover, given?, hshown, hname, Labels.get?_insert, Option.or_assoc]
        by_cases hkey : name = key
        · simp [hkey]
        · simp [hkey, Ne.symm hkey]

theorem bound_bindable (c : Labels) (values : Entries) :
    Bound c values ((bindable values).bind (bound c)) := by
  unfold bindable
  by_cases h : ∀ e ∈ values, e.1.text?.isSome = true
  · rw [if_pos (List.all_eq_true.2 h)]
    change Bound c values (bound c values)
    rcases bound_spec h c with ⟨hlong, hbound⟩ | ⟨hshort, inner, hbound, hover⟩
    · rw [hbound]
      exact .overlong h hlong
    · rw [hbound]
      exact .over inner h hshort hover
  · rw [if_neg fun hall => h (List.all_eq_true.1 hall)]
    refine .nameless ?_
    simpa using h

/-! ## Calls -/

/-- A context without some of its names; without any if none is said. -/
def Cleared (c : Labels) (keys : List String) (after : Labels) : Prop :=
  ∀ key, after.get? key = if keys = [] ∨ key ∈ keys then none else c.get? key

/-- What a call leaves of a context. -/
inductive Call.Leaves (c : Labels) : Call → Except Failure Unit → Labels → Prop
  | bound {values : Entries} {after : Labels} : Bound c values (.ok after) →
    Leaves c (.bind values) (.ok ()) after
  | refused {values : Entries} {f : Failure} : Bound c values (.error f) →
    Leaves c (.bind values) (.error f) c
  | cleared {keys : List String} {after : Labels} : Cleared c keys after →
    Leaves c (.clear keys) (.ok ()) after
  | configured {call : Call} {p : Plan} {number : Nat} : call.plan? = some p →
    numbered p.level = .ok number → Leaves c call (.ok ()) (p.context c)
  | unknown {call : Call} {p : Plan} {f : Failure} : call.plan? = some p →
    numbered p.level = .error f → Leaves c call (.error f) c

theorem cleared_erase (c : Labels) (keys : List String) :
    Cleared c keys (if keys.isEmpty then {} else keys.foldl Labels.erase c) := by
  have herase : ∀ c : Labels, ∀ key,
      (keys.foldl Labels.erase c).get? key = if key ∈ keys then none else c.get? key := by
    induction keys with
    | nil => simp
    | cons k r ih =>
      intro c key
      rw [List.foldl_cons, ih, Labels.get?_erase]
      by_cases hr : key ∈ r <;> by_cases hk : key = k <;> simp [hr, hk]
  intro key
  cases keys with
  | nil => rfl
  | cons k r => simpa using herase c key

/-- A call sees nothing of a session but its context and how logging is set up, and changes nothing
else. -/
theorem Call.exists_effect (call : Call) (c : Labels) (logging : Setup) :
    ∃ o after logging', call.Leaves c o after ∧
      ∀ {σ : Type} (s : Session σ), s.context = c → s.logging = logging →
        call.flow.runFrom s = (o, { s with context := after, logging := logging' }) := by
  have hplan : ∀ {call : Call} {p}, call.plan? = some p →
      ∃ o after logging', call.Leaves c o after ∧
        ∀ {σ : Type} (s : Session σ), s.context = c → s.logging = logging →
          call.flow.runFrom s = (o, { s with context := after, logging := logging' }) := by
    intro call p hp
    cases hnumber : numbered p.level with
    | ok number =>
      refine ⟨.ok (), p.context c, ⟨number, [⟨number, p.format⟩]⟩, .configured hp hnumber, ?_⟩
      rintro σ s rfl -
      rw [flow_eq hp, Plan.runFrom_ok hnumber]
    | error f =>
      refine ⟨.error f, c, { logging with handlers := [] }, .unknown hp hnumber, ?_⟩
      rintro σ s rfl rfl
      rw [flow_eq hp, Plan.runFrom_error hnumber]
  cases call with
  | bind values =>
    have hbound := bound_bindable c values
    cases hafter : (bindable values).bind (Log.bound c) with
    | ok after =>
      refine ⟨.ok (), after, logging, .bound (hafter ▸ hbound), ?_⟩
      rintro σ s rfl rfl
      unfold flow Log.bind
      rw [Flow.runFrom_ofStep, hafter]
    | error f =>
      refine ⟨.error f, c, logging, .refused (hafter ▸ hbound), ?_⟩
      rintro σ s rfl rfl
      unfold flow Log.bind
      rw [Flow.runFrom_ofStep, hafter]
  | clear keys =>
    refine ⟨.ok (), _, logging, .cleared (cleared_erase c keys), ?_⟩
    rintro σ s rfl rfl
    rfl
  | configure => exact hplan rfl
  | configureFrom => exact hplan rfl

end Log

/-! ## Leaving a part of the session alone -/

namespace Flow

/-- A flow leaves a part of the session as it is. -/
def Keeps (part : Session σ → γ) (body : Flow σ α) : Prop := ∀ s, part (body.runFrom s).2 = part s

namespace Keeps

variable {part : Session σ → γ}

theorem pure (a : α) : Keeps part (Pure.pure a) := fun _ => rfl

theorem bind {body : Flow σ α} {next : α → Flow σ β} (hb : Keeps part body)
    (hn : ∀ a, Keeps part (next a)) : Keeps part (body >>= next) := by
  intro s
  rw [runFrom_bind]
  have hs := hb s
  generalize body.runFrom s = r at hs ⊢
  rcases r with ⟨f | a, t⟩
  · exact hs
  · exact (hn a t).trans hs

theorem handling {body : Flow σ α} {deal : Failure → Flow σ α} (hb : Keeps part body)
    (hd : ∀ f, Keeps part (deal f)) : Keeps part (body.handling deal) := by
  intro s
  rw [runFrom_handling]
  have hs := hb s
  generalize body.runFrom s = r at hs ⊢
  rcases r with ⟨f | a, t⟩
  · dsimp only
    split
    · exact hs
    · exact (hd f t).trans hs
  · exact hs

end Keeps

theorem Takes.ofExcept_bind {before : Session (Noted σ ν) → Prop} {a : α}
    {next : α → Flow (Noted σ ν) β} {P : Except Failure β → Session (Noted σ ν) → List ν → Prop}
    (h : Takes before (next a) P) : Takes before (Flow.ofExcept (.ok a) >>= next) P := h

/-- What a flow does when it goes on after another one, or fails with it. -/
theorem Takes.bind {before : Session (Noted σ ν) → Prop} {body : Flow (Noted σ ν) α}
    {next : α → Flow (Noted σ ν) β} {P : Except Failure α → Session (Noted σ ν) → List ν → Prop}
    {R : Except Failure β → Session (Noted σ ν) → List ν → Prop} (h : Takes before body P)
    (hok : ∀ a first, Takes (fun t => P (.ok a) t first) (next a)
      fun o t rest => R o t (first ++ rest))
    (herror : ∀ f t first, P (.error f) t first → R (.error f) t first) :
    Takes before (body >>= next) R := by
  intro s hs
  obtain ⟨first, hnotes, hP⟩ := h s hs
  rw [runFrom_bind]
  generalize body.runFrom s = r at hnotes hP ⊢
  rcases r with ⟨f | a, t⟩
  · exact ⟨first, hnotes, herror f t first hP⟩
  · obtain ⟨rest, hrest, hR⟩ := hok a first t hP
    exact ⟨first ++ rest, by rw [hrest, hnotes, List.append_assoc], hR⟩

end Flow

namespace Instrument

/-- An observer that leaves the bound context alone. -/
structure Concern.KeepsContext (k : Concern σ) : Prop where
  onInvocation : ∀ i, (k.onInvocation i).Keeps Session.context
  onCompletion : ∀ e, (k.onCompletion e).Keeps Session.context

theorem Operation.keeps_tell {part : Session σ → γ} (op : Operation σ) (stage : Stage)
    (hpart : ∀ s t : Session σ, s.Alike t → part t = part s) {hook : Concern σ → Flow σ Unit}
    {concerns : List (Concern σ)} (h : ∀ k ∈ concerns, (hook k).Keeps part) :
    (op.tell stage hook concerns).Keeps part := by
  induction concerns with
  | nil => exact .pure ()
  | cons k r ih =>
    obtain ⟨hk, hr⟩ := List.forall_mem_cons.1 h
    refine .bind (.handling hk fun f s => ?_) fun _ => ih hr
    exact hpart _ _ (op.discreet_report stage k.name f s).1

end Instrument

/-! ## Programs -/

namespace Log

open Instrument (Concern Site)

/-- A program: it ends, or takes a step, and goes on as the outcome of that may be. A step is a call
that binds names, forgets them or sets logging up, a record that is logged, a look at the context, a
block with values bound for it, or an observed call. -/
inductive Program (ι : Type) where
  | finish (outcome : Except Failure Unit)
  | act (step : Call) (next : Except Failure Unit → Program ι)
  | log (record : Record) (next : Except Failure Unit → Program ι)
  | look (next : Labels → Program ι)
  | block (values : Entries) (body : Program ι) (next : Except Failure Unit → Program ι)
  | call (site : Site ι) (body : Program ι) (next : Except Failure Unit → Program ι)

/-- The context at a moment: after a step, at the beginning of a block or of the body of a call, and
after these. -/
inductive Sight where
  | seen (context : Labels)
  | entered (context : Labels)
  | left (context : Labels)
  deriving DecidableEq

/-- Note the context. -/
def see (moment : Labels → Sight) : Flow (Noted σ Sight) Unit :=
  Flow.ofStep fun s => (.ok (), s.jotted (moment s.context))

namespace Program

/-- Run a program, given what is done at the moments at which the context can be seen. -/
def run (see : (Labels → Sight) → Flow σ Unit) (concern : ι → Concern σ) :
    Program ι → Flow σ Unit
  | .finish outcome => Flow.ofExcept outcome
  | .act step next => do
    let outcome ← step.flow.attempt
    see .seen
    run see concern (next outcome)
  | .log record next => do
    let outcome ← (emit record).attempt
    see .seen
    run see concern (next outcome)
  | .look next => do
    let context ← Flow.ofStep fun s => (.ok s.context, s)
    see .seen
    run see concern (next context)
  | .block values body next => do
    let outcome ← (within values do see .entered; run see concern body).attempt
    see .left
    run see concern (next outcome)
  | .call site body next => do
    let outcome ← (site.call concern do see .entered; run see concern body).attempt
    see .left
    run see concern (next outcome)

/-- A program by itself. -/
def flow (concern : ι → Concern σ) : Program ι → Flow σ Unit := run (fun _ => pure ()) concern

/-- A program with notes taken of the context. -/
def sighted (concern : ι → Concern σ) : Program ι → Flow (Noted σ Sight) Unit :=
  run see fun k => (concern k).zoom Noted.slot

end Program

/-- What there is to see of the context in a program that begins in `c`, how the program ends and in
which context. Observers for which `quiet` holds leave the context alone; others may change it while
they are told of a call. -/
inductive Shows (quiet : ι → Prop) :
    Labels → Program ι → List Sight → Except Failure Unit → Labels → Prop
  | finish {c : Labels} {o : Except Failure Unit} : Shows quiet c (.finish o) [] o c
  | act {c after d : Labels} {step : Call} {next : Except Failure Unit → Program ι}
    {rest : List Sight} {o last : Except Failure Unit} : step.Leaves c o after →
    Shows quiet after (next o) rest last d →
    Shows quiet c (.act step next) (.seen after :: rest) last d
  | log {c d : Labels} {record : Record} {next : Except Failure Unit → Program ι}
    {rest : List Sight} {o last : Except Failure Unit} : Shows quiet c (next o) rest last d →
    Shows quiet c (.log record next) (.seen c :: rest) last d
  | look {c d : Labels} {next : Labels → Program ι} {rest : List Sight}
    {last : Except Failure Unit} : Shows quiet c (next c) rest last d →
    Shows quiet c (.look next) (.seen c :: rest) last d
  | refused {c d : Labels} {values : Entries} {body : Program ι}
    {next : Except Failure Unit → Program ι} {rest : List Sight} {f : Failure}
    {last : Except Failure Unit} : Bound c values (.error f) →
    Shows quiet c (next (.error f)) rest last d →
    Shows quiet c (.block values body next) (.left c :: rest) last d
  | block {c inner e d : Labels} {values : Entries} {body : Program ι}
    {next : Except Failure Unit → Program ι} {within rest : List Sight}
    {o last : Except Failure Unit} : Bound c values (.ok inner) →
    Shows quiet inner body within o e → Shows quiet c (next o) rest last d →
    Shows quiet c (.block values body next) (.entered inner :: within ++ .left c :: rest) last d
  | call {c begun e ended d : Labels} {site : Site ι} {body : Program ι}
    {next : Except Failure Unit → Program ι} {within rest : List Sight}
    {o o' last : Except Failure Unit} : ((∀ k ∈ site.observers, quiet k) → begun = c) →
    Shows quiet begun body within o e → ((∀ k ∈ site.observers, quiet k) → ended = e) →
    Shows quiet ended (next o') rest last d →
    Shows quiet c (.call site body next) (.entered begun :: within ++ .left ended :: rest) last d
  | untold {c ended d : Labels} {site : Site ι} {body : Program ι}
    {next : Except Failure Unit → Program ι} {rest : List Sight} {f : Failure}
    {last : Except Failure Unit} : ((∀ k ∈ site.observers, quiet k) → ended = c) →
    Shows quiet ended (next (.error f)) rest last d →
    Shows quiet c (.call site body next) (.left ended :: rest) last d

/-- What the body of a block or of a call shows, with the context that it begins in. -/
def Inside (quiet : ι → Prop) (body : Program ι) (c : Labels) (o : Except Failure Unit)
    (e : Labels) (sights : List Sight) : Prop :=
  ∃ within, sights = .entered c :: within ∧ Shows quiet c body within o e

/-! ## Notes change nothing -/

theorem Call.mirrors {τ : Type} {slot : Slot τ σ} (call : Call) :
    Flow.Mirrors slot call.flow call.flow := by
  intro s
  obtain ⟨o, after, logging, -, hflow⟩ := call.exists_effect s.context s.logging
  rw [hflow s rfl rfl, hflow (s.view slot) rfl rfl]
  rfl

theorem Program.mirrors_sighted (concern : ι → Concern σ) (p : Program ι) :
    Flow.Mirrors Noted.slot (p.sighted concern) (p.flow concern) := by
  have hsee : ∀ moment, Flow.Mirrors Noted.slot (see moment : Flow (Noted σ Sight) Unit)
      (pure ()) := fun _ _ => rfl
  have hzoom : ∀ k, Concern.Mirrors Noted.slot
      ((concern k).zoom (Noted.slot : Slot (Noted σ Sight) σ)) (concern k) :=
    fun k => Concern.mirrors_zoom (fun _ _ => rfl) (concern k)
  induction p with
  | finish outcome => exact .ofExcept outcome
  | act step next ih =>
    exact .bind step.mirrors.attempt fun outcome => .bind (hsee _) fun _ => ih outcome
  | log record next ih =>
    exact .bind (mirrors_emit record).attempt fun outcome => .bind (hsee _) fun _ => ih outcome
  | look next ih =>
    exact .bind (.read fun _ => rfl) fun context => .bind (hsee _) fun _ => ih context
  | block values body next ihbody ih =>
    exact .bind (mirrors_within values (.bind (hsee _) fun _ => ihbody)).attempt
      fun outcome => .bind (hsee _) fun _ => ih outcome
  | call site body next ihbody ih =>
    exact .bind (site.mirrors_call hzoom (.bind (hsee _) fun _ => ihbody)).attempt
      fun outcome => .bind (hsee _) fun _ => ih outcome

/-! ## What is seen -/

theorem takes_see {before : Session (Noted σ Sight) → Prop} {moment : Labels → Sight}
    {next : Flow (Noted σ Sight) α}
    {R : Labels → Except Failure α → Session (Noted σ Sight) → List Sight → Prop}
    {Q : Except Failure α → Session (Noted σ Sight) → List Sight → Prop}
    (hnext : ∀ c, Flow.Takes (fun t => t.context = c) next (R c))
    (hQ : ∀ t, before t → ∀ o u more, R t.context o u more → Q o u (moment t.context :: more)) :
    Flow.Takes before (do see moment; next) Q := by
  intro s hs
  obtain ⟨more, hnotes, hR⟩ := hnext s.context (s.jotted (moment s.context)) rfl
  refine ⟨moment s.context :: more, ?_, hQ s hs _ _ more hR⟩
  exact hnotes.trans (List.append_assoc _ [moment s.context] more)

theorem takes_look {c : Labels} {next : Labels → Flow (Noted σ Sight) α}
    {P : Except Failure α → Session (Noted σ Sight) → List Sight → Prop}
    (h : Flow.Takes (fun t => t.context = c) (next c) P) : Flow.Takes (fun t => t.context = c)
      (do let context ← Flow.ofStep fun s => (.ok s.context, s); next context) P := by
  rintro s rfl
  exact h s rfl

/-- What is noted in a block is noted in the context bound for it, and afterwards the context is the
one from before. -/
theorem takes_within {c : Labels} {values : Entries} {body : Flow (Noted σ Sight) α}
    {P : Labels → Except Failure α → Labels → List Sight → Prop}
    (hbody : ∀ inner, Flow.Takes (fun t => t.context = inner) body
      fun o t more => P inner o t.context more) :
    Flow.Takes (fun t => t.context = c) (within values body) fun o t more => t.context = c ∧
      ((∃ f, Bound c values (.error f) ∧ o = .error f ∧ more = []) ∨
        ∃ inner e, Bound c values (.ok inner) ∧ P inner o e more) := by
  rintro s rfl
  have hbound := bound_bindable s.context values
  rw [runFrom_within]
  generalize (bindable values).bind (bound s.context) = outcome at hbound
  cases outcome with
  | error f => exact ⟨[], (List.append_nil _).symm, rfl, .inl ⟨f, hbound, rfl, rfl⟩⟩
  | ok inner =>
    obtain ⟨more, hnotes, hP⟩ := hbody inner { s with context := inner } rfl
    exact ⟨more, hnotes, rfl, .inr ⟨inner, _, hbound, hP⟩⟩

/-- Telling observers adds no notes, and leaves the context alone if they do. -/
theorem takes_tell {concern : ι → Concern σ} (site : Site ι) (stage : Instrument.Stage)
    {large : Concern (Noted σ ν) → Flow (Noted σ ν) Unit} {small : Concern σ → Flow σ Unit}
    (hzoom : ∀ k, large (k.zoom Noted.slot) = (small k).zoom Noted.slot)
    (hsmall : ∀ k, k.KeepsContext → (small k).Keeps Session.context) (c : Labels) :
    let zoomed := fun k => (concern k).zoom Noted.slot
    Flow.Takes (fun t => t.context = c)
      ((site.operation zoomed).tell stage large (site.observers.map zoomed))
      fun _ t more => more = [] ∧
        ((∀ k ∈ site.observers, (concern k).KeepsContext) → t.context = c) := by
  intro zoomed s hs
  refine ⟨[], ?_, rfl, fun hquiet => ?_⟩
  · rw [List.append_nil]
    refine (site.operation zoomed).keeps_tell stage (fun _ _ h => congrArg Noted.notes h.world)
      (fun k hk => ?_) s
    obtain ⟨k, -, rfl⟩ := List.mem_map.1 hk
    rw [hzoom]
    exact fun t => rfl
  · rw [← hs]
    refine (site.operation zoomed).keeps_tell stage (fun _ _ h => h.context) (fun k hk => ?_) s
    obtain ⟨k, hmem, rfl⟩ := List.mem_map.1 hk
    rw [hzoom]
    exact fun t => hsmall _ (hquiet k hmem) _

/-- What an observed call shows: it ends before its body begins, or its body shows something. If
`calm` holds, nothing but the body changes the context. -/
inductive Around (calm : Prop) (c : Labels)
    (P : Labels → Except Failure α → Labels → List Sight → Prop) :
    Except Failure α → Labels → List Sight → Prop
  | before (f : Failure) {ended : Labels} : (calm → ended = c) → Around calm c P (.error f) ended []
  | body (o' : Except Failure α) {begun e ended : Labels} {o : Except Failure α}
    {within : List Sight} : (calm → begun = c) → P begun o e within → (calm → ended = e) →
    Around calm c P o' ended within

theorem takes_call {concern : ι → Concern σ} {site : Site ι} {body : Flow (Noted σ Sight) α}
    {P : Labels → Except Failure α → Labels → List Sight → Prop}
    (hbody : ∀ begun, Flow.Takes (fun t => t.context = begun) body
      fun o t more => P begun o t.context more) (c : Labels) :
    Flow.Takes (fun t => t.context = c) (site.call (fun k => (concern k).zoom Noted.slot) body)
      fun o t more =>
        Around (∀ k ∈ site.observers, (concern k).KeepsContext) c P o t.context more := by
  let calm := ∀ k ∈ site.observers, (concern k).KeepsContext
  let zoomed := fun k => (concern k).zoom (Noted.slot : Slot (Noted σ Sight) σ)
  have hbegun : Flow.Takes (fun t => t.context = c)
      ((site.operation zoomed).tell .invocation (fun k => k.onInvocation site.invocation)
        (site.observers.map zoomed))
      fun _ t more => more = [] ∧ (calm → t.context = c) :=
    takes_tell site .invocation (fun _ => rfl) (fun _ hk => hk.onInvocation _) c
  have hended : ∀ e c, Flow.Takes (fun t => t.context = c)
      ((site.operation zoomed).tell .completion (fun k => k.onCompletion e)
        (site.observers.map zoomed))
      fun _ t more => more = [] ∧ (calm → t.context = c) :=
    fun e => takes_tell site .completion (fun _ => rfl) fun _ hk => hk.onCompletion e
  unfold Site.call Instrument.Operation.run
  refine .ofExcept_bind (.bind hbegun (fun _ none => ?_) fun f t none ht => ?_)
  · refine .bind_attempt (P := fun o t more => none = [] ∧ ∃ begun, (calm → begun = c) ∧
      P begun o t.context more) ?_ fun o more => ?_
    · rintro t ⟨rfl, hbegun⟩
      obtain ⟨more, hnotes, hP⟩ := hbody t.context t rfl
      exact ⟨more, hnotes, rfl, t.context, hbegun, hP⟩
    · split
      · refine .read_bind fun elapsed => .bind (P := fun _ t rest => rest = [] ∧ none = [] ∧
          ∃ begun e, (calm → begun = c) ∧ P begun o e more ∧ (calm → t.context = e)) ?_
          (fun _ rest => .ofExcept fun u hu => ?_) fun f u rest hu => ?_
        · rintro u ⟨rfl, begun, hbegun, hP⟩
          obtain ⟨rest, hnotes, hrest, hcontext⟩ := hended _ u.context u rfl
          exact ⟨rest, hnotes, hrest, rfl, begun, u.context, hbegun, hP, hcontext⟩
        · obtain ⟨rfl, rfl, begun, e, hbegun, hP, hended⟩ := hu
          simpa using .body o hbegun hP hended
        · obtain ⟨rfl, rfl, begun, e, hbegun, hP, hended⟩ := hu
          simpa using .body (.error f) hbegun hP hended
      · refine .ofExcept fun u hu => ?_
        obtain ⟨rfl, begun, hbegun, hP⟩ := hu
        simpa using .body o hbegun hP fun _ => rfl
  · obtain ⟨rfl, hended⟩ := ht
    exact .before f hended

namespace Program

variable {concern : ι → Concern σ}

theorem takes_inside {body : Program ι} (h : ∀ c, Flow.Takes (fun t => t.context = c)
    (body.sighted concern) fun o t sights =>
      Shows (fun k => (concern k).KeepsContext) c body sights o t.context) (c : Labels) :
    Flow.Takes (fun t => t.context = c) (do see .entered; body.sighted concern) fun o t sights =>
      Inside (fun k => (concern k).KeepsContext) body c o t.context sights := by
  refine takes_see h ?_
  rintro t rfl o u within h
  exact ⟨within, rfl, h⟩

theorem takes_sighted (concern : ι → Concern σ) (p : Program ι) (c : Labels) :
    Flow.Takes (fun t => t.context = c) (p.sighted concern) fun o t sights =>
      Shows (fun k => (concern k).KeepsContext) c p sights o t.context := by
  induction p generalizing c with
  | finish outcome => exact .ofExcept fun s hs => hs ▸ .finish
  | act step next ih =>
    have hact : Flow.Takes (fun t => t.context = c) (step.flow : Flow (Noted σ Sight) Unit)
        fun o t more => more = [] ∧ step.Leaves c o t.context := by
      rintro s rfl
      obtain ⟨o, after, logging, hleaves, hflow⟩ := step.exists_effect s.context s.logging
      rw [hflow s rfl rfl]
      exact ⟨[], (List.append_nil _).symm, rfl, hleaves⟩
    refine .bind_attempt hact fun o none => takes_see (ih o) fun t ht o' u rest h => ?_
    exact ht.1 ▸ .act ht.2 h
  | log record next ih =>
    have hlog : Flow.Takes (fun t => t.context = c) (emit record : Flow (Noted σ Sight) Unit)
        fun _ t more => more = [] ∧ t.context = c := by
      intro s hs
      obtain ⟨ha, -⟩ := discreet_emit record s
      exact ⟨[], by rw [ha.world, List.append_nil], rfl, ha.context.trans hs⟩
    refine .bind_attempt hlog fun o none => takes_see (ih o) fun t ht o' u rest h => ?_
    obtain ⟨rfl, rfl⟩ := ht
    exact .log h
  | look next ih =>
    refine takes_look (takes_see (ih c) ?_)
    rintro t rfl o u rest h
    exact .look h
  | block values body next ihbody ih =>
    refine .bind_attempt (takes_within (takes_inside ihbody)) fun o more =>
      takes_see (ih o) fun t ht o' u rest h => ?_
    obtain ⟨rfl, ⟨f, hbound, rfl, rfl⟩ | ⟨inner, e, hbound, within, rfl, hwithin⟩⟩ := ht
    · exact .refused hbound h
    · simpa using .block hbound hwithin h
  | call site body next ihbody ih =>
    refine .bind_attempt (takes_call (takes_inside ihbody) c) fun o more =>
      takes_see (ih o) fun t ht o' u rest h => ?_
    cases ht with
    | before f hended => exact .untold hended h
    | body _ hbegun hP hended =>
      obtain ⟨within, rfl, hwithin⟩ := hP
      simpa using .call hbegun hwithin hended h

/-- **Blocks take their context back.** Of every program, in every session and with any observers:
taking notes changes nothing about it, and what is noted of the context is what `Shows` says. A block
begins in the context around it overridden by the values that are bound for it, or is refused for
one of them; what is done in it shows from there on; and after it, however it ends and whatever was
bound or forgotten in it, the context is exactly the one from before. -/
theorem shows_scoped (concern : ι → Concern σ) (p : Program ι) (s : Session σ) :
    let run := (p.flow concern).runFrom s
    ∃ sights, (p.sighted concern).runFrom (s.withWorld ⟨s.world, []⟩) =
        (run.1, run.2.withWorld ⟨run.2.world, sights⟩) ∧
      Shows (fun k => (concern k).KeepsContext) s.context p sights run.1 run.2.context :=
  (p.takes_sighted concern s.context).exists_notes (p.mirrors_sighted concern) rfl

/-- A failure leaves two blocks at once, the inner of which has forgotten everything. -/
example :
    let p : Program Empty :=
      .block [(.text "a", .text "1")]
        (.block [(.text "a", .text "2"), (.text "b", .null)]
          (.act (.clear []) fun _ => .finish (.error (.badValue "given up")))
          .finish)
        .finish
    let s : Session (Noted Unit Sight) := {
      context := Labels.ofList [("t", "0")]
      world := ⟨(), []⟩ }
    ((p.sighted nofun).runFrom s).2.world.notes = [
      .entered (Labels.ofList [("t", "0"), ("a", "1")]),
      .entered (Labels.ofList [("t", "0"), ("a", "2")]),
      .seen {}, .left (Labels.ofList [("t", "0"), ("a", "1")]),
      .left (Labels.ofList [("t", "0")])] := by
  decide +kernel

end Program

end Log

end Stowage
