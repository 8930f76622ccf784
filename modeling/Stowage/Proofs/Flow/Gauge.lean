import Stowage.Proofs.Log.Discreet

/-!
Gauges: lists that grow while flows run.

A gauge reads a list off every session, such as the calls or the requests made so far. `Gauge.Adds`
says what a flow adds to the list and how that goes with its outcome; the rules follow the ways in
which flows are put together, so that what an operation adds is found by reading it from the top.
-/

namespace Stowage

/-- A list read off sessions in which something holds. Neither changes between sessions that are
alike; `writable` says that log records are never refused. -/
structure Gauge (σ ε : Type) where
  holds : Session σ → Prop
  list : Session σ → List ε
  writable : Prop
  holds_alike : ∀ {s t : Session σ}, s.Alike t → holds s → holds t
  list_alike : ∀ {s t : Session σ}, s.Alike t → list t = list s
  log_writable : writable → ∀ {s : Session σ}, holds s → Log.Writable s

namespace Gauge

variable {σ ε α β : Type} {g : Gauge σ ε}

/-- What a flow adds to the list of a gauge goes with its outcome as `P` says. -/
def Adds (g : Gauge σ ε) (body : Flow σ α) (P : Except Failure α → List ε → Prop) : Prop :=
  ∀ s, g.holds s → g.holds (body.runFrom s).2 ∧
    ∃ more, g.list (body.runFrom s).2 = g.list s ++ more ∧ P (body.runFrom s).1 more

/-- What a flow adds to the list of a gauge from one session on goes with its outcome as `P` says. -/
def AddsAt (g : Gauge σ ε) (s : Session σ) (body : Flow σ α)
    (P : Except Failure α → List ε → Prop) : Prop :=
  g.holds (body.runFrom s).2 ∧
    ∃ more, g.list (body.runFrom s).2 = g.list s ++ more ∧ P (body.runFrom s).1 more

section

variable {body : Flow σ α} {P Q : Except Failure α → List ε → Prop}

theorem AddsAt.mono {s : Session σ} (h : g.AddsAt s body P)
    (hPQ : ∀ o more, P o more → Q o more) : g.AddsAt s body Q := by
  obtain ⟨ht, more, hl, hP⟩ := h
  exact ⟨ht, more, hl, hPQ _ _ hP⟩

theorem AddsAt.bind {s : Session σ} {next : α → Flow σ β} {R : Except Failure β → List ε → Prop}
    (hb : g.AddsAt s body P) (herror : ∀ f more, P (.error f) more → R (.error f) more)
    (hok : ∀ a more t, body.runFrom s = (.ok a, t) → g.holds t → P (.ok a) more →
      g.AddsAt t (next a) fun o rest => R o (more ++ rest)) : g.AddsAt s (body >>= next) R := by
  unfold AddsAt
  rw [Flow.runFrom_bind]
  obtain ⟨ht, more, hl, hP⟩ := hb
  generalize hr : body.runFrom s = r at ht hl hP ⊢
  rcases r with ⟨f | a, t⟩
  · exact ⟨ht, more, hl, herror f more hP⟩
  · obtain ⟨hu, rest, hl', hR⟩ := hok a more t hr ht hP
    refine ⟨hu, more ++ rest, ?_, hR⟩
    rw [hl', hl, List.append_assoc]

/-- What goes for a flow goes for it with a flow after it that adds nothing but may fail. -/
theorem AddsAt.last {s : Session σ} {next : α → Flow σ β} {R : Bool → List ε → Prop}
    (hfail : ∀ more, R true more → R false more)
    (hb : g.AddsAt s body fun o more => R o.isOk more)
    (hn : ∀ a t, g.holds t → g.AddsAt t (next a) fun _ more => more = []) :
    g.AddsAt s (body >>= next) fun o more => R o.isOk more := by
  refine .bind hb (fun _ _ h => h) fun a more t _ ht h => (hn a t ht).mono ?_
  rintro o rest rfl
  rw [List.append_nil]
  cases o with
  | error f => exact hfail more h
  | ok b => exact h

theorem AddsAt.andFinally {s : Session σ} {last : Flow σ Unit}
    {L : Except Failure Unit → List ε → Prop} (hb : g.AddsAt s body P)
    (hlast : ∀ t, g.holds t → g.AddsAt t last L)
    (hok : ∀ o more rest, P o more → L (.ok ()) rest → Q o (more ++ rest))
    (herror : ∀ o f more rest, P o more → L (.error f) rest → Q (.error f) (more ++ rest)) :
    g.AddsAt s (body.andFinally last) Q := by
  unfold AddsAt
  rw [Flow.runFrom_andFinally]
  obtain ⟨ht, more, hl, hP⟩ := hb
  obtain ⟨hu, rest, hl', hL⟩ := hlast _ ht
  generalize last.runFrom (body.runFrom s).2 = r at hu hl' hL ⊢
  have hlist : g.list r.2 = g.list s ++ (more ++ rest) := by
    rw [hl', hl, List.append_assoc]
  rcases r with ⟨f | ⟨⟩, u⟩
  · exact ⟨hu, more ++ rest, hlist, herror _ f more rest hP hL⟩
  · exact ⟨hu, more ++ rest, hlist, hok _ more rest hP hL⟩

/-- What goes for a flow goes for it with one at its end that adds nothing but may fail. -/
theorem AddsAt.andFinally_nil {s : Session σ} {last : Flow σ Unit} (hb : g.AddsAt s body P)
    (hlast : ∀ t, g.holds t → g.AddsAt t last fun _ more => more = [])
    (hfail : ∀ o f more, P o more → P (.error f) more) : g.AddsAt s (body.andFinally last) P := by
  refine .andFinally hb hlast ?_ ?_
  · rintro o more rest hP rfl
    rwa [List.append_nil]
  · rintro o f more rest hP rfl
    rw [List.append_nil]
    exact hfail o f more hP

end

namespace Adds

variable {body : Flow σ α} {P Q : Except Failure α → List ε → Prop}

/-- What two rules say of what a flow adds holds of the same list. -/
theorem and (hP : g.Adds body P) (hQ : g.Adds body Q) :
    g.Adds body fun o more => P o more ∧ Q o more := by
  intro s hs
  obtain ⟨ht, more, hl, hP⟩ := hP s hs
  obtain ⟨-, more', hl', hQ⟩ := hQ s hs
  obtain rfl : more = more' := List.append_cancel_left (hl.symm.trans hl')
  exact ⟨ht, more, hl, hP, hQ⟩

theorem addsAt (h : g.Adds body P) {s : Session σ} (hs : g.holds s) : g.AddsAt s body P := h s hs

theorem mono (h : g.Adds body P) (hPQ : ∀ o more, P o more → Q o more) : g.Adds body Q :=
  fun s hs => AddsAt.mono (h s hs) hPQ

/-- A flow without effects adds nothing. -/
theorem ofExcept {outcome : Except Failure α} (h : P outcome []) :
    g.Adds (Flow.ofExcept outcome) P :=
  fun _ hs => ⟨hs, [], (List.append_nil _).symm, h⟩

theorem pure {a : α} (h : P (.ok a) []) : g.Adds (Pure.pure a) P :=
  ofExcept h

theorem throw {f : Failure} (h : P (.error f) []) : g.Adds (MonadExcept.throw f) P :=
  ofExcept h

/-- The second flow adds after the first, unless that has failed. -/
theorem bind {next : α → Flow σ β} {R : Except Failure β → List ε → Prop} (hb : g.Adds body P)
    (herror : ∀ f more, P (.error f) more → R (.error f) more)
    (hok : ∀ a more, P (.ok a) more → g.Adds (next a) fun o rest => R o (more ++ rest)) :
    g.Adds (body >>= next) R := by
  intro s hs
  exact AddsAt.bind (hb s hs) herror fun a more t _ ht hP => hok a more hP t ht

theorem last {next : α → Flow σ β} {R : Bool → List ε → Prop}
    (hfail : ∀ more, R true more → R false more)
    (hb : g.Adds body fun o more => R o.isOk more)
    (hn : ∀ a, g.Adds (next a) fun _ more => more = []) :
    g.Adds (body >>= next) fun o more => R o.isOk more :=
  fun _ hs => AddsAt.last hfail (hb.addsAt hs) fun a _ ht => (hn a).addsAt ht

/-- Flows that add nothing, one after the other. -/
theorem bind_nil {next : α → Flow σ β} (hb : g.Adds body fun _ more => more = [])
    (hn : ∀ a, g.Adds (next a) fun _ more => more = []) :
    g.Adds (body >>= next) fun _ more => more = [] := by
  refine .bind hb (fun _ _ h => h) fun a more hm => .mono (hn a) ?_
  rintro o rest rfl
  rw [hm, List.append_nil]

/-- What has no effects adds nothing, and what is known of its outcome is known afterwards. -/
theorem bind_ofExcept {outcome : Except Failure α} {next : α → Flow σ β}
    {R : Except Failure β → List ε → Prop}
    (herror : ∀ f, outcome = .error f → R (.error f) [])
    (hok : ∀ a, outcome = .ok a → g.Adds (next a) R) :
    g.Adds (Flow.ofExcept outcome >>= next) R := by
  refine .bind (P := fun o more => o = outcome ∧ more = []) (.ofExcept ⟨rfl, rfl⟩) ?_ ?_
  · rintro f more ⟨hf, rfl⟩
    exact herror f hf.symm
  · rintro a more ⟨ha, rfl⟩
    exact hok a ha.symm

/-- Nothing is added after a failure. -/
theorem bind_throw {f : Failure} {next : α → Flow σ β} {R : Except Failure β → List ε → Prop}
    (h : R (.error f) []) : g.Adds (MonadExcept.throw f >>= next) R := by
  refine .bind (P := fun o more => o = .error f ∧ more = []) (.throw ⟨rfl, rfl⟩) ?_ ?_
  · rintro g more ⟨hg, rfl⟩
    cases hg
    exact h
  · rintro a more ⟨ha, -⟩
    cases ha

/-- A result is passed on in another form, which adds nothing. -/
theorem bind_pure {f : α → β} {Q : List ε → Prop} (h : g.Adds body fun _ more => Q more) :
    g.Adds (body >>= fun a => Pure.pure (f a)) fun _ more => Q more := by
  refine .bind h (fun _ _ hq => hq) fun a more hq => .pure ?_
  rwa [List.append_nil]

/-- The last flow adds after the first however that has ended. -/
theorem andFinally {last : Flow σ Unit} {L : Except Failure Unit → List ε → Prop}
    (hb : g.Adds body P) (hlast : g.Adds last L)
    (hok : ∀ o more rest, P o more → L (.ok ()) rest → Q o (more ++ rest))
    (herror : ∀ o f more rest, P o more → L (.error f) rest → Q (.error f) (more ++ rest)) :
    g.Adds (body.andFinally last) Q :=
  fun _ hs => AddsAt.andFinally (hb.addsAt hs) (fun _ ht => hlast.addsAt ht) hok herror

theorem andFinally_nil {last : Flow σ Unit} (hb : g.Adds body P)
    (hlast : g.Adds last fun _ more => more = [])
    (hfail : ∀ o f more, P o more → P (.error f) more) : g.Adds (body.andFinally last) P :=
  fun _ hs => AddsAt.andFinally_nil (hb.addsAt hs) (fun _ ht => hlast.addsAt ht) hfail

/-- A discreet flow adds nothing. -/
theorem discreet (hb : body.Discreet) : g.Adds body fun _ more => more = [] := by
  intro s hs
  have ha := (hb s).1
  exact ⟨g.holds_alike ha hs, [], by rw [g.list_alike ha, List.append_nil], rfl⟩

/-- A log line adds nothing; it is only refused where records may be. -/
theorem logWith {logger message : String} {level : Nat} {entries : List (String × Value)}
    (he : Log.Bindable entries) :
    g.Adds (Log.logWith logger level message entries : Flow σ Unit) fun o more =>
      more = [] ∧ (g.writable → o = .ok ()) := by
  intro s hs
  obtain ⟨ht, more, hl, hm⟩ := discreet (Log.discreet_logWith logger level message entries) s hs
  exact ⟨ht, more, hl, hm, fun hw => Log.logWith_ok (g.log_writable hw hs) logger level message he⟩

end Adds

end Gauge

end Stowage
