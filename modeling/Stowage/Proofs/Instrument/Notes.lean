import Stowage.Proofs.Instrument.Mirror

/-!
Notes: what happens while a flow runs, written down on the way.

`Noted` is a world with a list of notes beside it. Taking a note changes nothing else, so a flow
that takes notes mirrors the one that does not. `Flow.Takes` says from which sessions a flow sets
out, and what goes for its outcome, the session after it and the notes it has taken.
-/

namespace Stowage

variable {σ ν α β : Type}

/-- A world in which notes are taken. -/
structure Noted (σ ν : Type) where
  inner : σ
  notes : List ν := []

/-- The world that notes are taken in. -/
def Noted.slot : Slot (Noted σ ν) σ := ⟨inner, fun inner w => { w with inner }⟩

/-- A session with another note taken. -/
def Session.jotted (n : ν) (s : Session (Noted σ ν)) : Session (Noted σ ν) :=
  { s with world := { s.world with notes := s.world.notes ++ [n] } }

namespace Flow

/-- Take a note. -/
def note (n : ν) : Flow (Noted σ ν) Unit := ofStep fun s => (.ok (), s.jotted n)

theorem runFrom_note (n : ν) (s : Session (Noted σ ν)) :
    (note n).runFrom s = (.ok (), s.jotted n) := rfl

/-- A flow, and a note of its outcome. -/
def noting (n : Except Failure α → ν) (body : Flow (Noted σ ν) α) : Flow (Noted σ ν) α := do
  let outcome ← body.attempt
  note (n outcome)
  ofExcept outcome

variable {large : Flow (Noted σ ν) α} {small : Flow σ α}

/-- A note is not seen. -/
theorem Mirrors.note (h : Mirrors Noted.slot large small) (n : ν) :
    Mirrors Noted.slot (do note n; large) small := by
  intro s
  rw [runFrom_bind_ok (runFrom_note n s)]
  exact h (s.jotted n)

theorem Mirrors.noting (h : Mirrors Noted.slot large small) (n : Except Failure α → ν) :
    Mirrors Noted.slot (noting n large) small := by
  intro s
  rw [h s]
  rfl

/-! ## What is noted -/

/-- From a session in which `before` holds, a flow takes notes that go with its outcome and with the
session after it as `after` says. -/
def Takes (before : Session (Noted σ ν) → Prop) (body : Flow (Noted σ ν) α)
    (after : Except Failure α → Session (Noted σ ν) → List ν → Prop) : Prop :=
  ∀ s, before s → ∃ more, (body.runFrom s).2.world.notes = s.world.notes ++ more ∧
    after (body.runFrom s).1 (body.runFrom s).2 more

namespace Takes

variable {before : Session (Noted σ ν) → Prop} {body : Flow (Noted σ ν) α}
  {P Q : Except Failure α → Session (Noted σ ν) → List ν → Prop}

theorem mono (h : Takes before body P) (hPQ : ∀ o t more, P o t more → Q o t more) :
    Takes before body Q := by
  intro s hs
  obtain ⟨more, hnotes, hP⟩ := h s hs
  exact ⟨more, hnotes, hPQ _ _ _ hP⟩

theorem ofExcept {outcome : Except Failure α} (h : ∀ s, before s → P outcome s []) :
    Takes before (Flow.ofExcept outcome) P :=
  fun s hs => ⟨[], (List.append_nil _).symm, h s hs⟩

/-- What a flow does when it goes on with the outcome of another one. -/
theorem bind_attempt {next : Except Failure α → Flow (Noted σ ν) β}
    {R : Except Failure β → Session (Noted σ ν) → List ν → Prop} (h : Takes before body P)
    (hnext : ∀ o more, Takes (fun t => P o t more) (next o)
      fun o' t rest => R o' t (more ++ rest)) :
    Takes before (body.attempt >>= next) R := by
  intro s hs
  obtain ⟨more, hnotes, hP⟩ := h s hs
  obtain ⟨rest, hrest, hR⟩ := hnext _ more _ hP
  rw [runFrom_bind_ok (runFrom_attempt body s)]
  refine ⟨more ++ rest, ?_, hR⟩
  rw [hrest, hnotes, List.append_assoc]

/-- What a flow does when it goes on after another one that succeeds. -/
theorem bind_ok {next : α → Flow (Noted σ ν) β} {a : α}
    {after : Session (Noted σ ν) → List ν → Prop}
    {R : Except Failure β → Session (Noted σ ν) → List ν → Prop}
    (h : Takes before body fun o t more => o = .ok a ∧ after t more)
    (hnext : ∀ more, Takes (fun t => after t more) (next a) fun o t rest => R o t (more ++ rest)) :
    Takes before (body >>= next) R := by
  intro s hs
  obtain ⟨more, hnotes, hok, hP⟩ := h s hs
  obtain ⟨rest, hrest, hR⟩ := hnext more _ hP
  rw [runFrom_bind_ok (Prod.ext hok rfl)]
  refine ⟨more ++ rest, ?_, hR⟩
  rw [hrest, hnotes, List.append_assoc]

/-- The same when it is known what is noted first. -/
theorem bind_exact {next : α → Flow (Noted σ ν) β} {a : α} {after : Session (Noted σ ν) → Prop}
    {first : List ν} {R : Except Failure β → Session (Noted σ ν) → List ν → Prop}
    (h : Takes before body fun o t more => o = .ok a ∧ after t ∧ more = first)
    (hnext : Takes after (next a) fun o t rest => R o t (first ++ rest)) :
    Takes before (body >>= next) R := by
  refine .bind_ok h fun more => ?_
  rintro s ⟨hs, rfl⟩
  exact hnext s hs

/-- A note, and what is noted after it. -/
theorem note_bind {n : ν} {next : Unit → Flow (Noted σ ν) α}
    (hbefore : ∀ s, before s → before (s.jotted n))
    (h : Takes before (next ()) fun o t more => P o t (n :: more)) :
    Takes before (note n >>= next) P := by
  intro s hs
  obtain ⟨more, hnotes, hP⟩ := h (s.jotted n) (hbefore s hs)
  rw [runFrom_bind_ok (runFrom_note n s)]
  refine ⟨n :: more, ?_, hP⟩
  rw [hnotes]
  exact List.append_assoc _ [n] more

/-- A part of the session is read. -/
theorem read_bind {γ : Type} {f : Session (Noted σ ν) → γ} {next : γ → Flow (Noted σ ν) α}
    (h : ∀ c, Takes before (next c) P) :
    Takes before ((ofStep fun s => (.ok (f s), s)) >>= next) P :=
  fun s hs => h (f s) s hs

/-- The outcome is noted last. -/
theorem noting {n : Except Failure α → ν} (h : Takes before body P)
    (hP : ∀ o t more, P o t more → Q o (t.jotted (n o)) (more ++ [n o])) :
    Takes before (noting n body) Q := by
  refine .bind_attempt h fun o more => fun t ht => ⟨[n o], rfl, hP o t more ht⟩

/-- What goes for the notes goes for the flow that takes none. -/
theorem exists_notes {small : Flow σ α} (h : Takes before body P)
    (hm : Mirrors Noted.slot body small) {s : Session σ}
    (hs : before (s.withWorld ⟨s.world, []⟩)) :
    ∃ notes, body.runFrom (s.withWorld ⟨s.world, []⟩) = ((small.runFrom s).1,
        (small.runFrom s).2.withWorld ⟨(small.runFrom s).2.world, notes⟩) ∧
      P (small.runFrom s).1
        ((small.runFrom s).2.withWorld ⟨(small.runFrom s).2.world, notes⟩) notes := by
  obtain ⟨notes, hnotes, hP⟩ := h _ hs
  have hsmall := hm (s.withWorld ⟨s.world, []⟩)
  change small.runFrom s = _ at hsmall
  rw [hsmall]
  generalize body.runFrom (s.withWorld ⟨s.world, []⟩) = r at hnotes hP ⊢
  obtain ⟨o, t⟩ := r
  have hall : t.world.notes = notes := hnotes
  subst hall
  exact ⟨_, rfl, hP⟩

end Takes

end Flow

end Stowage
