import Stowage.Proofs.Pool.Acquiring
import Stowage.Proofs.Pool.Recency

/-!
Reference counts are exact, and stray releases do nothing.

A handle keeps its count wherever it is: in the cache, retired or dropped (`Pool.count`). One request
moves it by what the request gives out and by what it takes back from a handle that is kept and held
(`count_serve`); over a run that adds up to `Run.counts_exact`. A release of any other handle is
stray (`Stray`) and changes nothing at all.
-/

namespace Stowage.Pool

variable {σ κ : Type}

/-! ## Counts of a pool -/

/-- How often the handle with a number is held, or was when it was dropped. -/
def count (pool : Pool κ) (number : Nat) : Nat := heldIn pool.handles number

section Count

variable {pool after : Pool κ} {gone : List (Handle κ)} {maxIdle number : Nat}

theorem count_eq (pool : Pool κ) (number : Nat) :
    pool.count number = pool.holdings number + heldIn pool.dropped number :=
  heldIn_append pool.tracked pool.dropped number

/-- Where numbers are not repeated, only the handle with the number counts. -/
theorem heldIn_of_mem {l : List (Handle κ)} (hn : (l.map Handle.number).Nodup) {a : Handle κ}
    (ha : a ∈ l) : heldIn l a.number = a.holders := by
  induction l with
  | nil => cases ha
  | cons b r ih =>
    rw [List.map_cons, List.nodup_cons] at hn
    rw [heldIn_cons]
    rcases List.mem_cons.1 ha with rfl | ha
    · rw [if_pos rfl, heldIn_eq_zero fun c hc hcn => ?_]
      · rfl
      · exact absurd (hcn ▸ List.mem_map_of_mem hc) hn.1
    · have hne : b.number ≠ a.number := fun heq => hn.1 (heq ▸ List.mem_map_of_mem ha)
      rw [if_neg hne, Nat.zero_add, ih hn.2 ha]

theorem count_of_mem (hw : pool.WF) {a : Handle κ} (ha : a ∈ pool.handles) :
    pool.count a.number = a.holders :=
  heldIn_of_mem hw.nodup_numbers ha

theorem holdings_of_mem (hw : pool.WF) {a : Handle κ} (ha : a ∈ pool.tracked) :
    pool.holdings a.number = a.holders := by
  have hnodup := hw.nodup_numbers
  unfold handles at hnodup
  rw [List.map_append] at hnodup
  exact heldIn_of_mem (List.nodup_append.1 hnodup).1 ha

theorem count_reuse (hw : pool.WF) {h : Handle κ} (hc : h ∈ pool.cached) (number : Nat) :
    (pool.reuse h).2.count number = pool.count number + if h.number = number then 1 else 0 := by
  have hdropped : (pool.reuse h).2.dropped = pool.dropped := rfl
  rw [count_eq, count_eq, holdings_reuse hw hc, hdropped]
  omega

theorem count_enrol (hw : pool.WF) (pipeline : Pipeline) (client : κ) (number : Nat) :
    (pool.enrol pipeline client).2.count number =
      pool.count number + if pool.opened = number then 1 else 0 := by
  have hdropped : (pool.enrol pipeline client).2.dropped =
      pool.dropped ++ (pool.find? pipeline.key).toList.filter Handle.isIdle := rfl
  have hidle : heldIn ((pool.find? pipeline.key).toList.filter Handle.isIdle) number = 0 :=
    heldIn_idle (fun a ha => (List.mem_filter.1 ha).2) number
  rw [count_eq, count_eq, holdings_enrol pipeline client hw, hdropped, heldIn_append, hidle]
  omega

/-- What a release drops is idle. -/
theorem idle_of_release (hr : pool.release? maxIdle number = some (gone, after)) :
    ∀ a ∈ gone, a.isIdle = true := by
  obtain ⟨h, -, -, ⟨-, he⟩ | ⟨-, he⟩⟩ := release?_cases hr
  · rw [show gone = _ from congrArg Prod.fst he]
    unfold releaseRetired
    split
    · intro a ha
      rw [List.mem_singleton.1 ha]
      assumption
    · exact List.forall_mem_nil _
  · rw [show gone = _ from congrArg Prod.fst he]
    exact (takeIdle_spec _ _).2.1

theorem count_release (hw : pool.WF) (hr : pool.release? maxIdle number = some (gone, after))
    (n : Nat) : after.count n + (if number = n then 1 else 0) = pool.count n := by
  have hholdings := holdings_release hw hr n
  rw [count_eq, count_eq, (moves_release hw hr).dropped, heldIn_append,
    heldIn_idle (idle_of_release hr)]
  omega

/-- A release that finds nothing is of a handle that is not held. -/
theorem holdings_of_release?_none (hr : pool.release? maxIdle number = none) :
    pool.holdings number = 0 :=
  heldIn_eq_zero fun a ha hn => beq_iff_eq.1 (Books.idle_of_release?_none hr a ha hn)

theorem count_clear (pool : Pool κ) (number : Nat) :
    pool.clear.2.count number = pool.count number := by
  change heldIn (pool.dropped ++ pool.tracked) number = heldIn (pool.tracked ++ pool.dropped) number
  exact heldIn_perm List.perm_append_comm number

end Count

/-! ## Stray handles -/

/-- A handle that cannot be taken back: it is none of this pool's, nobody holds it, or it has been
dropped. -/
inductive Stray (pool : Pool κ) (number : Nat) : Prop
  | foreign : pool.opened ≤ number → Stray pool number
  | idle (a : Handle κ) : a ∈ pool.handles → a.number = number → a.holders = 0 → Stray pool number
  | dropped (a : Handle κ) : a ∈ pool.dropped → a.number = number → Stray pool number

theorem stray_iff {pool : Pool κ} (hw : pool.WF) {number : Nat} :
    pool.Stray number ↔ pool.holdings number = 0 := by
  have hsum := count_eq pool number
  refine ⟨fun h => ?_, fun h => ?_⟩
  · cases h with
    | foreign hnew =>
      refine heldIn_eq_zero fun a ha han => ?_
      exact absurd (hw.number_lt (List.mem_append_left _ ha)) (by omega)
    | idle a ha han hzero =>
      have hcount := count_of_mem hw ha
      rw [han] at hcount
      omega
    | dropped a ha han =>
      refine heldIn_eq_zero fun c hc hcn => ?_
      have hnodup := hw.nodup_numbers
      unfold handles at hnodup
      rw [List.map_append] at hnodup
      exact absurd (hcn.trans han.symm) ((List.nodup_append.1 hnodup).2.2 _
        (List.mem_map_of_mem hc) _ (List.mem_map_of_mem ha))
  · rcases Nat.lt_or_ge number pool.opened with hlt | hnew
    · obtain ⟨a, ha, rfl⟩ := List.mem_map.1 (hw.numbers.mem_iff.2 (List.mem_range.2 hlt))
      rcases List.mem_append.1 ha with htracked | hdropped
      · exact .idle a ha rfl ((holdings_of_mem hw htracked).symm.trans h)
      · exact .dropped a hdropped rfl
    · exact .foreign hnew

/-! ## Requests -/

variable {source : Source σ κ} {maxIdle : Nat} {s t : Session (Ledger σ κ)}
  {log : List (Served κ)}

/-- How many requests of a log have taken back a handle that was kept and held then. -/
def heeded (c : Connector (Ledger σ κ) (Numbered κ)) (number : Nat) :
    Session (Ledger σ κ) → List (Served κ) → Nat
  | _, [] => 0
  | s, e :: r =>
    (if e.takes number = true ∧ 0 < s.world.books.pool.holdings number then 1 else 0) +
      heeded c number ((e.request.serve c).runFrom s).2 r

theorem heeded_append {c : Connector (Ledger σ κ) (Numbered κ)} (run : Run c s log t) (number : Nat)
    (later : List (Served κ)) :
    heeded c number s (log ++ later) = heeded c number s log + heeded c number t later := by
  induction run generalizing later with
  | start => exact (Nat.zero_add _).symm
  | serve _ request ih =>
    rw [List.append_assoc, List.singleton_append, ih, ih]
    simp only [heeded, Nat.add_zero, Nat.add_assoc]

/-- A handle that is given out is counted, if the answer says so. -/
theorem gives_handOut (request : Request κ) (containerId : Int) (h : Handle (Numbered κ))
    (number : Nat) :
    ((⟨request, handOut containerId h⟩ : Served κ).gives number = true → h.number = number) ∧
      (handOut containerId h ≠ .error .overlongInteger →
        ((⟨request, handOut containerId h⟩ : Served κ).gives number = true ↔ h.number = number)) := by
  unfold handOut
  split
  · exact ⟨fun hg => (by cases hg), fun hne => absurd rfl hne⟩
  · exact ⟨fun hg => beq_iff_eq.1 hg, fun _ => beq_iff_eq⟩

theorem Acquisition.count {pipeline : Pipeline} {containerId : Int} {answer : Answer κ}
    {b' : Books κ} (ha : Acquisition source t pipeline containerId answer b')
    (hw : t.world.books.pool.WF) (number : Nat) :
    let given := (⟨.acquire pipeline containerId, answer⟩ : Served κ).gives number
    t.world.books.pool.count number + (if given then 1 else 0) ≤ b'.pool.count number ∧
      (answer ≠ .error .overlongInteger →
        t.world.books.pool.count number + (if given then 1 else 0) = b'.pool.count number) := by
  -- the count rises by one for a handle that is taken, and for no other
  have htaken : ∀ {a : Handle (Numbered κ)} {n n' : Nat},
      n' = n + (if a.number = number then 1 else 0) →
      let given := (⟨.acquire pipeline containerId, handOut containerId a⟩ : Served κ).gives number
      n + (if given then 1 else 0) ≤ n' ∧ (handOut containerId a ≠ .error .overlongInteger →
        n + (if given then 1 else 0) = n') := by
    rintro a n n' rfl given
    obtain ⟨hgives, hiff⟩ :=
      gives_handOut (.acquire pipeline containerId) containerId a number
    refine ⟨?_, fun hne => by simp only [given, hiff hne]⟩
    by_cases hg : given = true
    · have hnumber := hgives hg
      simp only [hg, hnumber, if_true, Nat.le_refl]
    · rw [if_neg hg]
      exact Nat.le_add_right _ _
  cases ha with
  | refused => exact ⟨Nat.le_refl _, fun _ => rfl⟩
  | reused handle _ hcurrent => exact htaken (count_reuse hw (mem_of_current? hcurrent).1 number)
  | opened client => exact htaken (count_enrol hw pipeline _ number)

/-- A release lowers the count of a handle that is kept and held; closing lowers none. -/
theorem Books.Change.count {b b' : Books κ} {request : Request κ} {answer : Answer κ}
    (hc : b.Change maxIdle request answer b') (hw : b.pool.WF)
    (hr : ∀ pipeline containerId, request ≠ .acquire pipeline containerId) (number : Nat) :
    b.pool.count number = b'.pool.count number +
      if (⟨request, answer⟩ : Served κ).takes number = true ∧ 0 < b.pool.holdings number
      then 1 else 0 := by
  cases hc with
  | refused pipeline containerId => exact absurd rfl (hr pipeline containerId)
  | reused pipeline containerId => exact absurd rfl (hr pipeline containerId)
  | opened pipeline containerId => exact absurd rfl (hr pipeline containerId)
  | ignored handle hnone =>
    rw [if_neg, Nat.add_zero]
    rintro ⟨htakes, hheld⟩
    rw [← beq_iff_eq.1 htakes, holdings_of_release?_none hnone] at hheld
    exact Nat.lt_irrefl 0 hheld
  | released handle gone pool hsome =>
    have hcount := count_release hw hsome number
    have hheld := holdings_release hw hsome number
    simp only [Served.takes, beq_iff_eq]
    change _ = pool.count number + _
    by_cases hn : handle.number = number
    · rw [if_pos hn] at hcount hheld
      rw [if_pos ⟨hn, by omega⟩, hcount]
    · rw [if_neg hn] at hcount
      rw [if_neg fun hboth => hn hboth.1, hcount]
  | closed => exact (count_clear b.pool number).symm

/-- A request raises a count where it gives the handle out, and lowers it where it is heeded. -/
theorem count_serve (h : source.Orderly) (ht : Log.Writable t) (hw : t.world.books.pool.WF)
    (request : Request κ) (number : Nat) :
    let c := source.connector maxIdle
    let r := (request.serve c).runFrom t
    let e : Served κ := ⟨request, r.1⟩
    let given := t.world.books.pool.count number + if e.gives number then 1 else 0
    let left := r.2.world.books.pool.count number + heeded c number t [e]
    given ≤ left ∧ (r.1 ≠ .error .overlongInteger → given = left) := by
  intro c r e given left
  by_cases hacquire : ∃ pipeline containerId, request = .acquire pipeline containerId
  · obtain ⟨pipeline, containerId, rfl⟩ := hacquire
    have ha : Arrives ((Request.acquire pipeline containerId).serve c) t _ :=
      Source.arrives_serve_acquire h ht pipeline containerId
    exact ha.2.count hw number
  · have hr : ∀ pipeline containerId, request ≠ .acquire pipeline containerId :=
      fun pipeline containerId heq => hacquire ⟨pipeline, containerId, heq⟩
    have hc : t.world.books.Change maxIdle request r.1 r.2.world.books :=
      (Source.serve_change h request t ht rfl).2
    have hnone : e.gives number = false := by
      unfold Served.gives
      rw [show e.answer = .ok none from hc.answer_ok hr]
    have hcount : given = left := by
      simp only [given, left, hnone, Bool.false_eq_true, if_false]
      exact hc.count hw hr number
    exact ⟨Nat.le_of_eq hcount, fun _ => hcount⟩

/-! ## Runs -/

/-- Every handle that has been given out is one of those that there have been. -/
theorem Books.History.issued {b b' : Books κ} (hb : b.Balanced) (h : b.History maxIdle log b') :
    ∀ e ∈ log, ∀ a, e.answer = .ok (some a) → a.identity ∈ b'.pool.handles.map Handle.identity := by
  induction h with
  | start => exact List.forall_mem_nil _
  | change hist hc ih =>
    intro e he a ha
    rcases List.mem_append.1 he with he | he
    · exact hc.identity_mem (hb.history hist).wf (ih e he a ha)
    · rw [List.mem_singleton.1 he] at ha
      have hcached := (hc.acquired ha).1
      exact List.mem_map_of_mem (List.mem_append_left _ (List.mem_append_left _ hcached))

/-- What has been dropped stays so. -/
theorem Books.Change.dropped {b b' : Books κ} {request : Request κ} {answer : Answer κ}
    (hc : b.Change maxIdle request answer b') (hw : b.pool.WF) :
    ∃ gone, b'.pool.dropped = b.pool.dropped ++ gone := by
  cases hc with
  | refused => exact ⟨[], (List.append_nil _).symm⟩
  | reused => exact ⟨[], (List.append_nil _).symm⟩
  | opened => exact ⟨_, rfl⟩
  | ignored => exact ⟨[], (List.append_nil _).symm⟩
  | released _ gone _ hr => exact ⟨gone, (moves_release hw hr).dropped⟩
  | closed => exact ⟨_, rfl⟩

/-- A handle that has been given out before the pool was closed has been dropped. -/
theorem Books.History.dropped_of_closed {b b' : Books κ} (hb : b.Balanced)
    (h : b.History maxIdle log b') {before later : List (Served κ)} {answer : Answer κ}
    (hlog : log = before ++ ⟨.close, answer⟩ :: later) :
    ∀ e ∈ before, ∀ a, e.answer = .ok (some a) → ∃ k ∈ b'.pool.dropped, k.number = a.number := by
  induction h generalizing later with
  | start => exact absurd hlog.symm (List.append_ne_nil_of_right_ne_nil _ (List.cons_ne_nil _ _))
  | @change log request answer' b' b'' hist hc ih =>
    intro e he a ha
    rcases List.eq_nil_or_concat' later with rfl | ⟨later', x, rfl⟩
    · -- the pool has just been closed
      obtain ⟨rfl, hlast⟩ := List.append_inj' hlog rfl
      cases hlast
      have hissued := hc.identity_mem (hb.history hist).wf (hist.issued hb e he a ha)
      cases hc with
      | closed =>
        obtain ⟨k, hk, hi⟩ := List.mem_map.1 hissued
        exact ⟨k, hk, congrArg Prod.fst hi⟩
    · rw [← List.cons_append, ← List.append_assoc] at hlog
      obtain ⟨hbefore, -⟩ := List.append_inj' hlog rfl
      obtain ⟨k, hk, hn⟩ := ih hbefore e he a ha
      obtain ⟨gone, hgone⟩ := hc.dropped (hb.history hist).wf
      exact ⟨k, hgone ▸ List.mem_append_left _ hk, hn⟩

theorem release?_of_stray {pool : Pool κ} (hw : pool.WF) {number : Nat} (h : pool.Stray number) :
    pool.release? maxIdle number = none := by
  cases hr : pool.release? maxIdle number with
  | none => rfl
  | some found =>
    obtain ⟨gone, after⟩ := found
    have hheld := holdings_release hw hr number
    rw [if_pos rfl, (stray_iff hw).1 h] at hheld
    exact absurd hheld (Nat.succ_ne_zero _)

/-- The line that a stray release logs. -/
def warnOfStray (handle : Handle (Numbered κ)) : Flow (Ledger σ κ) Unit :=
  Log.logWith logger Log.warning "release of untracked datanode handle ignored"
    [("pipeline", .text handle.key)]

theorem runFrom_release_of_stray (hw : t.world.books.pool.WF) {handle : Handle (Numbered κ)}
    (h : t.world.books.pool.Stray handle.number) :
    ((source.connector maxIdle).release handle).runFrom t = (warnOfStray handle).runFrom t := by
  have hnone : ((source.connector maxIdle).slot.get t.world).release?
      (source.connector maxIdle).maxIdle handle.number = none := release?_of_stray hw h
  unfold Connector.release Connector.releaseNumber
  rw [Flow.runFrom_bind_ok (Flow.runFrom_look _ t), hnone]
  rfl

/-- A stray release succeeds and does nothing but to log a line. -/
theorem serve_stray (ht : Log.Writable t) (hw : t.world.books.pool.WF)
    {handle : Handle (Numbered κ)} (h : t.world.books.pool.Stray handle.number) :
    let r := ((Request.release handle).serve (source.connector maxIdle)).runFrom t
    r.1 = .ok none ∧ r.2.world = t.world := by
  have hline : ((warnOfStray handle).runFrom t).1 = .ok () := by
    refine Log.logWith_ok ht logger Log.warning _ fun e he => ?_
    rw [List.mem_singleton.1 he]
    exact ⟨rfl, rfl⟩
  have hworld : ((warnOfStray handle).runFrom t).2.world = t.world :=
    (Log.discreet_logWith logger Log.warning _ _ t).1.world
  change ((_ >>= _ : Flow (Ledger σ κ) (Option (Handle (Numbered κ)))).runFrom t).1 = _ ∧
    ((_ >>= _ : Flow (Ledger σ κ) (Option (Handle (Numbered κ)))).runFrom t).2.world = _
  rw [Flow.runFrom_bind, runFrom_release_of_stray hw h]
  generalize (warnOfStray handle).runFrom t = r at hline hworld ⊢
  rcases r with ⟨f | ⟨⟩, u⟩
  · cases hline
  · exact ⟨rfl, hworld⟩

theorem Run.count_spec (h : source.Orderly) (hs : Log.Writable s) (hempty : s.world.books = {})
    (run : Run (source.connector maxIdle) s log t) (number : Nat) :
    let counted := t.world.books.pool.count number + heeded (source.connector maxIdle) number s log
    acquisitions log number ≤ counted ∧ (Logged log → counted = acquisitions log number) := by
  induction run with
  | start =>
    rw [hempty]
    exact ⟨Nat.zero_le _, fun _ => rfl⟩
  | @serve log t run request ih =>
    obtain ⟨ht, hist⟩ := run.history h hs
    rw [hempty] at hist
    have hw := (Books.Balanced.empty.history hist).wf
    have hserve : let r := (request.serve (source.connector maxIdle)).runFrom t
        _ ≤ _ ∧ (r.1 ≠ .error .overlongInteger → _ = _) := count_serve h ht hw request number
    obtain ⟨hle, heq⟩ := hserve
    intro counted
    simp only [counted]
    rw [heeded_append run, acquisitions_append]
    refine ⟨by omega, fun hlogged => ?_⟩
    have hbefore := ih.2 fun e he => hlogged e (List.mem_append_left _ he)
    have hlast := heq (hlogged _ (List.mem_append_right _ List.mem_cons_self))
    omega

/-- **Reference counts are exact, and stray releases are inert.** Whatever is asked of a pool, and
whichever clients fail to open or to close, every handle that has been given out is one of those that
there have been, and

- it is held as often as it has been given out, less the releases of it that came while it was kept
  and held; more often only if a number was too long to be logged, so that somebody was refused the
  handle that had been taken for him;
- it can be taken back as long as it is kept and held, and releasing any other handle (one of another
  pool, one that nobody holds, one that has been replaced or evicted) succeeds and leaves the world
  as it is;
- it is such another one if it was given out before the pool was closed.

Somebody who is refused a handle that has been taken for him cannot give it back, so that it stays
held for good (`Run.not_exact_refused`). -/
theorem Run.counts_exact (h : source.Orderly) (hs : Log.Writable s) (hempty : s.world.books = {})
    (run : Run (source.connector maxIdle) s log t) :
    let c := source.connector maxIdle
    let b := t.world.books
    (∀ e ∈ log, ∀ a, e.answer = .ok (some a) → a.identity ∈ b.pool.handles.map Handle.identity) ∧
      (∀ a ∈ b.pool.handles, acquisitions log a.number ≤ a.holders + heeded c a.number s log ∧
        (Logged log → a.holders + heeded c a.number s log = acquisitions log a.number)) ∧
      (∀ number, ¬ b.pool.Stray number ↔ ∃ a ∈ b.pool.tracked, a.number = number ∧ 0 < a.holders) ∧
      (∀ handle : Handle (Numbered κ), b.pool.Stray handle.number →
        let r := ((Request.release handle).serve c).runFrom t
        r.1 = .ok none ∧ r.2.world = t.world) ∧
      ∀ before answer later, log = before ++ ⟨.close, answer⟩ :: later →
        ∀ e ∈ before, ∀ a, e.answer = .ok (some a) → b.pool.Stray a.number := by
  intro c b
  obtain ⟨ht, hist⟩ := run.history h hs
  rw [hempty] at hist
  have hb : b.Balanced := Books.Balanced.empty.history hist
  refine ⟨hist.issued .empty, fun a ha => ?_, fun number => ?_, ?_, ?_⟩
  · rw [← count_of_mem hb.wf ha]
    exact run.count_spec h hs hempty a.number
  · rw [stray_iff hb.wf]
    refine ⟨fun hne => ?_, ?_⟩
    · by_contra hnone
      refine hne (heldIn_eq_zero fun a ha han => ?_)
      by_contra hheld
      exact hnone ⟨a, ha, han, Nat.pos_of_ne_zero hheld⟩
    · rintro ⟨a, ha, rfl, hheld⟩ hzero
      exact Nat.ne_of_gt hheld (by rw [← holdings_of_mem hb.wf ha, hzero])
  · exact fun handle => serve_stray ht hb.wf
  · intro before answer later hlog e he a ha
    obtain ⟨k, hk, hn⟩ := hist.dropped_of_closed .empty hlog e he a ha
    exact .dropped k hk hn

/-- A pipeline changes its leader while a handle is in use. Once that handle has been released, a
second release of it and the release of a handle of another pool, under the same key and held there,
leave the new one alone. -/
theorem Run.counts_exact_stray :
    let c := stubborn.connector 4
    let s : Session (Ledger Unit Unit) := { world := { outside := () } }
    let pipeline : Pipeline :=
      ⟨some "p", ["n1", "n2"], "n1", .opened, .standAlone, .one, by decide⟩
    let moved : Pipeline := ⟨some "p", ["n1", "n2"], "n2", .opened, .standAlone, .one, by decide⟩
    let first : Handle (Numbered Unit) := ⟨0, pipeline, ⟨0, ()⟩, 1⟩
    let foreign : Handle (Numbered Unit) := ⟨5, moved, ⟨5, ()⟩, 3⟩
    let r := ((Request.acquire pipeline 7).serve c).runFrom s
    let r' := ((Request.acquire moved 8).serve c).runFrom r.2
    let r'' := ((Request.release first).serve c).runFrom r'.2
    let log := [⟨.acquire pipeline 7, r.1⟩, ⟨.acquire moved 8, r'.1⟩, ⟨.release first, r''.1⟩]
    let b := r''.2.world.books
    stubborn.Orderly ∧ Log.Writable s ∧ Logged log ∧
      (b.pool.handles.map fun a => (a.number, a.holders)) = [(1, 1), (0, 0)] ∧
      (∀ a ∈ b.pool.handles, a.holders + heeded c a.number s log = acquisitions log a.number) ∧
      b.pool.Stray first.number ∧ b.pool.Stray foreign.number ∧
      (((Request.release first).serve c).runFrom r''.2).2.world = r''.2.world ∧
      (((Request.release foreign).serve c).runFrom r''.2).2.world = r''.2.world := by
  intro c s pipeline moved first foreign r r' r'' log b
  have hs : Log.Writable s := .inr (List.forall_mem_nil _)
  have run : Run c s log r''.2 :=
    .serve (.serve (.serve .start (.acquire pipeline 7)) (.acquire moved 8)) (.release first)
  have hexact := Run.counts_exact orderly_stubborn hs rfl run
  have hlogged : Logged log := by
    have hanswers : ∀ e ∈ log, e.answer.toOption.isSome = true := by decide +kernel
    intro e he heq
    have hsome := hanswers e he
    rw [heq] at hsome
    cases hsome
  have hheld : (b.pool.handles.map fun a => (a.number, a.holders)) = [(1, 1), (0, 0)] := by
    decide +kernel
  have hopened : b.pool.opened = 2 := by decide +kernel
  have hdropped : ∃ a ∈ b.pool.dropped, a.number = 0 := by decide +kernel
  clear_value log r'' r' r
  obtain ⟨-, hcounts, -, hinert, -⟩ := hexact
  obtain ⟨gone, hgone, hzero⟩ := hdropped
  have hfirst : b.pool.Stray first.number := .dropped gone hgone hzero
  have hforeign : b.pool.Stray foreign.number := .foreign (by rw [hopened]; decide)
  exact ⟨orderly_stubborn, hs, hlogged, hheld, fun a ha => (hcounts a ha).2 hlogged, hfirst,
    hforeign, (hinert first hfirst).2, (hinert foreign hforeign).2⟩

/-- A handle is taken but not given out: the id of the container is too long to be logged, or the
closing of the idle handle that it takes the place of is interrupted. Whoever acquires it after that
is its only holder, but it counts two. -/
theorem Run.not_exact_refused :
    let s : Session (Ledger Unit Unit) := { world := { outside := () } }
    let p : Pipeline := ⟨some "p", ["n1"], "n1", .opened, .standAlone, .one, by decide⟩
    let moved : Pipeline := ⟨some "p", ["n2"], "n2", .opened, .standAlone, .one, by decide⟩
    let long := Int.ofNat (Nat.pow 10 Decimal.maxDigits)
    let r := serveAll (stubborn.connector 4) s [.acquire p long, .acquire p 8]
    let r' := serveAll (interrupted.connector 4) s
      [.acquire p 7, .release ⟨0, p, ⟨0, ()⟩, 1⟩, .acquire moved 8, .acquire moved 9]
    stubborn.Orderly ∧ Log.Writable s ∧
      (Run (stubborn.connector 4) s r.1 r.2 ∧
        (r.2.world.books.pool.handles.map fun a => (a.number, a.holders)) = [(0, 2)] ∧
        acquisitions r.1 0 = 1 ∧ heeded (stubborn.connector 4) 0 s r.1 = 0) ∧
      (Run (interrupted.connector 4) s r'.1 r'.2 ∧
        (r'.2.world.books.pool.handles.map fun a => (a.number, a.holders)) = [(1, 2), (0, 0)] ∧
        acquisitions r'.1 1 = 1 ∧ heeded (interrupted.connector 4) 1 s r'.1 = 0) := by
  intro s p moved long r r'
  have run : Run (stubborn.connector 4) s r.1 r.2 := run_serveAll _ _ _
  have run' : Run (interrupted.connector 4) s r'.1 r'.2 := run_serveAll _ _ _
  refine ⟨orderly_stubborn, .inr (List.forall_mem_nil _), ⟨run, ?_⟩, run', ?_⟩
  · decide +kernel
  · decide +kernel

end Stowage.Pool
