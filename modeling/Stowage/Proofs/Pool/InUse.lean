import Stowage.Proofs.Pool.Conservation

/-!
A handle in use is never closed.

Unless the pool is closed, a handle that has been given out more often than it has been taken back is
still kept and its client is open, whatever else has been asked of the pool (`Run.in_use_open`). The
count is carried by `Books.InUse`: what has been given out has been taken back or is still held.
-/

namespace Stowage.Pool

variable {σ κ : Type}

namespace Served

/-- Whether the handle with a number has been given out. -/
def gives (e : Served κ) (number : Nat) : Bool :=
  match e.answer with
  | .ok (some h) => h.number == number
  | _ => false

/-- Whether it has been asked to take the handle with a number back. -/
def takes (e : Served κ) (number : Nat) : Bool :=
  match e.request with
  | .release h => h.number == number
  | _ => false

end Served

/-- How often the handle with a number has been given out. -/
def acquisitions (log : List (Served κ)) (number : Nat) : Nat := log.countP (·.gives number)

/-- How often it has been asked to take the handle with a number back. -/
def releases (log : List (Served κ)) (number : Nat) : Nat := log.countP (·.takes number)

theorem acquisitions_append (log : List (Served κ)) (e : Served κ) (number : Nat) :
    acquisitions (log ++ [e]) number =
      acquisitions log number + if e.gives number then 1 else 0 := by
  simp [acquisitions, List.countP_cons]

theorem releases_append (log : List (Served κ)) (e : Served κ) (number : Nat) :
    releases (log ++ [e]) number = releases log number + if e.takes number then 1 else 0 := by
  simp [releases, List.countP_cons]

/-- An answer gives no other handle out than the one that it can have. -/
theorem number_of_gives {request : Request κ} {answer : Answer κ} {a : Handle (Numbered κ)}
    (ha : ∀ h', answer = .ok h' → h' = some a) {number : Nat}
    (hg : (⟨request, answer⟩ : Served κ).gives number = true) : a.number = number := by
  unfold Served.gives at hg
  split at hg
  · rename_i h heq
    cases Option.some.inj (ha _ heq)
    exact beq_iff_eq.1 hg
  · cases hg

namespace Books

variable {b b' : Books κ} {maxIdle : Nat}

/-- The client of a handle that is kept has not been closed. -/
theorem Balanced.not_mem_closed (h : b.Balanced) {a : Handle (Numbered κ)}
    (ha : a ∈ b.pool.tracked) : a.client.number ∉ b.closed := by
  have hmem : a ∈ b.pool.handles := List.mem_append_left _ ha
  have hlt : a.client.number < b.opened := by
    rw [h.numbered a hmem, h.opened]
    exact h.wf.number_lt hmem
  have hone := h.count_eq_one hlt
  have hkept : 0 < (b.pool.tracked.map fun a => a.client.number).count a.client.number :=
    List.count_pos_iff.2 (List.mem_map_of_mem ha)
  exact List.count_eq_zero.1 (by omega)

/-! ## Counting -/

/-- What has been given out has been taken back or is still held, and every handle that has been
given out is one of those that there have been. -/
structure InUse (b : Books κ) (log : List (Served κ)) : Prop where
  held : ∀ number, acquisitions log number ≤ releases log number + b.pool.holdings number
  issued : ∀ e ∈ log, ∀ a, e.answer = .ok (some a) →
    a.identity ∈ b.pool.handles.map Handle.identity

/-- The handles that there have been stay. -/
theorem Change.identity_mem {request : Request κ} {answer : Answer κ} (hw : b.pool.WF)
    (hc : b.Change maxIdle request answer b') {i : Nat × Pipeline × Numbered κ}
    (hi : i ∈ b.pool.handles.map Handle.identity) :
    i ∈ b'.pool.handles.map Handle.identity := by
  cases hc with
  | refused => exact hi
  | reused _ _ h _ hcurrent =>
    exact (moves_reuse hw (mem_of_current? hcurrent).1).identities.mem_iff.2 hi
  | opened pipeline _ client =>
    exact (enrol_identities pipeline ⟨b.opened, client⟩ hw).mem_iff.2 (List.mem_cons_of_mem _ hi)
  | ignored => exact hi
  | released _ _ _ hr => exact (moves_release hw hr).identities.mem_iff.2 hi
  | closed => exact (moves_clear b.pool).identities.mem_iff.2 hi

/-- A handle that is given out is cached, and fits the pipeline that it was acquired for. -/
theorem Change.acquired {request : Request κ} {answer : Answer κ} {a : Handle (Numbered κ)}
    (hc : b.Change maxIdle request answer b') (ha : answer = .ok (some a)) :
    a ∈ b'.pool.cached ∧ ∀ pipeline containerId, request = .acquire pipeline containerId →
      a.pipeline.key = pipeline.key ∧ a.pipeline.leader = pipeline.leader := by
  cases hc with
  | refused => cases ha
  | reused pipeline containerId h _ hcurrent hgiven =>
    cases Option.some.inj (hgiven _ ha)
    refine ⟨List.mem_append_right _ List.mem_cons_self, fun p id hr => ?_⟩
    cases hr
    exact (mem_of_current? hcurrent).2
  | opened pipeline containerId client _ _ hgiven =>
    cases Option.some.inj (hgiven _ ha)
    refine ⟨List.mem_append_right _ List.mem_cons_self, fun p id hr => ?_⟩
    cases hr
    exact ⟨rfl, rfl⟩
  | ignored => cases ha
  | released => cases ha
  | closed => cases ha

/-- A request other than to close the pool keeps the count. -/
theorem Change.held {request : Request κ} {answer : Answer κ} {log : List (Served κ)}
    (hw : b.pool.WF) (hc : b.Change maxIdle request answer b') (hopen : request ≠ .close)
    (number : Nat)
    (h : acquisitions log number ≤ releases log number + b.pool.holdings number) :
    acquisitions (log ++ [⟨request, answer⟩]) number ≤
      releases (log ++ [⟨request, answer⟩]) number + b'.pool.holdings number := by
  rw [acquisitions_append, releases_append]
  cases hc with
  | refused =>
    simp only [Served.gives, Served.takes, Bool.false_eq_true, if_false]
    omega
  | reused pipeline containerId handle _ hcurrent hgiven =>
    have hone := holdings_reuse hw (mem_of_current? hcurrent).1 number
    simp only [Served.takes]
    split
    · rename_i hg
      have hn : handle.number = number := number_of_gives hgiven hg
      rw [if_pos hn] at hone
      omega
    · omega
  | opened pipeline containerId client _ hcurrent hgiven =>
    have hone := holdings_enrol pipeline (Numbered.mk b.opened client) hw number
    change _ ≤ _ + (b.pool.enrol pipeline ⟨b.opened, client⟩).2.holdings number
    simp only [Served.takes]
    split
    · rename_i hg
      have hn : b.pool.opened = number := number_of_gives hgiven hg
      rw [if_pos hn] at hone
      omega
    · omega
  | ignored handle =>
    simp only [Served.gives, Bool.false_eq_true, if_false]
    omega
  | released handle gone pool hr =>
    have hone := holdings_release hw hr number
    change _ ≤ _ + pool.holdings number
    simp only [Served.gives, Served.takes, beq_iff_eq, Bool.false_eq_true, if_false]
    omega
  | closed => exact absurd rfl hopen

theorem InUse.history {log : List (Served κ)} (hb : b.Balanced) (h : b.InUse [])
    (hh : b.History maxIdle log b') (hopen : ∀ e ∈ log, e.request ≠ .close) :
    b'.InUse log := by
  induction hh with
  | start => exact h
  | change hh hc ih =>
    have ih := ih fun e he => hopen e (List.mem_append_left _ he)
    have hw := (hb.history hh).wf
    have hlast := hopen _ (List.mem_append_right _ List.mem_cons_self)
    refine ⟨fun number => hc.held hw hlast number (ih.held number), fun e he a ha => ?_⟩
    rcases List.mem_append.1 he with he | he
    · exact hc.identity_mem hw (ih.issued e he a ha)
    · rw [List.mem_singleton.1 he] at ha
      refine List.mem_map_of_mem (List.mem_append_left _ (List.mem_append_left _ ?_))
      exact (hc.acquired ha).1

/-! ## Handles that are gone -/

/-- A handle that there has been is no longer in the cache: it has been replaced, evicted or
closed. -/
def Gone (b : Books κ) (number : Nat) : Prop :=
  number < b.pool.opened ∧ ∀ a ∈ b.pool.cached, a.number ≠ number

theorem Gone.moves {number : Nat} (h : b.Gone number) {pool : Pool (Numbered κ)}
    {gone : List (Handle (Numbered κ))} (hm : Moves b.pool pool gone) :
    (close { b with pool } gone).Gone number := by
  refine ⟨Nat.lt_of_lt_of_eq h.1 hm.opened.symm, fun a ha heq => ?_⟩
  obtain ⟨a', ha', hi⟩ := List.mem_map.1 (hm.cached.subset (List.mem_map_of_mem ha))
  exact h.2 a' ha' ((congrArg Prod.fst hi).trans heq)

/-- A handle that is gone is not given out and does not come back. -/
theorem Gone.change {request : Request κ} {answer : Answer κ} {number : Nat}
    (h : b.Gone number) (hw : b.pool.WF) (hc : b.Change maxIdle request answer b') :
    b'.Gone number ∧ ∀ a, answer = .ok (some a) → a.number ≠ number := by
  cases hc with
  | refused => exact ⟨h, fun a ha => by cases ha⟩
  | reused _ _ handle _ hcurrent hgiven =>
    have hm := (mem_of_current? hcurrent).1
    refine ⟨h.moves (moves_reuse hw hm), fun a ha => ?_⟩
    cases Option.some.inj (hgiven _ ha)
    exact h.2 handle hm
  | opened pipeline _ client _ _ hgiven =>
    refine ⟨⟨Nat.lt_succ_of_lt h.1, fun a ha => ?_⟩, fun a ha => ?_⟩
    · rcases List.mem_append.1 ha with ha | ha
      · exact h.2 a (List.mem_filter.1 ha).1
      · rw [List.mem_singleton.1 ha]
        exact Nat.ne_of_gt h.1
    · cases Option.some.inj (hgiven _ ha)
      exact Nat.ne_of_gt h.1
  | ignored => exact ⟨h, fun a ha => by cases ha⟩
  | released _ _ _ hr => exact ⟨h.moves (moves_release hw hr), fun a ha => by cases ha⟩
  | closed => exact ⟨h.moves (moves_clear b.pool), fun a ha => by cases ha⟩

theorem Gone.history {log : List (Served κ)} {number : Nat} (h : b.Gone number)
    (hb : b.Balanced) (hh : b.History maxIdle log b') :
    b'.Gone number ∧ ∀ e ∈ log, ∀ a, e.answer = .ok (some a) → a.number ≠ number := by
  induction hh with
  | start => exact ⟨h, List.forall_mem_nil _⟩
  | change hh hc ih =>
    obtain ⟨hgone, hnot⟩ := ih.1.change (hb.history hh).wf hc
    refine ⟨hgone, fun e he => ?_⟩
    rcases List.mem_append.1 he with he | he
    · exact ih.2 e he
    · rw [List.mem_singleton.1 he]
      exact hnot

/-- A handle that is held more often than it has been taken back is kept. -/
theorem InUse.tracked {log : List (Served κ)} (h : b.InUse log) (hb : b.Balanced)
    {a : Handle (Numbered κ)} (ha : a.identity ∈ b.pool.handles.map Handle.identity)
    (hmore : releases log a.number < acquisitions log a.number) :
    ∃ k ∈ b.pool.tracked, k.identity = a.identity := by
  have hheld : 0 < b.pool.holdings a.number := by
    have hle := h.held a.number
    omega
  obtain ⟨k, hk, hn⟩ := exists_of_heldIn_pos hheld
  obtain ⟨a', ha', hi⟩ := List.mem_map.1 ha
  have hsame : k = a' :=
    hb.wf.eq_of_number (List.mem_append_left _ hk) ha' (hn.trans (congrArg Prod.fst hi).symm)
  exact ⟨k, hk, hsame ▸ hi⟩

end Books

/-- **A handle in use is never closed.** In every state of a pool that has not been closed:

- a handle that has been given out more often than it has been taken back is still kept, and its
  client has not been closed;
- a handle that is no longer cached is never given out again;
- what is acquired next for a pipeline has an open client and the key and leader of the pipeline. -/
theorem Run.in_use_open {source : Source σ κ} (h : source.Orderly) {maxIdle : Nat}
    {s t : Session (Ledger σ κ)} {log : List (Served κ)} (hs : Log.Writable s)
    (hempty : s.world.books = {}) (run : Run (source.connector maxIdle) s log t)
    (hopen : ∀ e ∈ log, e.request ≠ .close) :
    (∀ e ∈ log, ∀ a, e.answer = .ok (some a) →
      releases log a.number < acquisitions log a.number →
        (∃ k ∈ t.world.books.pool.tracked, k.identity = a.identity) ∧
          a.client.number ∉ t.world.books.closed) ∧
      (∀ number, t.world.books.Gone number →
        ∀ more u, Run (source.connector maxIdle) t more u →
          ∀ e ∈ more, ∀ a, e.answer = .ok (some a) → a.number ≠ number) ∧
      ∀ pipeline containerId a u,
        ((Request.acquire pipeline containerId).serve (source.connector maxIdle)).runFrom t =
            (.ok (some a), u) →
          a.client.number ∉ u.world.books.closed ∧ a.pipeline.key = pipeline.key ∧
            a.pipeline.leader = pipeline.leader := by
  obtain ⟨ht, hist⟩ := run.history h hs
  rw [hempty] at hist
  have hb := Books.Balanced.empty.history hist
  have hempty' : ({} : Books κ).InUse [] := ⟨fun _ => Nat.zero_le _, List.forall_mem_nil _⟩
  have huse := hempty'.history .empty hist hopen
  refine ⟨fun e he a ha hmore => ?_, fun number hgone more u hmore => ?_, ?_⟩
  · obtain ⟨k, hk, hi⟩ := huse.tracked hb (huse.issued e he a ha) hmore
    refine ⟨⟨k, hk, hi⟩, ?_⟩
    have hclient : k.client = a.client := congrArg (·.2.2) hi
    rw [← hclient]
    exact hb.not_mem_closed hk
  · exact (hgone.history hb (hmore.history h ht).2).2
  · intro pipeline containerId a u hacquired
    obtain ⟨-, hc⟩ := Source.serve_change h (.acquire pipeline containerId) t ht rfl
    rw [hacquired] at hc
    obtain ⟨hcached, hfits⟩ := hc.acquired rfl
    exact ⟨(hb.change hc).not_mem_closed (List.mem_append_left _ hcached),
      hfits pipeline containerId rfl⟩

/-- A handle is acquired, and its pipeline changes its leader while it is in use. -/
theorem Run.in_use_open_leaders :
    let c := stubborn.connector 4
    let s : Session (Ledger Unit Unit) := { world := { outside := () } }
    let pipeline : Pipeline :=
      ⟨some "p", ["n1", "n2"], "n1", .opened, .standAlone, .one, by decide⟩
    let moved : Pipeline := ⟨some "p", ["n1", "n2"], "n2", .opened, .standAlone, .one, by decide⟩
    let r := ((Request.acquire pipeline 7).serve c).runFrom s
    let r' := ((Request.acquire moved 8).serve c).runFrom r.2
    stubborn.Orderly ∧ Log.Writable s ∧ r'.2.world.books.opened = 2 ∧
      ∃ a, r.1 = .ok (some a) ∧ (∃ k ∈ r'.2.world.books.pool.tracked, k.identity = a.identity) ∧
        a.client.number ∉ r'.2.world.books.closed := by
  intro c s pipeline moved r r'
  have hs : Log.Writable s := .inr (List.forall_mem_nil _)
  have run : Run c s [⟨.acquire pipeline 7, r.1⟩, ⟨.acquire moved 8, r'.1⟩] r'.2 :=
    .serve (.serve .start (.acquire pipeline 7)) (.acquire moved 8)
  have huse := Run.in_use_open orderly_stubborn hs rfl run (fun e he => by
    rcases List.mem_cons.1 he with rfl | he
    · nofun
    · rw [List.mem_singleton.1 he]
      nofun)
  have hopened : r'.2.world.books.opened = 2 := by decide +kernel
  have hgiven : (⟨.acquire pipeline 7, r.1⟩ : Served Unit).gives 0 = true := by decide +kernel
  refine ⟨orderly_stubborn, hs, hopened, ?_⟩
  have hserved := hgiven
  clear_value r' r
  unfold Served.gives at hserved
  split at hserved
  · rename_i a ha
    have hnumber : a.number = 0 := beq_iff_eq.1 hserved
    refine ⟨a, ha, huse.1 _ List.mem_cons_self a ha ?_⟩
    rw [hnumber]
    exact List.countP_pos_iff.2 ⟨_, List.mem_cons_self, hgiven⟩
  · cases hserved

end Stowage.Pool
