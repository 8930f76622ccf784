import Stowage.Proofs.Pool.Conservation

/-!
Pools at rest.

Books are quiescent when nobody holds a handle, none is retired and no more are cached than may be
idle (`Books.Quiescent`). Acquiring a handle then leaves it lent to one holder and everything else
at rest (`Change.lent`), or it fails and nothing has changed (`Source.leads_acquire_fails`); taking
the handle back leads to rest again (`Lent.release`). Of the clients of a pool at rest at most as
many are open as may be idle, and every other one has been closed once (`Quiescent.settled`).
-/

namespace Stowage.Pool

variable {σ κ α : Type}

/-! ## Eviction -/

/-- Idle handles are taken until there are enough of them or no more. -/
theorem length_takeIdle (excess : Nat) (l : List (Handle κ)) :
    (takeIdle excess l).1.length = min excess (l.countP Handle.isIdle) := by
  induction l generalizing excess with
  | nil => cases excess <;> simp [takeIdle]
  | cons h r ih =>
    cases excess with
    | zero => simp [takeIdle]
    | succ excess =>
      unfold takeIdle
      by_cases hidle : h.isIdle = true
      · rw [if_pos hidle, List.countP_cons_of_pos hidle]
        simp only [List.length_cons, ih]
        omega
      · rw [if_neg hidle, List.countP_cons_of_neg hidle]
        exact ih (excess + 1)

/-- Eviction leaves no more idle handles than there may be. -/
theorem countP_evict_le (pool : Pool κ) (maxIdle : Nat) :
    (pool.evict maxIdle).2.cached.countP Handle.isIdle ≤ maxIdle := by
  obtain ⟨hperm, hall, -⟩ := takeIdle_spec
    ((pool.cached.filter Handle.isIdle).length - maxIdle) pool.cached
  have htaken := length_takeIdle ((pool.cached.filter Handle.isIdle).length - maxIdle) pool.cached
  have hidle := List.countP_eq_length.2 hall
  have hsum := hperm.countP_eq Handle.isIdle
  rw [List.countP_append, hidle, htaken, ← List.countP_eq_length_filter] at hsum
  change (takeIdle _ pool.cached).2.countP Handle.isIdle ≤ maxIdle
  rw [← List.countP_eq_length_filter]
  omega

namespace Books

/-- The clients that have been opened and not closed, by their numbers. -/
def unclosed (b : Books κ) : List Nat := (List.range b.opened).filter fun k => k ∉ b.closed

/-- Nobody holds a handle, none is retired, and no more are cached than may be idle. -/
structure Quiescent (b : Books κ) (maxIdle : Nat) : Prop where
  balanced : b.Balanced
  idle : ∀ h ∈ b.pool.cached, h.isIdle = true
  retired : b.pool.retired = []
  bounded : b.pool.cached.length ≤ maxIdle

/-- A handle has one holder, and everything else is at rest. -/
structure Lent (b : Books κ) (a : Handle (Numbered κ)) : Prop where
  balanced : b.Balanced
  cached : a ∈ b.pool.cached
  once : a.holders = 1
  idle : ∀ h ∈ b.pool.cached, h.number ≠ a.number → h.isIdle = true
  retired : b.pool.retired = []

variable {b b' : Books κ} {maxIdle : Nat}

theorem Quiescent.empty : ({} : Books κ).Quiescent maxIdle where
  balanced := .empty
  idle := List.forall_mem_nil _
  retired := rfl
  bounded := Nat.zero_le maxIdle

/-! ## From rest to rest -/

/-- A handle that is given out while everything is at rest is lent to one holder. -/
theorem Change.lent {pipeline : Pipeline} {containerId : Int} {a : Handle (Numbered κ)}
    (hc : b.Change maxIdle (.acquire pipeline containerId) (.ok (some a)) b')
    (h : b.Quiescent maxIdle) : b'.Lent a := by
  have hb := h.balanced.change hc
  cases hc with
  | reused _ _ handle _ hcurrent hgiven =>
    cases Option.some.inj (hgiven _ rfl)
    have hm := (mem_of_current? hcurrent).1
    have hzero : handle.holders = 0 := by simpa [Handle.isIdle] using h.idle handle hm
    refine ⟨hb, List.mem_append_right _ List.mem_cons_self, ?_, fun c hcm hne => ?_, h.retired⟩
    · change handle.holders + 1 = 1
      rw [hzero]
    · rcases List.mem_append.1 hcm with hcm | hcm
      · exact h.idle c (List.mem_filter.1 hcm).1
      · rw [List.mem_singleton.1 hcm] at hne
        exact absurd rfl hne
  | opened _ _ client _ _ hgiven =>
    cases Option.some.inj (hgiven _ rfl)
    refine ⟨hb, List.mem_append_right _ List.mem_cons_self, rfl, fun c hcm hne => ?_, ?_⟩
    · rcases List.mem_append.1 hcm with hcm | hcm
      · exact h.idle c (List.mem_filter.1 hcm).1
      · rw [List.mem_singleton.1 hcm] at hne
        exact absurd rfl hne
    · -- the handle that makes way is idle, so that it is dropped and not retired
      change b.pool.retired ++ _ = []
      rw [h.retired, List.nil_append]
      refine List.filter_eq_nil_iff.2 fun old hold => ?_
      rw [h.idle old (mem_of_find? (Option.mem_toList.1 hold)).1]
      exact Bool.false_ne_true

/-- What is lent is found when it is taken back. -/
theorem Lent.release? {a : Handle (Numbered κ)} (h : b.Lent a) :
    b.pool.release? maxIdle a.number = some (b.pool.releaseCached maxIdle a) := by
  have hmeant : (a.number == a.number && !a.isIdle) = true := by
    simp [Handle.isIdle, h.once]
  cases hr : b.pool.release? maxIdle a.number with
  | none =>
    have hfound : (b.pool.cached.find? fun h => h.number == a.number && !h.isIdle).isSome :=
      List.find?_isSome.2 ⟨a, h.cached, hmeant⟩
    unfold Pool.release? at hr
    simp only [h.retired, List.find?_nil] at hr
    split at hr
    · cases hr
    · cases hr
    · rename_i hnone
      rw [hnone] at hfound
      cases hfound
  | some r =>
    obtain ⟨gone, after⟩ := r
    obtain ⟨c, hn, -, ⟨hm, -⟩ | ⟨hm, he⟩⟩ := release?_cases hr
    · rw [h.retired] at hm
      cases hm
    · have hsame : c = a := h.balanced.wf.eq_of_number
        (List.mem_append_left _ (List.mem_append_left _ hm))
        (List.mem_append_left _ (List.mem_append_left _ h.cached)) hn
      rw [he, hsame]

/-- When what is lent is taken back, everything is at rest. -/
theorem Lent.release {a : Handle (Numbered κ)} {answer : Answer κ} (h : b.Lent a)
    (hc : b.Change maxIdle (.release a) answer b') : b'.Quiescent maxIdle := by
  have hb := h.balanced.change hc
  have hrelease : b.pool.release? maxIdle a.number = some (b.pool.releaseCached maxIdle a) :=
    h.release?
  cases hc with
  | ignored _ hr =>
    rw [hrelease] at hr
    cases hr
  | released _ gone pool hr =>
    obtain ⟨rfl, rfl⟩ := Prod.mk.inj (Option.some.inj (hrelease.symm.trans hr))
    have hidle : ∀ c ∈ b.pool.cached.map (fun r => if r.number == a.number then a.letGo else r),
        c.isIdle = true := by
      intro c hcm
      obtain ⟨r, hr, rfl⟩ := List.mem_map.1 hcm
      split
      · simp [Handle.isIdle, Handle.letGo, h.once]
      · rename_i hne
        exact h.idle r hr fun heq => hne (beq_iff_eq.2 heq)
    obtain ⟨-, -, hsub⟩ := takeIdle_spec
      (((b.pool.cached.map fun r => if r.number == a.number then a.letGo else r).filter
        Handle.isIdle).length - maxIdle)
      (b.pool.cached.map fun r => if r.number == a.number then a.letGo else r)
    have hrest : ∀ c ∈ (b.pool.releaseCached maxIdle a).2.cached, c.isIdle = true :=
      fun c hcm => hidle c (hsub.subset hcm)
    refine ⟨hb, hrest, h.retired, ?_⟩
    change (b.pool.releaseCached maxIdle a).2.cached.length ≤ maxIdle
    rw [← List.countP_eq_length.2 hrest]
    exact countP_evict_le _ maxIdle

/-- A pool that is closed is at rest. -/
theorem Change.quiescent_of_close {answer : Answer κ} (h : b.Balanced)
    (hc : b.Change maxIdle .close answer b') : b'.Quiescent maxIdle ∧ b'.pool.tracked = [] := by
  have hb := h.change hc
  cases hc
  exact ⟨⟨hb, List.forall_mem_nil _, rfl, Nat.zero_le maxIdle⟩, rfl⟩

/-! ## Clients of a pool at rest -/

/-- The clients that are open are those of the handles that are kept. -/
theorem Balanced.unclosed_perm (h : b.Balanced) :
    b.unclosed.Perm (b.pool.tracked.map fun a => a.client.number) := by
  have hnodup : b.unclosed.Nodup := List.nodup_range.filter _
  rw [List.perm_iff_count]
  intro k
  by_cases hk : k < b.opened
  · have hone := h.count_eq_one hk
    by_cases hclosed : k ∈ b.closed
    · have hnone : k ∉ b.unclosed := by simp [unclosed, hclosed]
      have hpos := List.count_pos_iff.2 hclosed
      rw [List.count_eq_zero.2 hnone]
      omega
    · have hsome : k ∈ b.unclosed := by simp [unclosed, hclosed, hk]
      rw [List.count_eq_one_of_mem hnodup hsome]
      rw [List.count_eq_zero.2 hclosed] at hone
      omega
  · have hnone : k ∉ b.unclosed := by simp [unclosed, hk]
    have hnew : k ∉ b.pool.tracked.map fun a => a.client.number := by
      intro hm
      obtain ⟨a, ha, rfl⟩ := List.mem_map.1 hm
      have hmem : a ∈ b.pool.handles := List.mem_append_left _ ha
      rw [h.numbered a hmem, h.opened] at hk
      exact hk (h.wf.number_lt hmem)
    rw [List.count_eq_zero.2 hnone, List.count_eq_zero.2 hnew]

/-- A client that is not open has been closed, and only once. -/
theorem Balanced.closed_once (h : b.Balanced) {k : Nat} (hk : k < b.opened)
    (hc : k ∉ b.unclosed) : b.closed.count k = 1 := by
  have hone := h.count_eq_one hk
  have hclosed : k ∈ b.closed := by simpa [unclosed, hk] using hc
  have hpos := List.count_pos_iff.2 hclosed
  omega

/-- What there is to say of a pool at rest: nobody holds a handle, none is retired, at most as many
clients are open as there may be idle handles, and every other client has been closed once. -/
theorem Quiescent.settled (h : b.Quiescent maxIdle) :
    (∀ a ∈ b.pool.tracked, a.holders = 0) ∧ b.pool.retired = [] ∧ b.unclosed.length ≤ maxIdle ∧
      ∀ k < b.opened, k ∉ b.unclosed → b.closed.count k = 1 := by
  have htracked : b.pool.tracked = b.pool.cached := by
    unfold tracked
    rw [h.retired, List.append_nil]
  refine ⟨fun a ha => ?_, h.retired, ?_, fun k hk => h.balanced.closed_once hk⟩
  · rw [htracked] at ha
    simpa [Handle.isIdle] using h.idle a ha
  · rw [h.balanced.unclosed_perm.length_eq, List.length_map, htracked]
    exact h.bounded

end Books

/-! ## Acquiring from a pool at rest -/

theorem Leads.and {body : Flow (Ledger σ κ) α} {b : Books κ}
    {P Q : Except Failure α → Books κ → Prop} (hP : Leads body b P) (hQ : Leads body b Q) :
    Leads body b fun o b' => P o b' ∧ Q o b' :=
  fun s hs hb => ⟨(hP s hs hb).1, (hP s hs hb).2, (hQ s hs hb).2⟩

namespace Source

variable {source : Source σ κ} {maxIdle : Nat} {b : Books κ}

/-- A handle with one holder can be logged, for a container whose identifier can be written. -/
theorem leads_logAcquired_once {h : Handle (Numbered κ)} (honce : h.holders = 1) {containerId : Int}
    (hid : Decimal.isOverlong containerId = false) :
    Leads (do
      Connector.logAcquired h containerId
      pure h : Flow (Ledger σ κ) (Handle (Numbered κ))) b fun o _ => ∀ f, o ≠ .error f := by
  refine .step (.logWith fun e he => ?_) (.pure nofun)
  simp only [List.mem_cons, List.not_mem_nil, or_false] at he
  rcases he with rfl | rfl | rfl
  · exact ⟨rfl, hid⟩
  · exact ⟨rfl, rfl⟩
  · rw [honce]
    exact ⟨rfl, by decide +kernel⟩

/-- Acquiring from a pool at rest, for a container whose identifier can be written, fails before
anything has changed. -/
theorem leads_acquire_fails (h : source.Orderly) (hb : b.Quiescent maxIdle) (pipeline : Pipeline)
    {containerId : Int} (hid : Decimal.isOverlong containerId = false) :
    Leads ((source.connector maxIdle).acquire pipeline containerId) b fun o b' =>
      ∀ f, o = .error f → b' = b := by
  unfold Connector.acquire
  by_cases hkey : pipeline.key = ""
  · simp only [hkey, if_true]
    exact .throw fun _ _ => rfl
  · simp only [hkey, if_false]
    refine .step leads_look ?_
    cases hc : b.pool.current? pipeline with
    | some handle =>
      have hzero : handle.holders = 0 := by
        simpa [Handle.isIdle] using hb.idle handle (mem_of_current? hc).1
      have honce : (b.pool.reuse handle).1.holders = 1 := by
        change handle.holders + 1 = 1
        rw [hzero]
      refine .step (leads_put (b.pool.reuse handle).2) (.step (.pure ⟨rfl, rfl⟩) ?_)
      exact .mono (leads_logAcquired_once honce hid) fun o _ ho f hf => absurd hf (ho f)
    | none =>
      refine .bind (leads_openHandle h pipeline) ?_ ?_
      · rintro f b' (⟨-, -, rfl⟩ | ⟨_, hok, -⟩) _ -
        · rfl
        · cases hok
      · rintro _ b' (⟨_, hf, -⟩ | ⟨client, hok, -⟩)
        · cases hf
        · cases hok
          exact .mono (leads_logAcquired_once rfl hid) fun o _ ho f hf => absurd hf (ho f)

/-- What comes of acquiring from a pool at rest: a failure that changes nothing, or a handle that is
lent to one holder. -/
theorem leads_acquire_lent (h : source.Orderly) (hb : b.Quiescent maxIdle) (pipeline : Pipeline)
    {containerId : Int} (hid : Decimal.isOverlong containerId = false) :
    Leads ((source.connector maxIdle).acquire pipeline containerId) b fun o b' =>
      (∃ f, o = .error f ∧ b' = b) ∨ ∃ a, o = .ok a ∧ b'.Lent a := by
  refine .mono ((leads_acquire h pipeline containerId).and
    (leads_acquire_fails h hb pipeline hid)) ?_
  rintro (f | a) b' ⟨hchange, hfails⟩
  · exact .inl ⟨f, rfl, hfails f rfl⟩
  · exact .inr ⟨a, rfl, hchange.lent hb⟩

end Source

end Stowage.Pool
