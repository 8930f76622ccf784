import Stowage.Proofs.Pool.Counts

/-!
One pool inside another that may keep more idle handles.

Apart from idle handles that only the larger pool keeps (`Spare`), the two have the same handles
cached, in the same order and with the same holders (`Within`). What differs are their numbers: a
handle that the smaller pool has had to open again has another number there. So the relation
(`Nested`) carries along which handles have been lent by which steps (`Loan`). Releasing what is lent
and acquiring for a pipeline keep the two pools so.
-/

namespace Stowage.Pool

variable {σ κ : Type}

/-- What a step has acquired and nobody has given back: the numbers of the handles in the two
pools. -/
structure Loan where
  position : Nat
  small : Nat
  large : Nat
  deriving DecidableEq

/-- Handles of the two pools that were opened for the same pipeline and leader, and that are lent
alike. -/
structure Matched (lent : List Loan) (a a' : Handle κ) : Prop where
  key : a.key = a'.key
  leader : a.pipeline.leader = a'.pipeline.leader
  holders : a.holders = a'.holders
  loans : ∀ x ∈ lent, x.small = a.number ↔ x.large = a'.number

/-- A handle that nobody holds and that only the larger pool has. -/
structure Spare (lent : List Loan) (a' : Handle κ) : Prop where
  idle : a'.isIdle = true
  unlent : ∀ x ∈ lent, x.large ≠ a'.number

/-- The handles of a list in the smaller pool are those in the larger one but for spare ones, and
they are in the same order. -/
inductive Within (lent : List Loan) : List (Handle κ) → List (Handle κ) → Prop
  | nil : Within lent [] []
  | both {a a' : Handle κ} {l l' : List (Handle κ)} : Matched lent a a' → Within lent l l' →
    Within lent (a :: l) (a' :: l')
  | spare {a' : Handle κ} {l l' : List (Handle κ)} : Spare lent a' → Within lent l l' →
    Within lent l (a' :: l')

theorem Matched.isIdle {lent : List Loan} {a a' : Handle κ} (h : Matched lent a a') :
    a.isIdle = a'.isIdle := by
  unfold Handle.isIdle
  rw [h.holders]

/-! ## Lists of handles -/

namespace Within

variable {lent : List Loan} {l l' r r' : List (Handle κ)}

theorem append (h : Within lent l l') (hr : Within lent r r') : Within lent (l ++ r) (l' ++ r') := by
  induction h with
  | nil => exact hr
  | both hm _ ih => exact .both hm ih
  | spare hs _ ih => exact .spare hs ih

theorem filter {p : Handle κ → Bool} (hp : ∀ a a', Matched lent a a' → p a = p a')
    (h : Within lent l l') : Within lent (l.filter p) (l'.filter p) := by
  induction h with
  | nil => exact .nil
  | @both a a' l l' hm _ ih =>
    by_cases ha : p a = true
    · rw [List.filter_cons_of_pos ha, List.filter_cons_of_pos (hp a a' hm ▸ ha)]
      exact .both hm ih
    · rw [List.filter_cons_of_neg ha, List.filter_cons_of_neg (hp a a' hm ▸ ha)]
      exact ih
  | @spare a' l l' hs _ ih =>
    by_cases ha : p a' = true
    · rw [List.filter_cons_of_pos ha]
      exact .spare hs ih
    · rw [List.filter_cons_of_neg ha]
      exact ih

theorem mem_left (h : Within lent l l') : ∀ a ∈ l, ∃ a' ∈ l', Matched lent a a' := by
  induction h with
  | nil => exact List.forall_mem_nil _
  | @both a a' l l' hm _ ih =>
    intro b hb
    rcases List.mem_cons.1 hb with rfl | hb
    · exact ⟨a', List.mem_cons_self, hm⟩
    · obtain ⟨b', hb', hmb⟩ := ih b hb
      exact ⟨b', List.mem_cons_of_mem _ hb', hmb⟩
  | spare _ _ ih =>
    intro b hb
    obtain ⟨b', hb', hmb⟩ := ih b hb
    exact ⟨b', List.mem_cons_of_mem _ hb', hmb⟩

/-- As many more handles are idle in the larger pool as there are more. -/
theorem countP_isIdle (h : Within lent l l') :
    l'.countP Handle.isIdle + l.length = l.countP Handle.isIdle + l'.length := by
  induction h with
  | nil => rfl
  | both hm _ ih =>
    rw [List.countP_cons, List.countP_cons, hm.isIdle, List.length_cons, List.length_cons]
    omega
  | spare hs _ ih =>
    rw [List.countP_cons_of_pos hs.idle, List.length_cons]
    omega

/-- A handle is lent that is not among those of the lists. -/
theorem lend (h : Within lent l l') (x : Loan) (hl : ∀ a ∈ l, a.number ≠ x.small)
    (hl' : ∀ a' ∈ l', a'.number ≠ x.large) : Within (lent ++ [x]) l l' := by
  have hloans : ∀ {P : Loan → Prop}, (∀ y ∈ lent, P y) → P x → ∀ y ∈ lent ++ [x], P y := by
    intro P hlent hx y hy
    rcases List.mem_append.1 hy with hy | hy
    · exact hlent y hy
    · exact List.mem_singleton.1 hy ▸ hx
  induction h with
  | nil => exact .nil
  | @both a a' l l' hm _ ih =>
    have ha := hl a List.mem_cons_self
    have ha' := hl' a' List.mem_cons_self
    refine .both ⟨hm.key, hm.leader, hm.holders, hloans hm.loans ?_⟩ ?_
    · exact iff_of_false ha.symm ha'.symm
    · exact ih (fun b hb => hl b (List.mem_cons_of_mem _ hb))
        fun b hb => hl' b (List.mem_cons_of_mem _ hb)
  | @spare a' l l' hs _ ih =>
    refine .spare ⟨hs.idle, hloans hs.unlent (hl' a' List.mem_cons_self).symm⟩ ?_
    exact ih hl fun b hb => hl' b (List.mem_cons_of_mem _ hb)

end Within

/-! ## Giving back -/

/-- A handle after one holding of the handle with a number has been taken back. -/
def letGoAt (number : Nat) (a : Handle κ) : Handle κ := if a.number = number then a.letGo else a

@[simp] theorem number_letGoAt (number : Nat) (a : Handle κ) :
    (letGoAt number a).number = a.number := by
  unfold letGoAt
  split <;> rfl

@[simp] theorem pipeline_letGoAt (number : Nat) (a : Handle κ) :
    (letGoAt number a).pipeline = a.pipeline := by
  unfold letGoAt
  split <;> rfl

theorem map_letGoAt_of_ne {number : Nat} {l : List (Handle κ)} (h : ∀ a ∈ l, a.number ≠ number) :
    l.map (letGoAt number) = l :=
  (List.map_congr_left fun a ha => if_neg (h a ha)).trans (List.map_id l)

theorem Within.letGo {lent : List Loan} {l l' : List (Handle κ)} (h : Within lent l l') {x : Loan}
    (hx : x ∈ lent) :
    Within (lent.erase x) (l.map (letGoAt x.small)) (l'.map (letGoAt x.large)) := by
  have hrest : ∀ y ∈ lent.erase x, y ∈ lent := fun y hy => List.mem_of_mem_erase hy
  induction h with
  | nil => exact .nil
  | @both a a' l l' hm _ ih =>
    have hsame : a.number = x.small ↔ a'.number = x.large := by
      rw [eq_comm, hm.loans x hx, eq_comm]
    refine .both ⟨?_, ?_, ?_, fun y hy => ?_⟩ ih
    · simpa [Handle.key] using hm.key
    · simpa using hm.leader
    · unfold letGoAt
      by_cases ha : a.number = x.small
      · rw [if_pos ha, if_pos (hsame.1 ha)]
        exact congrArg (· - 1) hm.holders
      · rw [if_neg ha, if_neg (mt hsame.2 ha)]
        exact hm.holders
    · rw [number_letGoAt, number_letGoAt]
      exact hm.loans y (hrest y hy)
  | @spare a' l l' hs _ ih =>
    have ha' : letGoAt x.large a' = a' := if_neg (hs.unlent x hx).symm
    rw [List.map_cons, ha']
    exact .spare ⟨hs.idle, fun y hy => hs.unlent y (hrest y hy)⟩ ih

theorem takeIdle_idle {a : Handle κ} (ha : a.isIdle = true) (excess : Nat) (l : List (Handle κ)) :
    (takeIdle (excess + 1) (a :: l)).2 = (takeIdle excess l).2 := by
  rw [takeIdle, if_pos ha]

theorem takeIdle_held {a : Handle κ} (ha : ¬ a.isIdle = true) (excess : Nat)
    (l : List (Handle κ)) : (takeIdle excess (a :: l)).2 = a :: (takeIdle excess l).2 := by
  cases excess with
  | zero => rw [takeIdle_zero, takeIdle_zero]
  | succ excess => rw [takeIdle, if_neg ha]

/-- From the smaller pool no fewer idle handles are taken than from the larger one. Those that are
only taken from the smaller one are spare from then on. -/
theorem Within.takeIdle {lent : List Loan} {l l' : List (Handle κ)} (h : Within lent l l')
    (hunlent : ∀ a ∈ l, a.isIdle = true → ∀ x ∈ lent, x.small ≠ a.number) {excess excess' : Nat}
    (hle : excess' ≤ excess) :
    Within lent (Pool.takeIdle excess l).2 (Pool.takeIdle excess' l').2 := by
  induction h generalizing excess excess' with
  | nil => cases excess <;> cases excess' <;> exact .nil
  | @both a a' l l' hm _ ih =>
    have ih := @ih fun b hb => hunlent b (List.mem_cons_of_mem _ hb)
    by_cases ha : a.isIdle = true
    · have ha' : a'.isIdle = true := hm.isIdle ▸ ha
      have hspare : Spare lent a' := ⟨ha', fun x hx hlarge =>
        hunlent a List.mem_cons_self ha x hx ((hm.loans x hx).2 hlarge)⟩
      rcases excess with _ | excess
      · rw [Nat.le_zero.1 hle, takeIdle_zero, takeIdle_zero]
        have hrest := ih (Nat.le_refl 0)
        rw [takeIdle_zero, takeIdle_zero] at hrest
        exact .both hm hrest
      rw [takeIdle_idle ha]
      rcases excess' with _ | excess'
      · have hrest := ih (Nat.zero_le excess)
        rw [takeIdle_zero] at hrest ⊢
        exact .spare hspare hrest
      · rw [takeIdle_idle ha']
        exact ih (Nat.le_of_succ_le_succ hle)
    · rw [takeIdle_held ha, takeIdle_held (hm.isIdle ▸ ha)]
      exact .both hm (ih hle)
  | @spare a' l l' hs _ ih =>
    rcases excess' with _ | excess'
    · have hrest := ih hunlent (Nat.zero_le excess)
      rw [takeIdle_zero] at hrest ⊢
      exact .spare hs hrest
    · rw [takeIdle_idle hs.idle]
      exact ih hunlent (Nat.le_of_succ_le hle)

theorem length_takeIdle_rest (excess : Nat) (l : List (Handle κ)) :
    (takeIdle excess l).2.length + min excess (l.countP Handle.isIdle) = l.length := by
  have hperm := (takeIdle_spec excess l).1.length_eq
  rw [List.length_append, length_takeIdle] at hperm
  omega

/-! ## Pools -/

section Pools

variable {pool : Pool κ}

theorem WF.number_ne (hw : pool.WF) {a r : Handle κ} (ha : a ∈ pool.cached)
    (hr : r ∈ pool.retired) : a.number ≠ r.number := by
  have hnodup := hw.nodup_numbers
  unfold handles at hnodup
  rw [List.map_append, List.map_append] at hnodup
  have hdisjoint := (List.nodup_append.1 (List.nodup_append.1 hnodup).1).2.2
  exact hdisjoint _ (List.mem_map_of_mem ha) _ (List.mem_map_of_mem hr)

/-- What is cached under a key, as a list. -/
theorem toList_find? (hw : pool.WF) (key : String) :
    (pool.find? key).toList = pool.cached.filter fun a => a.key == key := by
  cases hfind : pool.find? key with
  | none =>
    have hnone := List.find?_eq_none.1 hfind
    exact (List.filter_eq_nil_iff.2 hnone).symm
  | some h =>
    obtain ⟨hmem, rfl⟩ := mem_of_find? hfind
    obtain ⟨before, after, hl, hothers⟩ := exists_split_cached hw hmem
    have hne : ∀ a ∈ before ++ after, ¬ (a.key == h.key) = true := by
      intro a ha hkey
      rw [← hothers] at ha
      have hother := (List.mem_filter.1 ha).2
      rw [bne, hkey] at hother
      cases hother
    have hbefore : (before.filter fun a => a.key == h.key) = [] :=
      List.filter_eq_nil_iff.2 fun a ha => hne a (List.mem_append_left _ ha)
    have hafter : (after.filter fun a => a.key == h.key) = [] :=
      List.filter_eq_nil_iff.2 fun a ha => hne a (List.mem_append_right _ ha)
    rw [hl, List.filter_append, List.filter_cons_of_pos (by simp), hbefore, hafter]
    rfl

theorem map_letGo_eq {l : List (Handle κ)} (hn : (l.map Handle.number).Nodup) {a : Handle κ}
    (ha : a ∈ l) :
    (l.map fun r => if r.number == a.number then a.letGo else r) = l.map (letGoAt a.number) := by
  refine List.map_congr_left fun r hr => ?_
  unfold letGoAt
  by_cases hra : r.number = a.number
  · rw [if_pos (beq_iff_eq.2 hra), if_pos hra, List.inj_on_of_nodup_map hn hr ha hra]
  · rw [if_neg (mt beq_iff_eq.1 hra), if_neg hra]

theorem filter_held {l : List (Handle κ)} (h : ∀ a ∈ l, a.isIdle = false) :
    (l.filter fun a => !a.isIdle) = l :=
  List.filter_eq_self.2 fun a ha => by rw [h a ha]; rfl

/-- A retired handle that is released stays only if somebody else holds it. -/
theorem WF.retired_releaseRetired (hw : pool.WF) (hheld : ∀ a ∈ pool.retired, a.isIdle = false)
    {r : Handle κ} (hr : r ∈ pool.retired) : (pool.releaseRetired r).2.retired =
      (pool.retired.map (letGoAt r.number)).filter fun a => !a.isIdle := by
  obtain ⟨before, later, -, hf, hmap⟩ := exists_split_of_nodup hw.nodup_retired hr
  have hrest : ∀ a ∈ before ++ later, a.isIdle = false := by
    intro a ha
    rw [← hf] at ha
    exact hheld a (List.mem_filter.1 ha).1
  rw [← map_letGo_eq hw.nodup_retired hr, hmap r.letGo]
  unfold releaseRetired
  by_cases hlast : r.letGo.isIdle = true
  · rw [if_pos hlast, List.filter_append, List.filter_cons_of_neg (by simp [hlast]),
      ← List.filter_append, filter_held hrest]
    exact hf
  · have hall : ∀ a ∈ before ++ r.letGo :: later, a.isIdle = false := by
      intro a ha
      rcases List.mem_cons.1 (List.perm_middle.mem_iff.1 ha) with rfl | ha
      · exact Bool.eq_false_iff.2 hlast
      · exact hrest a ha
    rw [if_neg hlast, filter_held hall]
    exact hmap r.letGo

theorem cached_releaseRetired (r : Handle κ) : (pool.releaseRetired r).2.cached = pool.cached := by
  unfold releaseRetired
  split <;> rfl

end Pools

namespace Books

variable {b b' : Books κ} {maxIdle number : Nat} {gone : List (Handle (Numbered κ))}
  {after : Pool (Numbered κ)}

/-- What a release leaves in the cache and of the retired handles. -/
theorem Tidy.release_spec (h : b.Tidy maxIdle)
    (hr : b.pool.release? maxIdle number = some (gone, after)) :
    let relaxed := b.pool.cached.map (letGoAt number)
    after.cached = (takeIdle (relaxed.countP Handle.isIdle - maxIdle) relaxed).2 ∧
      after.retired = (b.pool.retired.map (letGoAt number)).filter fun a => !a.isIdle := by
  have hw := h.balanced.wf
  intro relaxed
  obtain ⟨r, rfl, -, ⟨hm, he⟩ | ⟨hm, he⟩⟩ := release?_cases hr
  · have hcached : relaxed = b.pool.cached :=
      map_letGoAt_of_ne fun a ha => hw.number_ne ha hm
    have hroom : b.pool.cached.countP Handle.isIdle - maxIdle = 0 := Nat.sub_eq_zero_of_le h.bounded
    rw [show after = _ from congrArg Prod.snd he, cached_releaseRetired, hcached, hroom,
      takeIdle_zero]
    exact ⟨rfl, hw.retired_releaseRetired h.held hm⟩
  · have hretired : b.pool.retired.map (letGoAt r.number) = b.pool.retired :=
      map_letGoAt_of_ne fun a ha => (hw.number_ne hm ha).symm
    have hcached : b.pool.relaxed r = relaxed := map_letGo_eq hw.nodup_cached hm
    rw [show after = _ from congrArg Prod.snd he, releaseCached_eq, hcached, hretired,
      filter_held h.held, List.countP_eq_length_filter]
    exact ⟨rfl, rfl⟩

/-- Afterwards every handle that was kept is held as often as it is then. -/
theorem Tidy.holders_release (h : b.Tidy maxIdle)
    (hr : b.pool.release? maxIdle number = some (gone, after)) {a : Handle (Numbered κ)}
    (ha : a ∈ b.pool.tracked) : (letGoAt number a).holders = after.holdings a.number := by
  have hheld := holdings_of_mem h.balanced.wf ha
  have hless := holdings_release h.balanced.wf hr a.number
  unfold letGoAt
  by_cases hn : a.number = number
  · rw [if_pos hn.symm] at hless
    rw [if_pos hn]
    change a.holders - 1 = _
    omega
  · rw [if_neg (Ne.symm hn)] at hless
    rw [if_neg hn]
    omega

/-- A handle that is held is found when it is released. -/
theorem Change.released_of_held {a : Handle (Numbered κ)} {answer : Answer κ}
    (hc : b.Change maxIdle (.release a) answer b') (hheld : 0 < b.pool.holdings a.number) :
    ∃ gone after, b.pool.release? maxIdle a.number = some (gone, after) ∧ b'.pool = after ∧
      b'.opened = b.opened := by
  cases hc with
  | ignored _ hnone =>
    rw [holdings_of_release?_none hnone] at hheld
    exact absurd hheld (Nat.lt_irrefl 0)
  | released _ gone after hr => exact ⟨gone, after, hr, rfl, rfl⟩

/-- What a pool gains by handing out a handle for a pipeline: the handle comes last in the cache, in
the place of the one that was cached under its key, and has one more holder. -/
structure Gains (b b' : Books κ) (pipeline : Pipeline) (g : Handle (Numbered κ)) : Prop where
  cached : b'.pool.cached = b.pool.others pipeline.key ++ [g]
  key : g.key = pipeline.key
  leader : g.pipeline.leader = pipeline.leader
  holdings : ∀ n, b'.pool.holdings n = b.pool.holdings n + if g.number = n then 1 else 0

theorem gains_reuse (hw : b.pool.WF) {pipeline : Pipeline} {h : Handle (Numbered κ)}
    (hc : b.pool.current? pipeline = some h) :
    b.Gains { b with pool := (b.pool.reuse h).2 } pipeline h.hold := by
  obtain ⟨hmem, hkey, hleader⟩ := mem_of_current? hc
  refine ⟨?_, hkey, hleader, fun n => holdings_reuse hw hmem n⟩
  rw [← hkey]
  rfl

theorem gains_enrol (hw : b.pool.WF) (pipeline : Pipeline) (client : κ) :
    b.Gains (b.enrol pipeline client) pipeline (b.pool.enrol pipeline ⟨b.opened, client⟩).1 :=
  ⟨rfl, rfl, rfl, holdings_enrol pipeline _ hw⟩

/-- What is gained has a number that no other handle has. -/
theorem Gains.number_ne {pipeline : Pipeline} {g : Handle (Numbered κ)}
    (hg : b.Gains b' pipeline g) (hw : b'.pool.WF) :
    (∀ a ∈ b.pool.others pipeline.key, a.number ≠ g.number) ∧
      ∀ a ∈ b'.pool.retired, a.number ≠ g.number := by
  refine ⟨fun a ha => ?_, fun a ha => ?_⟩
  · have hnodup := hw.nodup_cached
    rw [hg.cached, List.map_append, List.map_singleton] at hnodup
    exact (List.nodup_append.1 hnodup).2.2 _ (List.mem_map_of_mem ha) _ List.mem_cons_self
  · refine (hw.number_ne ?_ ha).symm
    rw [hg.cached]
    exact List.mem_append_right _ List.mem_cons_self

/-- Of the release of a cached handle as many handles are gone as there are idle ones too many. -/
theorem Tidy.length_release (h : b.Tidy maxIdle)
    (hr : b.pool.release? maxIdle number = some (gone, after)) :
    after.cached.length +
        ((b.pool.cached.map (letGoAt number)).countP Handle.isIdle - maxIdle) =
      b.pool.cached.length := by
  have hrest := length_takeIdle_rest
    ((b.pool.cached.map (letGoAt number)).countP Handle.isIdle - maxIdle)
    (b.pool.cached.map (letGoAt number))
  rw [← (h.release_spec hr).1, List.length_map] at hrest
  omega

end Books

/-! ## Loans -/

/-- What is lent is held, at least as often. -/
def Covers (number : Loan → Nat) (lent : List Loan) (pool : Pool κ) : Prop :=
  ∀ n, lent.countP (fun x => number x = n) ≤ pool.holdings n

namespace Covers

variable {number : Loan → Nat} {lent : List Loan} {pool after : Pool κ} {x : Loan}

theorem holdings_pos (h : Covers number lent pool) (hx : x ∈ lent) :
    0 < pool.holdings (number x) := by
  have hcount : 0 < lent.countP (fun y => number y = number x) :=
    List.countP_pos_iff.2 ⟨x, hx, decide_eq_true rfl⟩
  exact Nat.lt_of_lt_of_le hcount (h _)

theorem lt_opened (h : Covers number lent pool) (hw : pool.WF) (hx : x ∈ lent) :
    number x < pool.opened := by
  obtain ⟨a, ha, hn⟩ := exists_of_heldIn_pos (h.holdings_pos hx)
  rw [← hn]
  exact hw.number_lt (List.mem_append_left _ ha)

theorem release (h : Covers number lent pool) (hw : pool.WF) {maxIdle : Nat}
    {gone : List (Handle κ)} (hx : x ∈ lent)
    (hr : pool.release? maxIdle (number x) = some (gone, after)) :
    Covers number (lent.erase x) after := by
  intro n
  have hless := holdings_release hw hr n
  have hbefore := h n
  rw [(List.perm_cons_erase hx).countP_eq, List.countP_cons] at hbefore
  simp only [decide_eq_true_eq] at hbefore
  omega

theorem gain (h : Covers number lent pool)
    (hx : ∀ n, after.holdings n = pool.holdings n + if number x = n then 1 else 0) :
    Covers number (lent ++ [x]) after := by
  intro n
  have hbefore := h n
  rw [hx, List.countP_append, List.countP_singleton]
  simp only [decide_eq_true_eq]
  omega

end Covers

/-! ## Two pools -/

/-- The larger pool has all that the smaller one has, and spare handles beside: no more of them than
it may keep more idle handles. What is lent is held in both. -/
structure Nested (maxIdle maxIdle' : Nat) (lent : List Loan) (b b' : Books κ) : Prop where
  tidy : b.Tidy maxIdle
  tidy' : b'.Tidy maxIdle'
  cached : Within lent b.pool.cached b'.pool.cached
  retired : Within lent b.pool.retired b'.pool.retired
  held : Covers Loan.small lent b.pool
  held' : Covers Loan.large lent b'.pool
  room : b'.pool.cached.length + maxIdle ≤ b.pool.cached.length + maxIdle'
  opened : b'.opened ≤ b.opened

theorem Within.length_le {lent : List Loan} {l l' : List (Handle κ)} (h : Within lent l l') :
    l.length ≤ l'.length := by
  induction h with
  | nil => exact Nat.le_refl 0
  | both _ _ ih => exact Nat.succ_le_succ ih
  | spare _ _ ih => exact Nat.le_succ_of_le ih

/-- Clients can always be opened. -/
def Source.Opens (source : Source σ κ) : Prop :=
  ∀ pipeline s, ∃ client, ((source.openClient pipeline).runFrom s).1 = .ok client

theorem Source.Opens.opening {source : Source σ κ} (h : source.Opens) (t : Session (Ledger σ κ))
    (pipeline : Pipeline) : ∃ client, source.opening t pipeline = .ok client :=
  h pipeline _

namespace Nested

variable {maxIdle maxIdle' : Nat} {lent : List Loan} {b b' b₁ b₁' : Books κ}

theorem empty (hle : maxIdle ≤ maxIdle') : Nested maxIdle maxIdle' [] ({} : Books κ) {} where
  tidy := .empty
  tidy' := .empty
  cached := .nil
  retired := .nil
  held _ := Nat.zero_le _
  held' _ := Nat.zero_le _
  room := Nat.add_le_add_left hle 0
  opened := Nat.le_refl 0

/-! ### Releasing -/

/-- A loan is given back to both pools. -/
theorem release (h : Nested maxIdle maxIdle' lent b b') {x : Loan} (hx : x ∈ lent)
    {a a' : Handle (Numbered κ)} {answer answer' : Answer κ} (ha : a.number = x.small)
    (ha' : a'.number = x.large) (hc : b.Change maxIdle (.release a) answer b₁)
    (hc' : b'.Change maxIdle' (.release a') answer' b₁') :
    Nested maxIdle maxIdle' (lent.erase x) b₁ b₁' := by
  obtain ⟨gone, after, hr, rfl, hopened⟩ :=
    hc.released_of_held (ha ▸ h.held.holdings_pos hx)
  obtain ⟨gone', after', hr', rfl, hopened'⟩ :=
    hc'.released_of_held (ha' ▸ h.held'.holdings_pos hx)
  rw [ha] at hr
  rw [ha'] at hr'
  obtain ⟨hcached, hretired⟩ := h.tidy.release_spec hr
  obtain ⟨hcached', hretired'⟩ := h.tidy'.release_spec hr'
  have hheld := h.held.release h.tidy.balanced.wf hx hr
  have hheld' := h.held'.release h.tidy'.balanced.wf hx hr'
  have hrelaxed := h.cached.letGo hx
  -- an idle handle is not held, so that it is not lent
  have hunlent : ∀ r ∈ b.pool.cached.map (letGoAt x.small), r.isIdle = true →
      ∀ y ∈ lent.erase x, y.small ≠ r.number := by
    intro r hmem hidle y hy hsmall
    obtain ⟨c, hcmem, rfl⟩ := List.mem_map.1 hmem
    rw [number_letGoAt] at hsmall
    have hholders := h.tidy.holders_release hr (List.mem_append_left _ hcmem)
    have hpos := hheld.holdings_pos hy
    have hzero : (letGoAt x.small c).holders = 0 := beq_iff_eq.1 hidle
    rw [hsmall, ← hholders, hzero] at hpos
    exact Nat.lt_irrefl 0 hpos
  have hidle := hrelaxed.countP_isIdle
  have hroom := h.room
  rw [List.length_map, List.length_map] at hidle
  refine ⟨h.tidy.change hc, h.tidy'.change hc', ?_, ?_, hheld, hheld', ?_, ?_⟩
  · rw [hcached, hcached']
    exact hrelaxed.takeIdle hunlent (by omega)
  · rw [hretired, hretired']
    exact (h.retired.letGo hx).filter fun r r' hm => by rw [hm.isIdle]
  · have hlength := h.tidy.length_release hr
    have hlength' := h.tidy'.length_release hr'
    omega
  · rw [hopened, hopened']
    exact h.opened

/-! ### Acquiring -/

theorem found (h : Nested maxIdle maxIdle' lent b b') (key : String) :
    Within lent (b.pool.find? key).toList (b'.pool.find? key).toList := by
  rw [toList_find? h.tidy.balanced.wf, toList_find? h.tidy'.balanced.wf]
  exact h.cached.filter fun a a' hm => by rw [hm.key]

theorem others (h : Nested maxIdle maxIdle' lent b b') (key : String) :
    Within lent (b.pool.others key) (b'.pool.others key) :=
  h.cached.filter fun a a' hm => by rw [hm.key]

/-- Both pools gain a handle for a pipeline, and that is lent. -/
theorem gain (h : Nested maxIdle maxIdle' lent b b') {pipeline : Pipeline}
    {g g' : Handle (Numbered κ)} (hg : b.Gains b₁ pipeline g) (hg' : b'.Gains b₁' pipeline g')
    (htidy : b₁.Tidy maxIdle) (htidy' : b₁'.Tidy maxIdle') (hholders : g.holders = g'.holders)
    (hloans : ∀ x ∈ lent, x.small = g.number ↔ x.large = g'.number)
    (hretired : Within lent b₁.pool.retired b₁'.pool.retired) (hopened : b₁'.opened ≤ b₁.opened)
    (position : Nat) :
    Nested maxIdle maxIdle' (lent ++ [⟨position, g.number, g'.number⟩]) b₁ b₁' := by
  obtain ⟨hothers, hapart⟩ := hg.number_ne htidy.balanced.wf
  obtain ⟨hothers', hapart'⟩ := hg'.number_ne htidy'.balanced.wf
  refine ⟨htidy, htidy', ?_, hretired.lend _ hapart hapart', h.held.gain hg.holdings,
    h.held'.gain hg'.holdings, ?_, hopened⟩
  · rw [hg.cached, hg'.cached]
    refine ((h.others pipeline.key).lend _ hothers hothers').append (.both ⟨?_, ?_, hholders, ?_⟩ .nil)
    · rw [hg.key, hg'.key]
    · rw [hg.leader, hg'.leader]
    · intro x hx
      rcases List.mem_append.1 hx with hx | hx
      · exact hloans x hx
      · rw [List.mem_singleton.1 hx]
        exact iff_of_true rfl rfl
  · have hlength := (cached_perm h.tidy.balanced.wf pipeline.key).length_eq
    have hlength' := (cached_perm h.tidy'.balanced.wf pipeline.key).length_eq
    have hfound := (h.found pipeline.key).length_le
    have hroom := h.room
    rw [List.length_append] at hlength hlength'
    simp only [hg.cached, hg'.cached, List.length_append, List.length_singleton]
    omega

/-- A handle that is current in the smaller pool is so in the larger one, and what is current in the
larger one only is spare. -/
theorem current (h : Nested maxIdle maxIdle' lent b b') (pipeline : Pipeline) :
    (∃ a a', b.pool.current? pipeline = some a ∧ b'.pool.current? pipeline = some a' ∧
        Matched lent a a') ∨
      (b.pool.find? pipeline.key = none ∧ ∃ a', b'.pool.current? pipeline = some a' ∧
        Spare lent a') ∨
      b.pool.current? pipeline = none ∧ b'.pool.current? pipeline = none := by
  have hfound := h.found pipeline.key
  unfold current?
  cases hf : b.pool.find? pipeline.key with
  | none =>
    cases hf' : b'.pool.find? pipeline.key with
    | none => exact .inr (.inr ⟨rfl, rfl⟩)
    | some a' =>
      rw [hf, hf'] at hfound
      by_cases hleader : (a'.pipeline.leader == pipeline.leader) = true
      · cases hfound with
        | spare hs => exact .inr (.inl ⟨rfl, a', by simp [Option.filter, hleader], hs⟩)
      · exact .inr (.inr ⟨rfl, by simp [Option.filter, hleader]⟩)
  | some a =>
    cases hf' : b'.pool.find? pipeline.key with
    | none =>
      rw [hf, hf'] at hfound
      cases hfound
    | some a' =>
      rw [hf, hf'] at hfound
      have hm : Matched lent a a' := by
        cases hfound with
        | both hm => exact hm
        | spare _ hrest => cases hrest
      by_cases hleader : (a.pipeline.leader == pipeline.leader) = true
      · have hleader' : (a'.pipeline.leader == pipeline.leader) = true := hm.leader ▸ hleader
        exact .inl ⟨a, a', by simp [Option.filter, hleader], by simp [Option.filter, hleader'], hm⟩
      · have hleader' : ¬ (a'.pipeline.leader == pipeline.leader) = true := hm.leader ▸ hleader
        exact .inr (.inr ⟨by simp [Option.filter, hleader], by simp [Option.filter, hleader']⟩)

/-- Handles for the same pipeline are acquired, with as many holders in both pools. -/
theorem acquire {source : Source σ κ} {t t' : Session (Ledger σ κ)} {pipeline : Pipeline}
    {containerId : Int} {answer answer' : Answer κ}
    (h : Nested maxIdle maxIdle' lent t.world.books t'.world.books) (hopens : source.Opens)
    (hkey : pipeline.key ≠ "") (ha : Acquisition source t pipeline containerId answer b₁)
    (ha' : Acquisition source t' pipeline containerId answer' b₁') (htidy : b₁.Tidy maxIdle)
    (htidy' : b₁'.Tidy maxIdle') (position : Nat) :
    ∃ g g', answer = handOut containerId g ∧ answer' = handOut containerId g' ∧
      g.holders = g'.holders ∧
      Nested maxIdle maxIdle' (lent ++ [⟨position, g.number, g'.number⟩]) b₁ b₁' := by
  have hw := h.tidy.balanced.wf
  have hw' := h.tidy'.balanced.wf
  have hnew : ∀ x ∈ lent, x.small ≠ t.world.books.pool.opened := fun x hx =>
    Nat.ne_of_lt (h.held.lt_opened hw hx)
  have hnew' : ∀ x ∈ lent, x.large ≠ t'.world.books.pool.opened := fun x hx =>
    Nat.ne_of_lt (h.held'.lt_opened hw' hx)
  obtain ⟨client, hopening⟩ := hopens.opening t pipeline
  obtain ⟨client', hopening'⟩ := hopens.opening t' pipeline
  rcases h.current pipeline with ⟨a, a', hc, hc', hm⟩ | ⟨hfind, a', hc', hs⟩ | ⟨hc, hc'⟩
  · obtain ⟨hanswer, rfl⟩ := ha.of_current hkey hc
    obtain ⟨hanswer', rfl⟩ := ha'.of_current hkey hc'
    have hholders : a.hold.holders = a'.hold.holders := congrArg (· + 1) hm.holders
    exact ⟨a.hold, a'.hold, hanswer, hanswer', hholders,
      h.gain (Books.gains_reuse hw hc) (Books.gains_reuse hw' hc')
      htidy htidy' hholders hm.loans h.retired h.opened position⟩
  · -- only the larger pool still has a handle
    have hc : t.world.books.pool.current? pipeline = none := by
      unfold current?
      rw [hfind]
      rfl
    obtain ⟨hanswer, rfl⟩ := ha.of_opening hkey hc hopening
    obtain ⟨hanswer', rfl⟩ := ha'.of_current hkey hc'
    have hholders : 1 = a'.hold.holders := congrArg (· + 1) (beq_iff_eq.1 hs.idle).symm
    have hretired : (t.world.books.enrol pipeline client).pool.retired =
        t.world.books.pool.retired := by
      change t.world.books.pool.retired ++ (Option.toList _).filter _ = _
      rw [hfind]
      exact List.append_nil _
    refine ⟨_, a'.hold, hanswer, hanswer', hholders, h.gain (Books.gains_enrol hw pipeline client)
      (Books.gains_reuse hw' hc') htidy htidy' hholders (fun x hx => ?_) ?_ ?_ position⟩
    · exact iff_of_false (hnew x hx) (hs.unlent x hx)
    · rw [hretired]
      exact h.retired
    · exact Nat.le_succ_of_le h.opened
  · obtain ⟨hanswer, rfl⟩ := ha.of_opening hkey hc hopening
    obtain ⟨hanswer', rfl⟩ := ha'.of_opening hkey hc' hopening'
    refine ⟨_, _, hanswer, hanswer', rfl, h.gain (Books.gains_enrol hw pipeline client)
      (Books.gains_enrol hw' pipeline client') htidy htidy' rfl (fun x hx => ?_) ?_ ?_ position⟩
    · exact iff_of_false (hnew x hx) (hnew' x hx)
    · exact h.retired.append ((h.found pipeline.key).filter fun a a' hm => by rw [hm.isIdle])
    · exact Nat.succ_le_succ h.opened

/-! ### What is seen of it -/

theorem keys (h : Nested maxIdle maxIdle' lent b b') :
    ∀ key ∈ b.pool.cached.map Handle.key, key ∈ b'.pool.cached.map Handle.key := by
  intro key hkey
  obtain ⟨a, ha, rfl⟩ := List.mem_map.1 hkey
  obtain ⟨a', ha', hm⟩ := h.cached.mem_left a ha
  rw [hm.key]
  exact List.mem_map_of_mem ha'

theorem holders (h : Nested maxIdle maxIdle' lent b b') (key : String) :
    ((b.pool.find? key).elim 0 Handle.holders) = (b'.pool.find? key).elim 0 Handle.holders := by
  have hfound := h.found key
  generalize b.pool.find? key = found at hfound ⊢
  generalize b'.pool.find? key = found' at hfound ⊢
  cases found with
  | none =>
    cases found' with
    | none => rfl
    | some a' => cases hfound with
      | spare hs => exact (beq_iff_eq.1 hs.idle).symm
  | some a =>
    cases found' with
    | none => cases hfound
    | some a' => cases hfound with
      | both hm => exact hm.holders
      | spare _ hrest => cases hrest

/-- What is retired is held, so that no spare handle is. -/
theorem map_retired (h : Nested maxIdle maxIdle' lent b b') {β : Type}
    {f : Handle (Numbered κ) → β} (hf : ∀ a a', Matched lent a a' → f a = f a') :
    b.pool.retired.map f = b'.pool.retired.map f := by
  have hheld := h.tidy'.held
  have hretired := h.retired
  generalize b.pool.retired = l at hretired ⊢
  generalize b'.pool.retired = l' at hretired hheld ⊢
  induction hretired with
  | nil => rfl
  | both hm _ ih =>
    rw [List.map_cons, List.map_cons, hf _ _ hm, ih fun a ha => hheld a (List.mem_cons_of_mem _ ha)]
  | spare hs =>
    have hbusy := hheld _ List.mem_cons_self
    rw [hs.idle] at hbusy
    cases hbusy

end Nested

end Stowage.Pool
