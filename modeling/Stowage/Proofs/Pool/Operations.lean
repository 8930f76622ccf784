import Stowage.Proofs.Pool.Invariant

/-!
What the operations of a pool do to its handles.

Each operation on the state of a pool keeps the representation invariant and has one statement about
where the handles are afterwards (`moves_reuse`, `moves_release`, `moves_clear`, `enrol_identities`)
and one about how often they are held (`holdings_reuse`, `holdings_release`, `holdings_enrol`).
-/

namespace Stowage.Pool

variable {κ : Type} {pool : Pool κ}

/-! ## The cache -/

theorem mem_of_find? {key : String} {h : Handle κ} (hf : pool.find? key = some h) :
    h ∈ pool.cached ∧ h.key = key :=
  ⟨List.mem_of_find?_eq_some hf, by simpa using List.find?_some hf⟩

theorem others_of_find?_none {key : String} (hf : pool.find? key = none) :
    pool.others key = pool.cached := by
  unfold others
  refine List.filter_eq_self.2 fun h hh => ?_
  have hne := List.find?_eq_none.1 hf h hh
  simpa using hne

/-- A cached handle can be taken out by its key. -/
theorem exists_split_cached (hw : pool.WF) {h : Handle κ} (hc : h ∈ pool.cached) :
    ∃ before after, pool.cached = before ++ h :: after ∧ pool.others h.key = before ++ after := by
  obtain ⟨before, after, hl, hf, -⟩ := exists_split_of_nodup hw.keys hc
  exact ⟨before, after, hl, hf⟩

/-- A handle that is current for a pipeline is cached, and is bound to the pipeline's leader. -/
theorem mem_of_current? {pipeline : Pipeline} {h : Handle κ} (hc : pool.current? pipeline = some h) :
    h ∈ pool.cached ∧ h.key = pipeline.key ∧ h.pipeline.leader = pipeline.leader := by
  obtain ⟨hf, hl⟩ := Option.filter_eq_some_iff.1 hc
  obtain ⟨hm, hk⟩ := mem_of_find? hf
  exact ⟨hm, hk, by simpa using hl⟩

/-! ## Giving handles out -/

section Reuse

variable {h : Handle κ}

theorem moves_reuse (hw : pool.WF) (hc : h ∈ pool.cached) : Moves pool (pool.reuse h).2 [] := by
  obtain ⟨before, after, hl, ho⟩ := exists_split_cached hw hc
  have hcached : ((pool.reuse h).2.cached.map Handle.identity).Perm
      (pool.cached.map Handle.identity) := by
    simp only [reuse, ho, hl, List.map_append, List.map_cons, List.map_nil, List.append_assoc,
      Handle.identity_hold]
    exact List.perm_append_comm.append_left _
  refine ⟨?_, hcached.subperm, (List.append_nil _).symm, rfl⟩
  simp only [handles, List.map_append]
  exact (hcached.append_right _).append_right _

theorem holdings_reuse (hw : pool.WF) (hc : h ∈ pool.cached) (number : Nat) :
    (pool.reuse h).2.holdings number =
      pool.holdings number + if h.number = number then 1 else 0 := by
  obtain ⟨before, after, hl, ho⟩ := exists_split_cached hw hc
  simp only [holdings, tracked, reuse, ho, hl, heldIn_append, heldIn_cons, heldIn_nil, Handle.hold]
  split <;> omega

end Reuse

section Enrol

variable (pipeline : Pipeline) (client : κ)

/-- The handles of a pool that makes way for a new one are those that make way and the others. -/
theorem cached_perm (hw : pool.WF) (key : String) :
    ((pool.find? key).toList ++ pool.others key).Perm pool.cached := by
  cases hf : pool.find? key with
  | none =>
    rw [others_of_find?_none hf]
    exact List.Perm.refl _
  | some h =>
    obtain ⟨hm, rfl⟩ := mem_of_find? hf
    obtain ⟨before, after, hl, ho⟩ := exists_split_cached hw hm
    rw [ho, hl]
    change (h :: (before ++ after)).Perm _
    exact List.perm_middle.symm

/-- Handles that make way are retired or dropped. -/
theorem retired_dropped_perm (l : List (Handle κ)) :
    ((l.filter fun h => !h.isIdle) ++ l.filter Handle.isIdle).Perm l :=
  List.perm_append_comm.trans (List.filter_append_perm _ l)

theorem enrol_identities (hw : pool.WF) :
    ((pool.enrol pipeline client).2.handles.map Handle.identity).Perm
      ((pool.opened, pipeline, client) :: pool.handles.map Handle.identity) := by
  have hperm : (pool.enrol pipeline client).2.handles.Perm
      (⟨pool.opened, pipeline, client, 1⟩ :: pool.handles) := by
    have hcached := cached_perm hw pipeline.key
    have hold := retired_dropped_perm (pool.find? pipeline.key).toList
    classical
    rw [List.perm_iff_count] at hcached hold ⊢
    intro a
    have hc := hcached a
    have ho := hold a
    simp only [enrol, handles, List.count_append, List.count_cons, List.count_nil] at hc ho ⊢
    omega
  exact hperm.map Handle.identity

theorem wf_enrol (hw : pool.WF) : (pool.enrol pipeline client).2.WF where
  numbers := by
    have hn := (enrol_identities pipeline client hw).map Prod.fst
    rw [List.map_map, List.map_cons, List.map_map] at hn
    change List.Perm _ (List.range (pool.opened + 1))
    rw [List.range_succ]
    refine hn.trans (List.Perm.trans ?_ (List.perm_append_singleton _ _).symm)
    exact hw.numbers.cons _
  keys := by
    have hothers : ((pool.others pipeline.key).map Handle.key).Nodup :=
      hw.keys.sublist (List.filter_sublist.map _)
    simp only [enrol, List.map_append, List.map_cons, List.map_nil]
    refine List.nodup_append.2 ⟨hothers, List.nodup_singleton _, fun k hk k' hk' => ?_⟩
    obtain ⟨h, hh, rfl⟩ := List.mem_map.1 hk
    rw [List.mem_singleton.1 hk']
    change h.key ≠ pipeline.key
    have hne := (List.mem_filter.1 hh).2
    simpa using hne

theorem holdings_enrol (hw : pool.WF) (number : Nat) :
    (pool.enrol pipeline client).2.holdings number =
      pool.holdings number + if pool.opened = number then 1 else 0 := by
  have hcached := heldIn_perm (cached_perm hw pipeline.key) number
  have hold := heldIn_perm (retired_dropped_perm (pool.find? pipeline.key).toList) number
  have hidle : heldIn ((pool.find? pipeline.key).toList.filter Handle.isIdle) number = 0 :=
    heldIn_idle (fun a ha => (List.mem_filter.1 ha).2) number
  rw [heldIn_append] at hcached hold
  simp only [holdings, tracked, enrol, heldIn_append, heldIn_cons, heldIn_nil]
  omega

end Enrol

/-! ## Eviction -/

/-- What is taken and what is left is what there was; only idle handles are taken. -/
theorem takeIdle_spec (excess : Nat) (l : List (Handle κ)) :
    ((takeIdle excess l).1 ++ (takeIdle excess l).2).Perm l ∧
      (∀ h ∈ (takeIdle excess l).1, h.isIdle = true) ∧ (takeIdle excess l).2.Sublist l := by
  induction l generalizing excess with
  | nil =>
    cases excess <;> exact ⟨List.Perm.refl _, List.forall_mem_nil _, List.Sublist.refl _⟩
  | cons h r ih =>
    cases excess with
    | zero => exact ⟨List.Perm.refl _, List.forall_mem_nil _, List.Sublist.refl _⟩
    | succ excess =>
      unfold takeIdle
      by_cases hidle : h.isIdle = true
      · obtain ⟨hp, hall, hsub⟩ := ih excess
        rw [if_pos hidle]
        refine ⟨hp.cons h, fun a ha => ?_, hsub.cons h⟩
        rcases List.mem_cons.1 ha with rfl | ha
        · exact hidle
        · exact hall a ha
      · obtain ⟨hp, hall, hsub⟩ := ih (excess + 1)
        rw [if_neg hidle]
        exact ⟨List.perm_middle.trans (hp.cons h), hall, hsub.cons_cons h⟩

theorem moves_evict (pool : Pool κ) (maxIdle : Nat) :
    Moves pool (pool.evict maxIdle).2 (pool.evict maxIdle).1 := by
  obtain ⟨hp, -, hsub⟩ := takeIdle_spec
    ((pool.cached.filter Handle.isIdle).length - maxIdle) pool.cached
  refine ⟨?_, (hsub.map _).subperm, rfl, rfl⟩
  refine List.Perm.map _ ?_
  classical
  rw [List.perm_iff_count] at hp ⊢
  intro a
  have ha := hp a
  simp only [evict, handles, List.count_append] at ha ⊢
  omega

theorem holdings_evict (pool : Pool κ) (maxIdle number : Nat) :
    (pool.evict maxIdle).2.holdings number = pool.holdings number := by
  obtain ⟨hp, hall, -⟩ := takeIdle_spec
    ((pool.cached.filter Handle.isIdle).length - maxIdle) pool.cached
  have hsum := heldIn_perm hp number
  rw [heldIn_append, heldIn_idle hall] at hsum
  simp only [holdings, tracked, evict, heldIn_append]
  omega

/-! ## Taking handles back -/

theorem Moves.trans {a b c : Pool κ} {gone gone' : List (Handle κ)} (h : Moves a b gone)
    (h' : Moves b c gone') : Moves a c (gone ++ gone') where
  identities := h'.identities.trans h.identities
  cached := h'.cached.trans h.cached
  dropped := by rw [h'.dropped, h.dropped, List.append_assoc]
  opened := h'.opened.trans h.opened

section Release

variable {h : Handle κ}

theorem moves_releaseRetired (hw : pool.WF) (hr : h ∈ pool.retired) :
    Moves pool (pool.releaseRetired h).2 (pool.releaseRetired h).1 := by
  obtain ⟨before, after, hl, hf, hm⟩ := exists_split_of_nodup hw.nodup_retired hr
  have hm := hm h.letGo
  unfold releaseRetired
  by_cases hlast : h.letGo.isIdle = true
  · rw [if_pos hlast]
    refine ⟨?_, List.Subperm.refl _, rfl, rfl⟩
    classical
    simp only [hf]
    simp only [handles, hl, List.map_append, List.map_cons, List.map_nil, Handle.identity_letGo]
    rw [List.perm_iff_count]
    intro a
    simp only [List.count_append, List.count_cons, List.count_nil]
    omega
  · rw [if_neg hlast]
    refine ⟨?_, List.Subperm.refl _, (List.append_nil _).symm, rfl⟩
    simp only [hm]
    simp only [handles, hl, List.map_append, List.map_cons, Handle.identity_letGo]
    exact List.Perm.refl _

theorem holdings_releaseRetired (hw : pool.WF) (hr : h ∈ pool.retired) (hheld : h.isIdle = false)
    (number : Nat) :
    (pool.releaseRetired h).2.holdings number + (if h.number = number then 1 else 0) =
      pool.holdings number := by
  obtain ⟨before, after, hl, hf, hm⟩ := exists_split_of_nodup hw.nodup_retired hr
  have hm := hm h.letGo
  have hpos : 0 < h.holders := by
    have hne : h.holders ≠ 0 := by simpa [Handle.isIdle] using hheld
    omega
  unfold releaseRetired
  by_cases hlast : h.letGo.isIdle = true
  · have hone : h.holders - 1 = 0 := by simpa [Handle.isIdle, Handle.letGo] using hlast
    rw [if_pos hlast]
    simp only [hf]
    simp only [holdings, tracked, hl, heldIn_append, heldIn_cons]
    split <;> omega
  · rw [if_neg hlast]
    simp only [hm]
    simp only [holdings, tracked, hl, heldIn_append, heldIn_cons, Handle.letGo]
    split <;> omega

theorem moves_releaseCached (hw : pool.WF) (maxIdle : Nat) (hc : h ∈ pool.cached) :
    Moves pool (pool.releaseCached maxIdle h).2 (pool.releaseCached maxIdle h).1 := by
  obtain ⟨before, after, hl, -, hm⟩ := exists_split_of_nodup hw.nodup_cached hc
  have hm := hm h.letGo
  have hsame : (pool.cached.map fun r => if r.number == h.number then h.letGo else r).map
      Handle.identity = pool.cached.map Handle.identity := by
    rw [hm, hl]
    simp
  have hreplace : Moves pool { pool with
      cached := pool.cached.map fun r => if r.number == h.number then h.letGo else r } [] := by
    refine ⟨?_, ?_, (List.append_nil _).symm, rfl⟩
    · simp only [handles, List.map_append, hsame]
      exact List.Perm.refl _
    · rw [hsame]
  exact hreplace.trans (moves_evict _ maxIdle)

theorem holdings_releaseCached (hw : pool.WF) (maxIdle : Nat) (hc : h ∈ pool.cached)
    (hheld : h.isIdle = false) (number : Nat) :
    (pool.releaseCached maxIdle h).2.holdings number + (if h.number = number then 1 else 0) =
      pool.holdings number := by
  obtain ⟨before, after, hl, -, hm⟩ := exists_split_of_nodup hw.nodup_cached hc
  have hm := hm h.letGo
  have hpos : 0 < h.holders := by
    have hne : h.holders ≠ 0 := by simpa [Handle.isIdle] using hheld
    omega
  unfold releaseCached
  rw [holdings_evict]
  simp only [hm]
  simp only [holdings, tracked, hl, heldIn_append, heldIn_cons, Handle.letGo]
  split <;> omega

/-- A release finds the handle among the retired ones or in the cache, if it is held. -/
theorem release?_cases {maxIdle number : Nat} {gone : List (Handle κ)} {after : Pool κ}
    (hr : pool.release? maxIdle number = some (gone, after)) :
    ∃ h : Handle κ, h.number = number ∧ h.isIdle = false ∧
      (h ∈ pool.retired ∧ (gone, after) = pool.releaseRetired h ∨
        h ∈ pool.cached ∧ (gone, after) = pool.releaseCached maxIdle h) := by
  have hmeant : ∀ {l : List (Handle κ)} {h : Handle κ},
      (l.find? fun h => h.number == number && !h.isIdle) = some h →
        h ∈ l ∧ h.number = number ∧ h.isIdle = false := by
    intro l h hf
    have hp := List.find?_some hf
    simp only [Bool.and_eq_true, beq_iff_eq, Bool.not_eq_true'] at hp
    exact ⟨List.mem_of_find?_eq_some hf, hp⟩
  unfold release? at hr
  simp only at hr
  split at hr
  · rename_i h hf
    obtain ⟨hm, hn, hi⟩ := hmeant hf
    exact ⟨h, hn, hi, .inl ⟨hm, (Option.some.inj hr).symm⟩⟩
  · rename_i h _ hf
    obtain ⟨hm, hn, hi⟩ := hmeant hf
    exact ⟨h, hn, hi, .inr ⟨hm, (Option.some.inj hr).symm⟩⟩
  · cases hr

theorem moves_release (hw : pool.WF) {maxIdle number : Nat} {gone : List (Handle κ)}
    {after : Pool κ} (hr : pool.release? maxIdle number = some (gone, after)) :
    Moves pool after gone := by
  obtain ⟨h, -, -, ⟨hm, he⟩ | ⟨hm, he⟩⟩ := release?_cases hr
  · obtain ⟨rfl, rfl⟩ := Prod.mk.inj he
    exact moves_releaseRetired hw hm
  · obtain ⟨rfl, rfl⟩ := Prod.mk.inj he
    exact moves_releaseCached hw maxIdle hm

/-- A release takes back one holding of the handle that it is about. -/
theorem holdings_release (hw : pool.WF) {maxIdle number : Nat} {gone : List (Handle κ)}
    {after : Pool κ} (hr : pool.release? maxIdle number = some (gone, after)) (n : Nat) :
    after.holdings n + (if number = n then 1 else 0) = pool.holdings n := by
  obtain ⟨h, rfl, hheld, ⟨hm, he⟩ | ⟨hm, he⟩⟩ := release?_cases hr
  · obtain ⟨rfl, rfl⟩ := Prod.mk.inj he
    exact holdings_releaseRetired hw hm hheld n
  · obtain ⟨rfl, rfl⟩ := Prod.mk.inj he
    exact holdings_releaseCached hw maxIdle hm hheld n

end Release

/-! ## Clients -/

/-- A client that one of the kept handles has. -/
def Has (pool : Pool κ) (client : κ) : Prop := ∃ h ∈ pool.tracked, h.client = client

theorem has_of_cached {h : Handle κ} (hc : h ∈ pool.cached) : pool.Has h.client :=
  ⟨h, List.mem_append_left _ hc, rfl⟩

theorem has_of_retired {h : Handle κ} (hr : h ∈ pool.retired) : pool.Has h.client :=
  ⟨h, List.mem_append_right _ hr, rfl⟩

theorem has_of_reuse {h : Handle κ} (hc : h ∈ pool.cached) {client : κ}
    (ha : (pool.reuse h).2.Has client) : pool.Has client := by
  obtain ⟨a, ha, rfl⟩ := ha
  rcases List.mem_append.1 ha with ha | ha
  · rcases List.mem_append.1 ha with ha | ha
    · exact has_of_cached (List.mem_filter.1 ha).1
    · rw [List.mem_singleton.1 ha]
      exact ⟨h, List.mem_append_left _ hc, rfl⟩
  · exact has_of_retired ha

theorem has_of_enrol {pipeline : Pipeline} {new client : κ}
    (ha : (pool.enrol pipeline new).2.Has client) : client = new ∨ pool.Has client := by
  obtain ⟨a, ha, rfl⟩ := ha
  rcases List.mem_append.1 ha with ha | ha
  · rcases List.mem_append.1 ha with ha | ha
    · exact .inr (has_of_cached (List.mem_filter.1 ha).1)
    · rw [List.mem_singleton.1 ha]
      exact .inl rfl
  · rcases List.mem_append.1 ha with ha | ha
    · exact .inr (has_of_retired ha)
    · have hold := (List.mem_filter.1 ha).1
      rw [Option.mem_toList] at hold
      exact .inr (has_of_cached (mem_of_find? hold).1)

theorem client_of_replaced {l : List (Handle κ)} {h a : Handle κ} (hh : h ∈ l)
    (ha : a ∈ l.map fun r => if r.number == h.number then h.letGo else r) :
    ∃ b ∈ l, b.client = a.client := by
  obtain ⟨b, hb, rfl⟩ := List.mem_map.1 ha
  split
  · exact ⟨h, hh, rfl⟩
  · exact ⟨b, hb, rfl⟩

theorem has_of_releaseRetired {h : Handle κ} (hr : h ∈ pool.retired) :
    (∀ client, (pool.releaseRetired h).2.Has client → pool.Has client) ∧
      ∀ a ∈ (pool.releaseRetired h).1, pool.Has a.client := by
  unfold releaseRetired
  by_cases hlast : h.letGo.isIdle = true
  · rw [if_pos hlast]
    refine ⟨?_, fun a ha => ?_⟩
    · rintro client ⟨a, ha, rfl⟩
      rcases List.mem_append.1 ha with ha | ha
      · exact has_of_cached ha
      · exact has_of_retired (List.mem_filter.1 ha).1
    · rw [List.mem_singleton.1 ha]
      exact ⟨h, List.mem_append_right _ hr, rfl⟩
  · rw [if_neg hlast]
    refine ⟨?_, List.forall_mem_nil _⟩
    rintro client ⟨a, ha, rfl⟩
    rcases List.mem_append.1 ha with ha | ha
    · exact has_of_cached ha
    · obtain ⟨b, hb, hc⟩ := client_of_replaced hr ha
      rw [← hc]
      exact has_of_retired hb

theorem has_of_releaseCached {h : Handle κ} (maxIdle : Nat) (hm : h ∈ pool.cached) :
    (∀ client, (pool.releaseCached maxIdle h).2.Has client → pool.Has client) ∧
      ∀ a ∈ (pool.releaseCached maxIdle h).1, pool.Has a.client := by
  have hcached : ∀ a ∈ (pool.cached.map fun r => if r.number == h.number then h.letGo else r),
      pool.Has a.client := by
    intro a ha
    obtain ⟨b, hb, hc⟩ := client_of_replaced hm ha
    rw [← hc]
    exact has_of_cached hb
  obtain ⟨hperm, -, hsub⟩ := takeIdle_spec
    (((pool.cached.map fun r => if r.number == h.number then h.letGo else r).filter
      Handle.isIdle).length - maxIdle)
    (pool.cached.map fun r => if r.number == h.number then h.letGo else r)
  refine ⟨?_, fun a ha => hcached a (hperm.subset (List.mem_append_left _ ha))⟩
  rintro client ⟨a, ha, rfl⟩
  rcases List.mem_append.1 ha with ha | ha
  · exact hcached a (hsub.subset ha)
  · exact has_of_retired ha

/-- What a release leaves and what it drops has been there before. -/
theorem has_of_release {maxIdle number : Nat} {gone : List (Handle κ)} {after : Pool κ}
    (hr : pool.release? maxIdle number = some (gone, after)) :
    (∀ client, after.Has client → pool.Has client) ∧ ∀ a ∈ gone, pool.Has a.client := by
  obtain ⟨h, -, -, ⟨hm, he⟩ | ⟨hm, he⟩⟩ := release?_cases hr
  · obtain ⟨hgone, hafter⟩ := Prod.mk.inj he
    rw [hgone, hafter]
    exact has_of_releaseRetired hm
  · obtain ⟨hgone, hafter⟩ := Prod.mk.inj he
    rw [hgone, hafter]
    exact has_of_releaseCached maxIdle hm

/-! ## Clearing -/

theorem moves_clear (pool : Pool κ) : Moves pool pool.clear.2 pool.clear.1 := by
  refine ⟨?_, (List.nil_sublist _).subperm, rfl, rfl⟩
  simp only [clear, handles, List.nil_append, List.append_nil]
  exact List.perm_append_comm.map _

end Stowage.Pool
