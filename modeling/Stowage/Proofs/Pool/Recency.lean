import Stowage.Proofs.Pool.Quiescent

/-!
Idle handles are bounded in number, and those that were acquired the longest ago go first.

`Run.bounded_recency` is the statement. Its invariant is `Books.Tidy`: there are no more idle
handles than there may be, and what is retired is held. The order of the cache is that in which its
keys were last acquired (`Recent`), as far as every acquisition that changed the pool has succeeded:
one that ends because a number in its log line is too long to be written has changed it all the
same.
-/

namespace Stowage

namespace Log

variable {σ : Type}

/-- Where records can be written, a line is only refused for a number that is too long. -/
theorem logWith_error {s : Session σ} (hs : Writable s) {logger message : String} {level : Nat}
    {entries : List (String × Value)} (hnames : ∀ e ∈ entries, partFault? e.1 = none) {f : Failure}
    (h : ((logWith logger level message entries).runFrom s).1 = .error f) :
    f = .overlongInteger := by
  by_cases hlong : ∃ e ∈ entries, e.2.isOverlong = true
  · rw [logWith_overlong s logger level message hlong] at h
    exact (Except.error.inj h).symm
  · have hfits : Bindable entries := fun e he =>
      ⟨hnames e he, Bool.eq_false_iff.2 fun hv => hlong ⟨e, he, hv⟩⟩
    rw [logWith_ok hs logger level message hfits] at h
    cases h

end Log

namespace Pool

variable {σ κ : Type}

/-! ## Recency -/

/-- Whether a handle for a key has been acquired. -/
def Served.acquires (e : Served κ) (key : String) : Bool :=
  match e.request, e.answer with
  | .acquire pipeline _, .ok _ => pipeline.key == key
  | _, _ => false

/-- How many requests had been served when a handle for a key was last acquired, that one included;
zero if none ever was. -/
def lastAcquired (log : List (Served κ)) (key : String) : Nat :=
  log.length - log.reverse.findIdx (·.acquires key)

/-- No request has failed because a number was too long to be written. -/
def Logged (log : List (Served κ)) : Prop := ∀ e ∈ log, e.answer ≠ .error .overlongInteger

theorem lastAcquired_append (log : List (Served κ)) (e : Served κ) (key : String) :
    lastAcquired (log ++ [e]) key =
      if e.acquires key then log.length + 1 else lastAcquired log key := by
  unfold lastAcquired
  rw [List.reverse_append, List.reverse_singleton, List.singleton_append, List.findIdx_cons,
    List.length_append, List.length_singleton]
  cases e.acquires key <;> simp

theorem lastAcquired_le (log : List (Served κ)) (key : String) :
    lastAcquired log key ≤ log.length := Nat.sub_le _ _

/-- Keys in the order in which they were last acquired. -/
structure Recent (log : List (Served κ)) (keys : List String) : Prop where
  acquired : ∀ k ∈ keys, 0 < lastAcquired log k
  order : keys.Pairwise fun k k' => lastAcquired log k < lastAcquired log k'

namespace Recent

variable {log : List (Served κ)} {keys keys' : List String}

theorem nil : Recent log [] := ⟨List.forall_mem_nil _, List.Pairwise.nil⟩

theorem sublist (h : Recent log keys) (hs : keys'.Sublist keys) : Recent log keys' :=
  ⟨fun k hk => h.acquired k (hs.subset hk), h.order.sublist hs⟩

/-- What acquires none of the keys leaves them in order. -/
theorem unacquired (h : Recent log keys) {e : Served κ}
    (he : ∀ k ∈ keys, e.acquires k = false) : Recent (log ++ [e]) keys := by
  have hsame : ∀ k ∈ keys, lastAcquired (log ++ [e]) k = lastAcquired log k := fun k hk => by
    rw [lastAcquired_append, he k hk]
    rfl
  refine ⟨fun k hk => ?_, h.order.imp_of_mem fun {k k'} hk hk' hlt => ?_⟩
  · rw [hsame k hk]
    exact h.acquired k hk
  · rw [hsame k hk, hsame k' hk']
    exact hlt

/-- A key that is acquired comes last. -/
theorem acquire (h : Recent log keys) {e : Served κ} {key : String}
    (he : ∀ k, e.acquires k = (key == k)) (hnew : key ∉ keys) :
    Recent (log ++ [e]) (keys ++ [key]) := by
  have hlast : lastAcquired (log ++ [e]) key = log.length + 1 := by
    rw [lastAcquired_append, he, beq_self_eq_true, if_pos rfl]
  have hothers : ∀ k ∈ keys, e.acquires k = false := fun k hk => by
    rw [he, beq_eq_false_iff_ne]
    rintro rfl
    exact hnew hk
  have hkeys := h.unacquired hothers
  refine ⟨fun k hk => ?_, List.pairwise_append.2
    ⟨hkeys.order, List.pairwise_singleton _ _, fun k hk k' hk' => ?_⟩⟩
  · rcases List.mem_append.1 hk with hk | hk
    · exact hkeys.acquired k hk
    · rw [List.mem_singleton.1 hk, hlast]
      exact Nat.succ_pos _
  · rw [List.mem_singleton.1 hk', hlast, lastAcquired_append, hothers k hk]
    exact Nat.lt_succ_of_le (lastAcquired_le log k)

end Recent

/-! ## Eviction -/

section Evict

variable {pool : Pool κ} {maxIdle : Nat}

theorem takeIdle_zero (l : List (Handle κ)) : takeIdle 0 l = ([], l) := by
  cases l <;> rfl

/-- The first idle handle is taken. -/
theorem takeIdle_one {before after : List (Handle κ)} {v : Handle κ}
    (hb : ∀ a ∈ before, a.isIdle = false) (hv : v.isIdle = true) :
    takeIdle 1 (before ++ v :: after) = ([v], before ++ after) := by
  induction before with
  | nil =>
    rw [List.nil_append, takeIdle, if_pos hv, takeIdle_zero]
    rfl
  | cons a r ih =>
    have ha : ¬ a.isIdle = true := Bool.eq_false_iff.1 (hb a List.mem_cons_self)
    rw [List.cons_append, takeIdle, if_neg ha, ih fun c hc => hb c (List.mem_cons_of_mem _ hc)]
    rfl

theorem evict_of_le (h : pool.cached.countP Handle.isIdle ≤ maxIdle) :
    (pool.evict maxIdle).1 = [] := by
  change (takeIdle _ pool.cached).1 = []
  rw [← List.countP_eq_length_filter, Nat.sub_eq_zero_of_le h, takeIdle_zero]

/-- With one idle handle too many the first one is dropped. -/
theorem evict_of_excess (pool : Pool κ) (h : pool.cached.countP Handle.isIdle = maxIdle + 1) :
    ∃ before v after, pool.cached = before ++ v :: after ∧ (∀ a ∈ before, a.isIdle = false) ∧
      v.isIdle = true ∧ (pool.evict maxIdle).1 = [v] := by
  have hsome : (pool.cached.find? Handle.isIdle).isSome := by
    rw [List.find?_isSome]
    exact List.countP_pos_iff.1 (by omega)
  obtain ⟨v, hfind⟩ := Option.isSome_iff_exists.1 hsome
  obtain ⟨hv, before, after, hcached, hbefore⟩ := List.find?_eq_some_iff_append.1 hfind
  have hbusy : ∀ a ∈ before, a.isIdle = false := fun a ha => by simpa using hbefore a ha
  refine ⟨before, v, after, hcached, hbusy, hv, ?_⟩
  change (takeIdle _ pool.cached).1 = [v]
  rw [← List.countP_eq_length_filter, h, Nat.add_sub_cancel_left, hcached, takeIdle_one hbusy hv]

/-- The cached handles once one holding of a handle has been taken back. -/
def relaxed (pool : Pool κ) (r : Handle κ) : List (Handle κ) :=
  pool.cached.map fun a => if a.number == r.number then r.letGo else a

theorem releaseCached_eq (r : Handle κ) :
    pool.releaseCached maxIdle r = evict { pool with cached := pool.relaxed r } maxIdle := rfl

/-- Taking a holding back changes neither the keys nor their order, and makes one handle idle at
most. -/
theorem relaxed_spec (hw : pool.WF) {r : Handle κ} (hr : r ∈ pool.cached) :
    (pool.relaxed r).map Handle.key = pool.cached.map Handle.key ∧
      (pool.relaxed r).countP Handle.isIdle ≤ pool.cached.countP Handle.isIdle + 1 := by
  obtain ⟨before, after, hl, -, hm⟩ := exists_split_of_nodup hw.nodup_cached hr
  have hrelaxed : pool.relaxed r = before ++ r.letGo :: after := hm r.letGo
  refine ⟨?_, ?_⟩
  · rw [hrelaxed, hl, List.map_append, List.map_append]
    rfl
  · rw [hrelaxed, hl, List.countP_append, List.countP_append, List.countP_cons, List.countP_cons]
    split <;> omega

/-- Releasing leaves keys in the cache in their order. -/
theorem keys_release (hw : pool.WF) {number : Nat} {gone : List (Handle κ)} {after : Pool κ}
    (hr : pool.release? maxIdle number = some (gone, after)) :
    (after.cached.map Handle.key).Sublist (pool.cached.map Handle.key) := by
  obtain ⟨r, -, -, ⟨-, he⟩ | ⟨hm, he⟩⟩ := release?_cases hr
  · rw [show after = _ from congrArg Prod.snd he]
    unfold releaseRetired
    split <;> exact List.Sublist.refl _
  · rw [show after = _ from congrArg Prod.snd he, releaseCached_eq, ← (relaxed_spec hw hm).1]
    exact (takeIdle_spec _ _).2.2.map _

end Evict

/-! ## What a release frees -/

/-- The handles that a release of the handle with a number may drop: that handle itself, if it is
retired and nobody else holds it; or, if there are more idle handles than there may be once it has
been taken back, the idle one that is older than all others. -/
inductive Frees (pool : Pool κ) (maxIdle number : Nat) (older : String → String → Prop) :
    List (Handle κ) → Prop
  | untracked : (∀ a ∈ pool.tracked, a.number = number → a.isIdle = true) →
    Frees pool maxIdle number older []
  | shared (r : Handle κ) : r ∈ pool.retired → r.number = number → 1 < r.holders →
    Frees pool maxIdle number older []
  | last (r : Handle κ) : r ∈ pool.retired → r.number = number → r.holders = 1 →
    Frees pool maxIdle number older [r.letGo]
  | kept (r : Handle κ) : r ∈ pool.cached → r.number = number → 0 < r.holders →
    (pool.relaxed r).countP Handle.isIdle ≤ maxIdle → Frees pool maxIdle number older []
  | evicted (r v : Handle κ) : r ∈ pool.cached → r.number = number → 0 < r.holders →
    maxIdle < (pool.relaxed r).countP Handle.isIdle → v ∈ pool.relaxed r → v.isIdle = true →
    (∀ a ∈ pool.relaxed r, a.isIdle = true → a.key ≠ v.key → older v.key a.key) →
    Frees pool maxIdle number older [v]

namespace Books

variable {b b' : Books κ} {maxIdle : Nat}

/-- There are no more idle handles than there may be, and what is retired is held. -/
structure Tidy (b : Books κ) (maxIdle : Nat) : Prop where
  balanced : b.Balanced
  bounded : b.pool.cached.countP Handle.isIdle ≤ maxIdle
  held : ∀ a ∈ b.pool.retired, a.isIdle = false

namespace Tidy

theorem empty : ({} : Books κ).Tidy maxIdle where
  balanced := .empty
  bounded := Nat.zero_le maxIdle
  held := List.forall_mem_nil _

/-- Putting a handle that is held in the place of those under its key makes none idle. -/
theorem countP_others (pool : Pool κ) (key : String) (new : Handle κ) (hnew : new.isIdle = false) :
    (pool.others key ++ [new]).countP Handle.isIdle ≤ pool.cached.countP Handle.isIdle := by
  rw [List.countP_append, List.countP_singleton, hnew]
  exact List.filter_sublist.countP_le

theorem held_release {pool after : Pool κ} (hheld : ∀ a ∈ pool.retired, a.isIdle = false)
    {number : Nat} {gone : List (Handle κ)}
    (hr : pool.release? maxIdle number = some (gone, after)) :
    ∀ a ∈ after.retired, a.isIdle = false := by
  obtain ⟨r, -, -, ⟨-, he⟩ | ⟨-, he⟩⟩ := release?_cases hr
  · rw [show after = _ from congrArg Prod.snd he]
    unfold releaseRetired
    split
    · exact fun a ha => hheld a (List.mem_filter.1 ha).1
    · rename_i hlast
      intro a ha
      obtain ⟨c, hc, rfl⟩ := List.mem_map.1 ha
      split
      · exact Bool.eq_false_iff.2 hlast
      · exact hheld c hc
  · rw [show after = _ from congrArg Prod.snd he]
    exact hheld

theorem bounded_release {pool after : Pool κ} (hb : pool.cached.countP Handle.isIdle ≤ maxIdle)
    {number : Nat} {gone : List (Handle κ)}
    (hr : pool.release? maxIdle number = some (gone, after)) :
    after.cached.countP Handle.isIdle ≤ maxIdle := by
  obtain ⟨r, -, -, ⟨-, he⟩ | ⟨-, he⟩⟩ := release?_cases hr
  · rw [show after = _ from congrArg Prod.snd he]
    unfold releaseRetired
    split <;> exact hb
  · rw [show after = _ from congrArg Prod.snd he, releaseCached_eq]
    exact countP_evict_le _ maxIdle

/-- Every request keeps the books tidy. -/
theorem change {request : Request κ} {answer : Answer κ} (h : b.Tidy maxIdle)
    (hc : b.Change maxIdle request answer b') : b'.Tidy maxIdle := by
  refine ⟨h.balanced.change hc, ?_, ?_⟩
  · cases hc with
    | refused => exact h.bounded
    | reused _ _ handle =>
      exact Nat.le_trans (countP_others b.pool handle.key handle.hold rfl) h.bounded
    | opened pipeline _ client =>
      exact Nat.le_trans (countP_others b.pool pipeline.key
        ⟨b.pool.opened, pipeline, ⟨b.opened, client⟩, 1⟩ rfl) h.bounded
    | ignored => exact h.bounded
    | released _ _ _ hr => exact bounded_release h.bounded hr
    | closed => exact Nat.zero_le maxIdle
  · cases hc with
    | refused => exact h.held
    | reused => exact h.held
    | opened =>
      intro a ha
      rcases List.mem_append.1 ha with ha | ha
      · exact h.held a ha
      · simpa using (List.mem_filter.1 ha).2
    | ignored => exact h.held
    | released _ _ _ hr => exact held_release h.held hr
    | closed => exact List.forall_mem_nil _

theorem history {log : List (Served κ)} (h : b.Tidy maxIdle) (hh : b.History maxIdle log b') :
    b'.Tidy maxIdle := by
  induction hh with
  | start => exact h
  | change _ hc ih => exact ih.change hc

/-- The clients that are open are those of handles in use and of idle ones. -/
theorem unclosed_le (h : b.Tidy maxIdle) :
    b.unclosed.length ≤ b.pool.tracked.countP (fun a => !a.isIdle) + maxIdle := by
  have hretired : b.pool.retired.countP Handle.isIdle = 0 :=
    List.countP_eq_zero.2 fun a ha => Bool.eq_false_iff.1 (h.held a ha)
  have hsplit := b.pool.tracked.length_eq_countP_add_countP Handle.isIdle
  have hidle : b.pool.tracked.countP Handle.isIdle ≤ maxIdle := by
    rw [tracked, List.countP_append, hretired]
    exact h.bounded
  have hbusy : b.pool.tracked.countP (fun a => decide ¬ a.isIdle = true) =
      b.pool.tracked.countP (fun a => !a.isIdle) := by
    congr 1
    funext a
    cases a.isIdle <;> rfl
  rw [h.balanced.unclosed_perm.length_eq, List.length_map]
  omega

/-- What a release frees, where the keys of the cache are in an order. -/
theorem frees (h : b.Tidy maxIdle) {older : String → String → Prop}
    (horder : (b.pool.cached.map Handle.key).Pairwise older) {number : Nat}
    {gone : List (Handle (Numbered κ))} {after : Pool (Numbered κ)}
    (hr : b.pool.release? maxIdle number = some (gone, after)) :
    b.pool.Frees maxIdle number older gone := by
  obtain ⟨r, hn, hbusy, ⟨hm, he⟩ | ⟨hm, he⟩⟩ := release?_cases hr
  · rw [show gone = _ from congrArg Prod.fst he]
    have hheld : r.holders ≠ 0 := by simpa [Handle.isIdle] using hbusy
    unfold releaseRetired
    split
    · rename_i hlast
      have hzero : r.holders - 1 = 0 := by simpa [Handle.isIdle, Handle.letGo] using hlast
      exact .last r hm hn (by omega)
    · rename_i hmore
      have hpos : r.holders - 1 ≠ 0 := by simpa [Handle.isIdle, Handle.letGo] using hmore
      exact .shared r hm hn (by omega)
  · rw [show gone = _ from congrArg Prod.fst he, releaseCached_eq]
    have hheld : 0 < r.holders := by
      have hne : r.holders ≠ 0 := by simpa [Handle.isIdle] using hbusy
      omega
    obtain ⟨hkeys, hidle⟩ := relaxed_spec h.balanced.wf hm
    rcases Nat.lt_or_ge maxIdle ((b.pool.relaxed r).countP Handle.isIdle) with hexcess | hfew
    · -- one handle has become idle, so that there is one too many
      have hone : (b.pool.relaxed r).countP Handle.isIdle = maxIdle + 1 := by
        have hbound := h.bounded
        omega
      obtain ⟨before, v, later, hl, hbefore, hv, hgone⟩ : ∃ before v later,
          b.pool.relaxed r = before ++ v :: later ∧ (∀ a ∈ before, a.isIdle = false) ∧
            v.isIdle = true ∧
            (evict { b.pool with cached := b.pool.relaxed r } maxIdle).1 = [v] :=
        evict_of_excess { b.pool with cached := b.pool.relaxed r } hone
      rw [hgone]
      refine .evicted r v hm hn hheld hexcess ?_ hv fun a ha haidle hne => ?_
      · rw [hl]
        exact List.mem_append_right _ List.mem_cons_self
      · rw [← hkeys, hl, List.map_append, List.map_cons] at horder
        have hafter := (List.pairwise_cons.1 (List.pairwise_append.1 horder).2.1).1
        rw [hl] at ha
        rcases List.mem_append.1 ha with ha | ha
        · rw [hbefore a ha] at haidle
          cases haidle
        · rcases List.mem_cons.1 ha with rfl | ha
          · exact absurd rfl hne
          · exact hafter a.key (List.mem_map_of_mem ha)
    · rw [evict_of_le hfew]
      exact .kept r hm hn hheld hfew

end Tidy

/-- A release that finds nothing is of a handle that nobody holds, or that is not kept. -/
theorem idle_of_release?_none {pool : Pool κ} {number : Nat}
    (hr : pool.release? maxIdle number = none) :
    ∀ a ∈ pool.tracked, a.number = number → a.isIdle = true := by
  have hnone : ∀ l : List (Handle κ),
      (l.find? fun h => h.number == number && !h.isIdle) = none →
        ∀ a ∈ l, a.number = number → a.isIdle = true := by
    intro l hl a ha hn
    have hnot := List.find?_eq_none.1 hl a ha
    simpa [hn] using hnot
  unfold Pool.release? at hr
  simp only at hr
  split at hr
  · cases hr
  · cases hr
  · rename_i hretired hcached
    intro a ha
    rcases List.mem_append.1 ha with ha | ha
    · exact hnone _ hcached a ha
    · exact hnone _ hretired a ha

/-- Every request that does not fail after the pool has changed keeps the keys in the order in which
they were last acquired. -/
theorem Change.recent {request : Request κ} {answer : Answer κ} {log : List (Served κ)}
    (hc : b.Change maxIdle request answer b') (hb : b.Balanced)
    (hfails : ∀ f, answer = .error f → b' = b) (h : Recent log (b.pool.cached.map Handle.key)) :
    Recent (log ++ [⟨request, answer⟩]) (b'.pool.cached.map Handle.key) := by
  have hothers : ∀ key, Recent log ((b.pool.others key).map Handle.key) ∧
      key ∉ (b.pool.others key).map Handle.key := by
    refine fun key => ⟨h.sublist (List.filter_sublist.map _), fun hk => ?_⟩
    obtain ⟨a, ha, rfl⟩ := List.mem_map.1 hk
    simpa using (List.mem_filter.1 ha).2
  cases answer with
  | error f =>
    rw [hfails f rfl]
    exact h.unacquired fun k _ => by cases request <;> rfl
  | ok given =>
    cases hc with
    | reused pipeline _ handle _ hcurrent =>
      have hkey := (mem_of_current? hcurrent).2.1
      obtain ⟨hrecent, hnew⟩ := hothers handle.key
      change Recent _ ((b.pool.others handle.key ++ [handle.hold]).map Handle.key)
      rw [List.map_append]
      refine hrecent.acquire (fun k => ?_) hnew
      change (pipeline.key == k) = (handle.key == k)
      rw [hkey]
    | opened pipeline _ client =>
      obtain ⟨hrecent, hnew⟩ := hothers pipeline.key
      change Recent _ ((b.pool.others pipeline.key ++ [_]).map Handle.key)
      rw [List.map_append]
      exact hrecent.acquire (fun k => rfl) hnew
    | ignored => exact h.unacquired fun _ _ => rfl
    | released _ _ _ hr => exact (h.sublist (keys_release hb.wf hr)).unacquired fun _ _ => rfl
    | closed => exact .nil

end Books

/-! ## Failures -/

namespace Source

variable {source : Source σ κ} {maxIdle : Nat} {b : Books κ}

/-- What is given out is logged, unless a number is too long for that. -/
theorem leads_logAcquired_told (h : Handle (Numbered κ)) (containerId : Int) :
    Leads (do
      Connector.logAcquired h containerId
      pure h : Flow (Ledger σ κ) (Handle (Numbered κ))) b fun o _ =>
      ∀ f, o = .error f → f = .overlongInteger := by
  intro s hs hb
  refine ⟨(leads_logAcquired h containerId s hs hb).1, fun f hf => ?_⟩
  rw [Flow.runFrom_bind] at hf
  generalize hr : (Connector.logAcquired h containerId).runFrom s = r at hf
  rcases r with ⟨g | ⟨⟩, t⟩
  · cases hf
    refine Log.logWith_error hs (fun e he => ?_) (congrArg Prod.fst hr)
    simp only [List.mem_cons, List.not_mem_nil, or_false] at he
    rcases he with rfl | rfl | rfl <;> rfl
  · cases hf

/-- Acquiring fails before anything has changed, unless a number is too long to be logged. -/
theorem leads_acquire_told (h : source.Orderly) (pipeline : Pipeline) (containerId : Int) :
    Leads ((source.connector maxIdle).acquire pipeline containerId) b fun o b' =>
      ∀ f, o = .error f → b' = b ∨ f = .overlongInteger := by
  unfold Connector.acquire
  by_cases hkey : pipeline.key = ""
  · simp only [hkey, if_true]
    exact .throw fun _ _ => .inl rfl
  · simp only [hkey, if_false]
    refine .step leads_look ?_
    cases hc : b.pool.current? pipeline with
    | some handle =>
      refine .step (leads_put (b.pool.reuse handle).2) (.step (.pure ⟨rfl, rfl⟩) ?_)
      exact .mono (leads_logAcquired_told _ containerId) fun o _ ho f hf => .inr (ho f hf)
    | none =>
      refine .bind (leads_openHandle h pipeline) ?_ ?_
      · rintro f b' (⟨-, -, rfl⟩ | ⟨_, hok, -⟩) _ -
        · exact .inl rfl
        · cases hok
      · rintro _ b' (⟨_, hf, -⟩ | ⟨client, hok, -⟩)
        · cases hf
        · cases hok
          exact .mono (leads_logAcquired_told _ containerId) fun o _ ho f hf => .inr (ho f hf)

/-- A request fails before anything has changed, unless a number is too long to be logged. -/
theorem serve_told (h : source.Orderly) (request : Request κ) :
    Leads (request.serve (source.connector maxIdle)) b fun answer b' =>
      ∀ f, answer = .error f → b' = b ∨ f = .overlongInteger := by
  cases request with
  | acquire pipeline containerId =>
    refine .bind (leads_acquire_told h pipeline containerId) (fun _ _ hp f hf => hp f ?_) ?_
    · cases hf
      rfl
    · exact fun _ _ _ => .pure nofun
  | release handle =>
    refine .bind (leads_release h handle) ?_ fun _ _ _ => .pure nofun
    rintro f b' ⟨hf, -⟩
    cases hf
  | close =>
    refine .bind (leads_close h) ?_ fun _ _ _ => .pure nofun
    rintro f b' ⟨hf, -⟩
    cases hf

end Source

/-! ## Runs -/

section Run

variable {source : Source σ κ} {maxIdle : Nat} {s t : Session (Ledger σ κ)}
  {log : List (Served κ)}

/-- The cache is in the order in which its keys were last acquired. -/
theorem Run.recent (h : source.Orderly) (hs : Log.Writable s) (hempty : s.world.books = {})
    (run : Run (source.connector maxIdle) s log t) (hlogged : Logged log) :
    Recent log (t.world.books.pool.cached.map Handle.key) := by
  induction run with
  | start =>
    rw [hempty]
    exact .nil
  | @serve log t run request ih =>
    obtain ⟨ht, hist⟩ := run.history h hs
    rw [hempty] at hist
    have hb := Books.Balanced.empty.history hist
    have hbefore := ih fun e he => hlogged e (List.mem_append_left _ he)
    refine (Source.serve_change h request t ht rfl).2.recent hb (fun f hf => ?_) hbefore
    refine ((Source.serve_told h request t ht rfl).2 f hf).resolve_right ?_
    rintro rfl
    exact hlogged _ (List.mem_append_right _ List.mem_cons_self) hf

/-- **Idle handles are bounded, and the least recently acquired one goes first.** In every state of
a pool, whatever has been asked of it and whichever clients have failed to open or to close:

- no more cached handles are idle than there may be;
- so no more clients are open than there are handles in use, and as many as may be idle;
- the cache is in the order in which a handle for each of its keys was last acquired;
- a release closes at most one client: that of the handle itself, if it was retired and this was its
  last holding, or else, if there would be an idle handle too many, that of the idle one whose key
  was acquired the longest ago.

What is said of the order holds as far as no request has failed because a number was too long to be
logged, and not beyond that (`Run.not_recent_refused`). -/
theorem Run.bounded_recency (h : source.Orderly) (hs : Log.Writable s)
    (hempty : s.world.books = {}) (run : Run (source.connector maxIdle) s log t) :
    let b := t.world.books
    b.pool.cached.countP Handle.isIdle ≤ maxIdle ∧
      b.unclosed.length ≤ b.pool.tracked.countP (fun a => !a.isIdle) + maxIdle ∧
      (Logged log → (∀ a ∈ b.pool.cached, 0 < lastAcquired log a.key) ∧
        b.pool.cached.Pairwise fun a a' => lastAcquired log a.key < lastAcquired log a'.key) ∧
      ∀ handle : Handle (Numbered κ), ∃ gone,
        (((Request.release handle).serve (source.connector maxIdle)).runFrom t).2.world.books.closed =
            b.closed ++ gone.map (fun a => a.client.number) ∧
          b.pool.Frees maxIdle handle.number
            (fun k k' => Logged log → lastAcquired log k < lastAcquired log k') gone := by
  intro b
  obtain ⟨ht, hist⟩ := run.history h hs
  rw [hempty] at hist
  have hb : b.Tidy maxIdle := Books.Tidy.empty.history hist
  have hrecent := run.recent h hs hempty
  refine ⟨hb.bounded, hb.unclosed_le, fun hlogged => ⟨fun a ha => ?_, ?_⟩, fun handle => ?_⟩
  · exact (hrecent hlogged).acquired _ (List.mem_map_of_mem ha)
  · have horder := (hrecent hlogged).order
    rwa [List.pairwise_map] at horder
  · obtain ⟨-, hc⟩ := Source.serve_change h (.release handle) t ht rfl
    generalize ((Request.release handle).serve (source.connector maxIdle)).runFrom t = r at hc ⊢
    obtain ⟨answer, u⟩ := r
    generalize hu : u.world.books = b' at hc
    cases hc with
    | ignored _ hr =>
      exact ⟨[], (List.append_nil _).symm, .untracked (Books.idle_of_release?_none hr)⟩
    | released _ gone pool hr =>
      refine ⟨gone, rfl, hb.frees ?_ hr⟩
      by_cases hlogged : Logged log
      · exact (hrecent hlogged).order.imp fun hlt _ => hlt
      · exact List.pairwise_of_forall fun _ _ hl => absurd hl hlogged

end Run

/-- Two handles are acquired and released in the other order, and one may be idle: the first one,
which is released last, is closed by that. -/
theorem Run.bounded_recency_crossed :
    let c := stubborn.connector 1
    let s : Session (Ledger Unit Unit) := { world := { outside := () } }
    let p : Pipeline := ⟨some "p", ["n1"], "n1", .opened, .standAlone, .one, by decide⟩
    let q : Pipeline := ⟨some "q", ["n2"], "n2", .opened, .standAlone, .one, by decide⟩
    let first : Handle (Numbered Unit) := ⟨0, p, ⟨0, ()⟩, 1⟩
    let second : Handle (Numbered Unit) := ⟨1, q, ⟨1, ()⟩, 1⟩
    let r := ((Request.acquire p 7).serve c).runFrom s
    let r' := ((Request.acquire q 8).serve c).runFrom r.2
    let r'' := ((Request.release second).serve c).runFrom r'.2
    let log := [⟨.acquire p 7, r.1⟩, ⟨.acquire q 8, r'.1⟩, ⟨.release second, r''.1⟩]
    stubborn.Orderly ∧ Log.Writable s ∧ r''.2.world.books.closed = [] ∧
      r''.2.world.books.pool.cached.countP Handle.isIdle ≤ 1 ∧
      (((Request.release first).serve c).runFrom r''.2).2.world.books.closed = [0] ∧
      ∃ gone, [0] = r''.2.world.books.closed ++ gone.map (fun a => a.client.number) ∧
        r''.2.world.books.pool.Frees 1 0
          (fun k k' => Logged log → lastAcquired log k < lastAcquired log k') gone := by
  intro c s p q first second r r' r'' log
  have hs : Log.Writable s := .inr (List.forall_mem_nil _)
  have run : Run c s log r''.2 :=
    .serve (.serve (.serve .start (.acquire p 7)) (.acquire q 8)) (.release second)
  obtain ⟨hbound, -, -, hrelease⟩ := Run.bounded_recency orderly_stubborn hs rfl run
  have hnone : r''.2.world.books.closed = [] := by decide +kernel
  have hone : (((Request.release first).serve c).runFrom r''.2).2.world.books.closed = [0] := by
    decide +kernel
  clear_value log r'' r' r
  obtain ⟨gone, hclosed, hfrees⟩ := hrelease first
  exact ⟨orderly_stubborn, hs, hnone, hbound, hone, gone, hone.symm.trans hclosed, hfrees⟩

/-- Clients whose closing is interrupted. -/
def interrupted : Source Unit Unit where
  openClient _ := pure ()
  closeClient _ := throw (.fault .keyboardInterrupt none)

/-- A handle for `p` is acquired, and then one for `q`. Another one for `p` is taken, but not given
out: the id of the container is too long to be logged, or the closing of the idle handle that it
takes the place of is interrupted. So `q` was acquired last, but `p` is the last key in the
cache. -/
theorem Run.not_recent_refused :
    let s : Session (Ledger Unit Unit) := { world := { outside := () } }
    let p : Pipeline := ⟨some "p", ["n1"], "n1", .opened, .standAlone, .one, by decide⟩
    let moved : Pipeline := ⟨some "p", ["n2"], "n2", .opened, .standAlone, .one, by decide⟩
    let q : Pipeline := ⟨some "q", ["n1"], "n1", .opened, .standAlone, .one, by decide⟩
    let long := Int.ofNat (Nat.pow 10 Decimal.maxDigits)
    let r := serveAll (stubborn.connector 4) s [.acquire p 7, .acquire q 8, .acquire p long]
    let r' := serveAll (interrupted.connector 4) s
      [.acquire p 7, .acquire q 8, .release ⟨0, p, ⟨0, ()⟩, 1⟩, .acquire moved 9]
    stubborn.Orderly ∧ Log.Writable s ∧
      (Run (stubborn.connector 4) s r.1 r.2 ∧
        r.2.world.books.pool.cached.map Handle.key = ["q", "p"] ∧
        lastAcquired r.1 "p" = 1 ∧ lastAcquired r.1 "q" = 2) ∧
      (Run (interrupted.connector 4) s r'.1 r'.2 ∧
        r'.2.world.books.pool.cached.map Handle.key = ["q", "p"] ∧
        lastAcquired r'.1 "p" = 1 ∧ lastAcquired r'.1 "q" = 2) := by
  intro s p moved q long r r'
  have run : Run (stubborn.connector 4) s r.1 r.2 := run_serveAll _ _ _
  have run' : Run (interrupted.connector 4) s r'.1 r'.2 := run_serveAll _ _ _
  refine ⟨orderly_stubborn, .inr (List.forall_mem_nil _), ⟨run, ?_⟩, run', ?_⟩
  · decide +kernel
  · decide +kernel

end Pool

end Stowage
