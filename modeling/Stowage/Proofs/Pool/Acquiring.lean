import Stowage.Proofs.Pool.InUse

/-!
What acquiring a handle comes to, and that a refusal changes nothing.

`Acquisition` says exactly how an attempt to acquire a handle ends, from the session that it is made
in. Either it is refused (`Refuses`): the pipeline has no key, or no handle is current for it and no
client can be opened. Or a handle is given out, which succeeds unless a number in the line that is
logged about it is too long to be written (`handOut`). A client is opened before anything else
happens, so that a refusal leaves the books as they were (`Run.refused_unchanged`).
-/

namespace Stowage.Pool

variable {σ κ : Type} {source : Source σ κ} {maxIdle : Nat} {t : Session (Ledger σ κ)}
  {pipeline : Pipeline} {containerId : Int} {answer : Answer κ} {b' : Books κ} {f : Failure}

/-- How opening a client for a pipeline ends in a session. -/
def Source.opening (source : Source σ κ) (t : Session (Ledger σ κ)) (pipeline : Pipeline) :
    Except Failure κ :=
  ((source.openClient pipeline).runFrom (t.withWorld t.world.outside)).1

/-- What giving a handle out on behalf of a container comes to: the handle, unless a number in the
line that is logged about it is too long to be written. -/
def handOut (containerId : Int) (h : Handle (Numbered κ)) : Answer κ :=
  if Decimal.isOverlong containerId || Decimal.isOverlong h.holders then .error .overlongInteger
  else .ok (some h)

/-- Why a handle cannot be acquired for a pipeline. -/
inductive Refuses (source : Source σ κ) (t : Session (Ledger σ κ)) (pipeline : Pipeline) :
    Failure → Prop
  | nameless : pipeline.key = "" → Refuses source t pipeline Connector.noKey
  | unopened (f : Failure) : pipeline.key ≠ "" → t.world.books.pool.current? pipeline = none →
    source.opening t pipeline = .error f →
    Refuses source t pipeline (Connector.openFailure pipeline f)

/-- What acquiring a handle comes to, and the books after it. -/
inductive Acquisition (source : Source σ κ) (t : Session (Ledger σ κ)) (pipeline : Pipeline)
    (containerId : Int) : Answer κ → Books κ → Prop
  | refused (f : Failure) : Refuses source t pipeline f →
    Acquisition source t pipeline containerId (.error f) t.world.books
  | reused (h : Handle (Numbered κ)) : pipeline.key ≠ "" →
    t.world.books.pool.current? pipeline = some h →
    Acquisition source t pipeline containerId (handOut containerId h.hold)
      { t.world.books with pool := (t.world.books.pool.reuse h).2 }
  | opened (client : κ) : pipeline.key ≠ "" → t.world.books.pool.current? pipeline = none →
    source.opening t pipeline = .ok client →
    Acquisition source t pipeline containerId
      (handOut containerId
        (t.world.books.pool.enrol pipeline ⟨t.world.books.opened, client⟩).1)
      (t.world.books.enrol pipeline client)

/-! ## Flows from a session -/

/-- From a session a flow ends with an outcome and books that go together as `P` says, and log
records can be written after it. -/
def Arrives {α : Type} (body : Flow (Ledger σ κ) α) (t : Session (Ledger σ κ))
    (P : Except Failure α → Books κ → Prop) : Prop :=
  Log.Writable (body.runFrom t).2 ∧ P (body.runFrom t).1 (body.runFrom t).2.world.books

namespace Arrives

variable {α β : Type} {body : Flow (Ledger σ κ) α} {P : Except Failure α → Books κ → Prop}

theorem of_leads (ht : Log.Writable t) (h : Leads body t.world.books P) : Arrives body t P :=
  h t ht rfl

theorem bind {next : α → Flow (Ledger σ κ) β} {R : Except Failure β → Books κ → Prop}
    (hbody : Arrives body t P) (herror : ∀ f b', P (.error f) b' → R (.error f) b')
    (hok : ∀ a b', P (.ok a) b' → Leads (next a) b' R) : Arrives (body >>= next) t R := by
  unfold Arrives at hbody ⊢
  rw [Flow.runFrom_bind]
  generalize body.runFrom t = r at hbody ⊢
  rcases r with ⟨f | a, u⟩
  · exact ⟨hbody.1, herror f _ hbody.2⟩
  · exact hok a _ hbody.2 u hbody.1 rfl

theorem look {τ : Type} {slot : Slot (Ledger σ κ) τ} {next : τ → Flow (Ledger σ κ) α}
    (h : Arrives (next (slot.get t.world)) t P) : Arrives (Flow.look slot >>= next) t P := h

end Arrives

/-! ## Giving handles out -/

theorem handOut_eq_error {h : Handle (Numbered κ)} (hout : handOut containerId h = .error f) :
    f = .overlongInteger := by
  unfold handOut at hout
  split at hout
  · exact (Except.error.inj hout).symm
  · cases hout

namespace Source

variable {b : Books κ}

/-- What is given out is logged, which changes nothing and fails only for a number that is too
long. -/
theorem leads_handOut (h : Handle (Numbered κ)) (containerId : Int) :
    Leads (do
      Connector.logAcquired h containerId
      pure h : Flow (Ledger σ κ) (Handle (Numbered κ))) b fun o b' =>
      o.map some = handOut containerId h ∧ b' = b := by
  intro s hs hb
  obtain ⟨hwritable, -, hsame⟩ := leads_logAcquired h containerId s hs hb
  refine ⟨hwritable, ?_, hsame⟩
  have hline : ((Connector.logAcquired h containerId : Flow (Ledger σ κ) Unit).runFrom s).1 =
      if Decimal.isOverlong containerId || Decimal.isOverlong h.holders then
        .error .overlongInteger
      else .ok () := by
    by_cases hlong : (Decimal.isOverlong containerId || Decimal.isOverlong h.holders) = true
    · rw [if_pos hlong]
      refine Log.logWith_overlong s logger Log.debug "datanode handle acquired" ?_
      rcases Bool.or_eq_true_iff.1 hlong with hid | hcount
      · exact ⟨("container_id", .int containerId), by simp, hid⟩
      · exact ⟨("ref_count", .int h.holders), by simp, hcount⟩
    · rw [if_neg hlong]
      refine Log.logWith_ok hs logger Log.debug "datanode handle acquired" fun e he => ?_
      simp only [Bool.or_eq_true, not_or, Bool.not_eq_true] at hlong
      simp only [List.mem_cons, List.not_mem_nil, or_false] at he
      rcases he with rfl | rfl | rfl
      · exact ⟨rfl, hlong.1⟩
      · exact ⟨rfl, rfl⟩
      · exact ⟨rfl, hlong.2⟩
  rw [Flow.outcome_bind, hline]
  unfold handOut
  split <;> rfl

/-- How connecting ends is how opening a client ends. -/
theorem outcome_connect (source : Source σ κ) (maxIdle : Nat) (t : Session (Ledger σ κ))
    (pipeline : Pipeline) :
    (((source.connector maxIdle).connect pipeline).runFrom t).1 =
      match source.opening t pipeline with
      | .error f => .error (Connector.openFailure pipeline f)
      | .ok client => .ok ⟨t.world.books.opened, client⟩ := by
  have hopen : (((source.connector maxIdle).openClient pipeline).runFrom t).1 =
      (source.opening t pipeline).map fun client => ⟨t.world.books.opened, client⟩ := by
    change ((_ >>= _ : Flow (Ledger σ κ) (Numbered κ)).runFrom t).1 = _
    rw [Flow.runFrom_bind, Flow.runFrom_zoom]
    change _ = ((source.openClient pipeline).runFrom (t.withWorld (Ledger.side.get t.world))).1.map _
    generalize (source.openClient pipeline).runFrom (t.withWorld (Ledger.side.get t.world)) = r
    rcases r with ⟨f | client, u⟩ <;> rfl
  unfold Connector.connect
  rw [Flow.runFrom_bind_ok (Flow.runFrom_attempt _ t), hopen]
  cases source.opening t pipeline <;> rfl

/-- Connecting opens the client that can be opened in the session, or fails as that does. -/
theorem arrives_connect (h : source.Orderly) (ht : Log.Writable t) (pipeline : Pipeline) :
    Arrives ((source.connector maxIdle).connect pipeline) t fun o b' =>
      (∃ f, source.opening t pipeline = .error f ∧
        o = .error (Connector.openFailure pipeline f) ∧ b' = t.world.books) ∨
      ∃ client, source.opening t pipeline = .ok client ∧
        o = .ok ⟨t.world.books.opened, client⟩ ∧
        b' = { t.world.books with opened := t.world.books.opened + 1 } := by
  have hleads : Leads ((source.connector maxIdle).connect pipeline) t.world.books _ :=
    leads_connect h pipeline
  obtain ⟨hu, hbooks⟩ := hleads t ht rfl
  refine ⟨hu, ?_⟩
  rw [outcome_connect] at hbooks ⊢
  cases hopening : source.opening t pipeline with
  | error f =>
    rw [hopening] at hbooks
    rcases hbooks with ⟨_, -, hsame⟩ | ⟨_, hok, -⟩
    · exact .inl ⟨f, rfl, rfl, hsame⟩
    · cases hok
  | ok client =>
    rw [hopening] at hbooks
    rcases hbooks with ⟨_, hf, -⟩ | ⟨_, -, hmore⟩
    · cases hf
    · exact .inr ⟨client, rfl, rfl, hmore⟩

theorem arrives_openHandle (h : source.Orderly) (ht : Log.Writable t) (pipeline : Pipeline) :
    Arrives ((source.connector maxIdle).openHandle t.world.books.pool pipeline) t fun o b' =>
      (∃ f, source.opening t pipeline = .error f ∧
        o = .error (Connector.openFailure pipeline f) ∧ b' = t.world.books) ∨
      ∃ client, source.opening t pipeline = .ok client ∧
        o = .ok (t.world.books.pool.enrol pipeline ⟨t.world.books.opened, client⟩).1 ∧
        b' = t.world.books.enrol pipeline client := by
  rw [Connector.openHandle_eq]
  refine .bind (arrives_connect h ht pipeline) ?_ ?_
  · rintro f b' (⟨f', hopening, hf, hsame⟩ | ⟨_, -, hok, -⟩)
    · cases hf
      exact .inl ⟨f', hopening, rfl, hsame⟩
    · cases hok
  · rintro _ b' (⟨_, -, hf, -⟩ | ⟨client, hopening, hok, rfl⟩)
    · cases hf
    · cases hok
      exact .mono (leads_takeIn h pipeline client) fun o b' hp => .inr ⟨client, hopening, hp⟩

theorem arrives_acquire (h : source.Orderly) (ht : Log.Writable t) (pipeline : Pipeline)
    (containerId : Int) :
    Arrives ((source.connector maxIdle).acquire pipeline containerId) t fun o b' =>
      Acquisition source t pipeline containerId (o.map some) b' := by
  unfold Connector.acquire
  by_cases hkey : pipeline.key = ""
  · simp only [hkey, if_true]
    exact ⟨ht, .refused _ (.nameless hkey)⟩
  simp only [hkey, if_false]
  refine .look ?_
  have hslot : (source.connector maxIdle).slot.get t.world = t.world.books.pool := rfl
  rw [hslot]
  cases hcurrent : t.world.books.pool.current? pipeline with
  | some handle =>
    refine .of_leads ht (.step (leads_put (t.world.books.pool.reuse handle).2)
      (.step (.pure ⟨rfl, rfl⟩) (.mono (leads_handOut handle.hold containerId) ?_)))
    rintro o b' ⟨hout, rfl⟩
    rw [hout]
    exact .reused handle hkey hcurrent
  | none =>
    refine .bind (arrives_openHandle h ht pipeline) ?_ ?_
    · rintro f b' (⟨f', hopening, hf, rfl⟩ | ⟨_, -, hok, -⟩)
      · cases hf
        exact .refused _ (.unopened f' hkey hcurrent hopening)
      · cases hok
    · rintro _ b' (⟨_, -, hf, -⟩ | ⟨client, hopening, hok, rfl⟩)
      · cases hf
      · cases hok
        refine .mono (leads_handOut _ containerId) ?_
        rintro o b' ⟨hout, rfl⟩
        rw [hout]
        exact .opened client hkey hcurrent hopening

/-- **What acquiring comes to**, from the session that it is done in. -/
theorem arrives_serve_acquire (h : source.Orderly) (ht : Log.Writable t) (pipeline : Pipeline)
    (containerId : Int) :
    Arrives ((Request.acquire pipeline containerId).serve (source.connector maxIdle)) t
      (Acquisition source t pipeline containerId) :=
  .bind (arrives_acquire h ht pipeline containerId) (fun _ _ hp => hp) fun _ _ hp => .pure hp

end Source

/-! ## Refusals -/

theorem Refuses.ne_overlongInteger (h : Refuses source t pipeline f) : f ≠ .overlongInteger := by
  cases h with
  | nameless =>
    unfold Connector.noKey Failure.overlongInteger Failure.badValue
    nofun
  | unopened f =>
    intro heq
    simp only [Connector.openFailure] at heq
    split at heq
    · cases heq
    · split at heq
      · cases heq
      · -- what is no fault of the address is passed on as it is
        rename_i haddress
        rw [heq] at haddress
        exact haddress rfl

/-- A refused acquisition fails as it is refused, and leaves the books as they were. -/
theorem Acquisition.of_refuses (ha : Acquisition source t pipeline containerId answer b')
    (h : Refuses source t pipeline f) : answer = .error f ∧ b' = t.world.books := by
  cases ha with
  | refused g hg =>
    refine ⟨congrArg _ ?_, rfl⟩
    cases h with
    | nameless hkey => cases hg with
      | nameless => rfl
      | unopened _ hne => exact absurd hkey hne
    | unopened f hne _ hopening => cases hg with
      | nameless hkey => exact absurd hkey hne
      | unopened g _ _ hopening' =>
        rw [Except.error.inj (hopening.symm.trans hopening')]
  | reused _ hne hcurrent => cases h with
    | nameless hkey => exact absurd hkey hne
    | unopened _ _ hnone => cases hnone.symm.trans hcurrent
  | opened _ hne _ hok => cases h with
    | nameless hkey => exact absurd hkey hne
    | unopened _ _ _ hopening => cases hopening.symm.trans hok

/-- An acquisition that fails for another reason than the length of a number has been refused. -/
theorem Acquisition.refuses (ha : Acquisition source t pipeline containerId answer b')
    (hf : answer = .error f) (hne : f ≠ .overlongInteger) : Refuses source t pipeline f := by
  cases ha with
  | refused g hg =>
    cases hf
    exact hg
  | reused => exact absurd (handOut_eq_error hf) hne
  | opened => exact absurd (handOut_eq_error hf) hne

/-- A cached handle is given out for every pipeline with its key and its leader. -/
theorem Acquisition.of_current {h : Handle (Numbered κ)} (hkey : pipeline.key ≠ "")
    (hcurrent : t.world.books.pool.current? pipeline = some h)
    (ha : Acquisition source t pipeline containerId answer b') :
    answer = handOut containerId h.hold ∧
      b' = { t.world.books with pool := (t.world.books.pool.reuse h).2 } := by
  cases ha with
  | refused g hg => cases hg with
    | nameless hno => exact absurd hno hkey
    | unopened _ _ hnone => cases hnone.symm.trans hcurrent
  | reused h' _ hcurrent' =>
    cases hcurrent.symm.trans hcurrent'
    exact ⟨rfl, rfl⟩
  | opened _ _ hnone => cases hnone.symm.trans hcurrent

/-- A handle is opened where none is current and a client can be opened. -/
theorem Acquisition.of_opening {client : κ} (hkey : pipeline.key ≠ "")
    (hnone : t.world.books.pool.current? pipeline = none)
    (hopening : source.opening t pipeline = .ok client)
    (ha : Acquisition source t pipeline containerId answer b') :
    answer = handOut containerId
        (t.world.books.pool.enrol pipeline ⟨t.world.books.opened, client⟩).1 ∧
      b' = t.world.books.enrol pipeline client := by
  cases ha with
  | refused g hg => cases hg with
    | nameless hno => exact absurd hno hkey
    | unopened _ _ _ hfails => cases hopening.symm.trans hfails
  | reused h' _ hcurrent => cases hnone.symm.trans hcurrent
  | opened client' _ _ hopening' =>
    cases hopening.symm.trans hopening'
    exact ⟨rfl, rfl⟩

theorem current?_of_find? {pool : Pool κ} {h : Handle κ} (hfind : pool.find? pipeline.key = some h)
    {former : Pipeline} (hkey : former.key = pipeline.key)
    (hleader : former.leader = h.pipeline.leader) : pool.current? former = some h := by
  unfold current?
  rw [hkey, hfind]
  exact Option.filter_eq_some_iff.2 ⟨rfl, beq_iff_eq.2 hleader.symm⟩

/-- **A refused acquisition changes nothing.** In every state of a pool, and for every pipeline: if
the pipeline has no key, or no handle is current for it and a client cannot be opened, acquiring a
handle fails, and the books are what they were: the cache and its order, the retired handles, how
often each is held, and which clients have been closed. So a handle that is cached for the pipeline
with another leader stays open, and whoever acquires one for that other leader next gets it. Nothing
else makes an acquisition fail, but for a number that is too long to be logged. -/
theorem Run.refused_unchanged (h : source.Orderly) {s : Session (Ledger σ κ)}
    {log : List (Served κ)} (hs : Log.Writable s) (hempty : s.world.books = {})
    (run : Run (source.connector maxIdle) s log t) (pipeline : Pipeline) (containerId : Int) :
    let c := source.connector maxIdle
    let b := t.world.books
    let r := ((Request.acquire pipeline containerId).serve c).runFrom t
    (∀ f, Refuses source t pipeline f → r.1 = .error f ∧ r.2.world.books = b ∧
      ∀ old, pipeline.key ≠ "" → b.pool.find? pipeline.key = some old →
        old ∈ r.2.world.books.pool.cached ∧ old.client.number ∉ r.2.world.books.closed ∧
        ∀ (former : Pipeline) id, former.key = pipeline.key →
          former.leader = old.pipeline.leader →
            let r' := ((Request.acquire former id).serve c).runFrom r.2
            r'.1 = handOut id old.hold ∧
              r'.2.world.books = { b with pool := (b.pool.reuse old).2 }) ∧
      ∀ f, Refuses source t pipeline f ↔ r.1 = .error f ∧ f ≠ .overlongInteger := by
  intro c b r
  obtain ⟨ht, hist⟩ := run.history h hs
  rw [hempty] at hist
  have hb : b.Balanced := Books.Balanced.empty.history hist
  obtain ⟨hu, hacquired⟩ := Source.arrives_serve_acquire h ht pipeline containerId
  have hrefused : ∀ f, Refuses source t pipeline f ↔ r.1 = .error f ∧ f ≠ .overlongInteger :=
    fun f => ⟨fun hf => ⟨(hacquired.of_refuses hf).1, hf.ne_overlongInteger⟩,
      fun hf => hacquired.refuses hf.1 hf.2⟩
  refine ⟨fun f hf => ?_, hrefused⟩
  obtain ⟨hfails, hsame⟩ := hacquired.of_refuses hf
  refine ⟨hfails, hsame, fun old hkey hfind => ?_⟩
  change r.2.world.books = b at hsame
  rw [hsame]
  have hold : old ∈ b.pool.cached := (mem_of_find? hfind).1
  refine ⟨hold, hb.not_mem_closed (List.mem_append_left _ hold), ?_⟩
  intro former id hformer hleader
  have hcurrent : r.2.world.books.pool.current? former = some old :=
    hsame ▸ current?_of_find? hfind hformer hleader
  have hagain : Arrives ((Request.acquire former id).serve c) r.2 _ :=
    Source.arrives_serve_acquire h hu former id
  obtain ⟨hanswer, hbooks⟩ := hagain.2.of_current (hformer ▸ hkey) hcurrent
  exact ⟨hanswer, hsame ▸ hbooks⟩

/-- The node `n2` has an address that no client can be opened for. -/
def reluctant : Source Unit Unit where
  openClient pipeline :=
    if pipeline.leader = "n2" then throw (.badUrl "Invalid port: 'n2'") else pure ()
  closeClient _ := pure ()

theorem orderly_reluctant : reluctant.Orderly where
  opened pipeline s hs := by
    unfold reluctant
    by_cases hleader : pipeline.leader = "n2"
    · simp only [hleader, if_true]
      exact hs
    · simp only [hleader, if_false]
      exact hs
  closed _ _ hs := hs
  failed _ _ _ hf := by cases hf

/-- While a handle is in use the pipeline comes with a leader for which no client can be opened; with
the old one the same handle is given out again. -/
theorem Run.refused_unchanged_leader :
    let c := reluctant.connector 4
    let s : Session (Ledger Unit Unit) := { world := { outside := () } }
    let pipeline : Pipeline :=
      ⟨some "p", ["n1", "n2"], "n1", .opened, .standAlone, .one, by decide⟩
    let moved : Pipeline := ⟨some "p", ["n1", "n2"], "n2", .opened, .standAlone, .one, by decide⟩
    let t := (((Request.acquire pipeline 7).serve c).runFrom s).2
    let r := ((Request.acquire moved 8).serve c).runFrom t
    let r' := ((Request.acquire pipeline 9).serve c).runFrom r.2
    let f := Connector.openFailure moved (.badUrl "Invalid port: 'n2'")
    reluctant.Orderly ∧ Log.Writable s ∧ Refuses reluctant t moved f ∧ r.1 = .error f ∧
      r.2.world.books = t.world.books ∧
      ∃ old ∈ r.2.world.books.pool.cached, old.number = 0 ∧ old.holders = 1 ∧
        r'.1 = .ok (some old.hold) := by
  intro c s pipeline moved t r r' f
  have hs : Log.Writable s := .inr (List.forall_mem_nil _)
  have run : Run c s _ t := .serve .start (.acquire pipeline 7)
  have hfirst : Arrives ((Request.acquire pipeline 7).serve c) s _ :=
    Source.arrives_serve_acquire orderly_reluctant hs pipeline 7
  have ht : t = (((Request.acquire pipeline 7).serve c).runFrom s).2 := rfl
  have hopening : reluctant.opening s pipeline = .ok () := rfl
  obtain ⟨-, hbooks⟩ := hfirst.2.of_opening (by decide) rfl hopening
  rw [← ht] at hbooks
  clear_value t
  have hcached : t.world.books.pool.find? moved.key = some ⟨0, pipeline, ⟨0, ()⟩, 1⟩ := by
    rw [hbooks]
    rfl
  have hnone : t.world.books.pool.current? moved = none := by
    rw [hbooks]
    rfl
  have hrefuses : Refuses reluctant t moved f := .unopened _ (by decide) hnone rfl
  have hunchanged := (Run.refused_unchanged orderly_reluctant hs rfl run moved 8).1 _ hrefuses
  obtain ⟨hfails, hsame, hold⟩ := hunchanged
  obtain ⟨hmem, -, hagain⟩ := hold _ (by decide) hcached
  refine ⟨orderly_reluctant, hs, hrefuses, hfails, hsame, _, hmem, rfl, rfl, ?_⟩
  refine (hagain pipeline 9 rfl rfl).1.trans ?_
  unfold handOut
  rw [if_neg (by decide +kernel)]

end Stowage.Pool
