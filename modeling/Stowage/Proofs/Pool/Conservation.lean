import Stowage.Proofs.Pool.Books

/-!
No client is lost and none is closed twice.

The books of a pool are balanced when the clients that have been closed are exactly those of the
handles that have been dropped (`Books.Balanced`). Every request leaves balanced books balanced, so
that at any time a client that has been opened is either in one handle that the pool keeps and has
not been closed, or in none and has been closed once (`Run.conserves`).
-/

namespace Stowage.Pool

variable {σ κ : Type}

namespace Books

/-- The clients closed are those of the handles dropped, and every handle has the client that was
opened for it. -/
structure Balanced (b : Books κ) : Prop where
  wf : b.pool.WF
  opened : b.opened = b.pool.opened
  closed : b.closed = b.pool.dropped.map fun h => h.client.number
  numbered : ∀ h ∈ b.pool.handles, h.client.number = h.number

namespace Balanced

variable {b b' : Books κ} {maxIdle : Nat}

theorem empty : ({} : Books κ).Balanced where
  wf := wf_empty
  opened := rfl
  closed := rfl
  numbered := List.forall_mem_nil _

/-- Moving handles about keeps the balance, if the clients of those that are gone are closed. -/
theorem moves (h : b.Balanced) {pool : Pool (Numbered κ)} {gone : List (Handle (Numbered κ))}
    (hm : Moves b.pool pool gone) : (close { b with pool } gone).Balanced where
  wf := h.wf.moves hm
  opened := h.opened.trans hm.opened.symm
  closed := by
    change b.closed ++ _ = pool.dropped.map _
    rw [hm.dropped, List.map_append, h.closed]
  numbered := by
    intro handle hh
    have hi : handle.identity ∈ b.pool.handles.map Handle.identity :=
      hm.identities.mem_iff.1 (List.mem_map_of_mem hh)
    obtain ⟨before, hb, heq⟩ := List.mem_map.1 hi
    have hn : before.number = handle.number := congrArg (·.1) heq
    have hc : before.client = handle.client := congrArg (·.2.2) heq
    rw [← hn, ← hc]
    exact h.numbered before hb

/-- Taking a new handle in keeps the balance. -/
theorem enrol (h : b.Balanced) (pipeline : Pipeline) (client : κ) :
    (b.enrol pipeline client).Balanced where
  wf := wf_enrol pipeline (Numbered.mk b.opened client) h.wf
  opened := congrArg (· + 1) h.opened
  closed := by
    change b.closed ++ _ = List.map _ (b.pool.dropped ++ _)
    rw [List.map_append, h.closed]
  numbered := by
    intro handle hh
    have hi := (enrol_identities pipeline ⟨b.opened, client⟩ h.wf).mem_iff.1
      (List.mem_map_of_mem hh)
    rcases List.mem_cons.1 hi with hnew | hi
    · have hn : handle.number = b.pool.opened := congrArg (·.1) hnew
      have hc : handle.client = ⟨b.opened, client⟩ := congrArg (·.2.2) hnew
      rw [hn, hc]
      exact h.opened
    · obtain ⟨before, hb, heq⟩ := List.mem_map.1 hi
      have hn : before.number = handle.number := congrArg (·.1) heq
      have hc : before.client = handle.client := congrArg (·.2.2) heq
      rw [← hn, ← hc]
      exact h.numbered before hb

/-- Every request keeps the balance. -/
theorem change {request : Request κ} {answer : Answer κ} (h : b.Balanced)
    (hc : b.Change maxIdle request answer b') : b'.Balanced := by
  cases hc with
  | refused => exact h
  | reused pipeline containerId handle _ hcurrent =>
    have hm := moves_reuse h.wf (mem_of_current? hcurrent).1
    have hb := h.moves hm
    simpa [close] using hb
  | opened pipeline containerId client => exact h.enrol pipeline client
  | ignored => exact h
  | released handle gone pool hr => exact h.moves (moves_release h.wf hr)
  | closed => exact h.moves (moves_clear b.pool)

theorem history {log : List (Served κ)} (h : b.Balanced) (hh : b.History maxIdle log b') :
    b'.Balanced := by
  induction hh with
  | start => exact h
  | change _ hc ih => exact ih.change hc

/-- A client that has been opened is either kept or has been closed. -/
theorem count_eq_one (h : b.Balanced) {k : Nat} (hk : k < b.opened) :
    (b.pool.tracked.map fun a => a.client.number).count k + b.closed.count k = 1 := by
  have hnumbers : (b.pool.handles.map fun a => a.client.number) =
      b.pool.handles.map Handle.number :=
    List.map_congr_left h.numbered
  have hone : (b.pool.handles.map Handle.number).count k = 1 := by
    rw [h.wf.numbers.count_eq]
    exact List.count_eq_one_of_mem List.nodup_range (List.mem_range.2 (h.opened ▸ hk))
  rw [h.closed, ← List.count_append, ← List.map_append]
  exact (congrArg (List.count k) hnumbers).trans hone

/-- Nothing is closed that has not been opened. -/
theorem closed_lt (h : b.Balanced) {k : Nat} (hk : k ∈ b.closed) : k < b.opened := by
  rw [h.closed] at hk
  obtain ⟨a, ha, rfl⟩ := List.mem_map.1 hk
  have hmem : a ∈ b.pool.handles := List.mem_append_right _ ha
  rw [h.numbered a hmem, h.opened]
  exact h.wf.number_lt hmem

end Balanced

/-- A request to release a handle or to close the pool always succeeds. -/
theorem Change.answer_ok {b b' : Books κ} {maxIdle : Nat} {request : Request κ}
    {answer : Answer κ} (h : b.Change maxIdle request answer b')
    (hr : ∀ pipeline containerId, request ≠ .acquire pipeline containerId) :
    answer = .ok none := by
  cases h with
  | refused pipeline containerId => exact absurd rfl (hr pipeline containerId)
  | reused pipeline containerId => exact absurd rfl (hr pipeline containerId)
  | opened pipeline containerId => exact absurd rfl (hr pipeline containerId)
  | ignored => rfl
  | released => rfl
  | closed => rfl

theorem History.answers_ok {b b' : Books κ} {maxIdle : Nat} {log : List (Served κ)}
    (h : b.History maxIdle log b') : ∀ e ∈ log,
      (∀ pipeline containerId, e.request ≠ .acquire pipeline containerId) →
        e.answer = .ok none := by
  induction h with
  | start => exact List.forall_mem_nil _
  | change _ hc ih =>
    intro e he
    rcases List.mem_append.1 he with he | he
    · exact ih e he
    · rw [List.mem_singleton.1 he]
      exact hc.answer_ok

/-- A pool that has just been closed keeps nothing. -/
theorem History.tracked_of_closed {b b' : Books κ} {maxIdle : Nat} {log : List (Served κ)}
    {answer : Answer κ} (h : b.History maxIdle (log ++ [⟨.close, answer⟩]) b') :
    b'.pool.tracked = [] := by
  generalize hlog : log ++ [(⟨.close, answer⟩ : Served κ)] = log' at h
  cases h with
  | start => exact absurd hlog (List.append_ne_nil_of_right_ne_nil _ (List.cons_ne_nil _ _))
  | change _ hc =>
    obtain ⟨-, he⟩ := List.append_inj' hlog rfl
    cases he
    cases hc
    rfl

end Books

/-- Clients that cannot be closed without a failure. -/
def stubborn : Source Unit Unit where
  openClient _ := pure ()
  closeClient _ := throw (.fault .runtimeError none)

theorem orderly_stubborn : stubborn.Orderly where
  opened _ _ hs := hs
  closed _ _ hs := hs
  failed _ _ f hf := by
    cases hf
    rfl

end Stowage.Pool
