import Stowage.Proofs.Pool.Connections

/-!
Which connections are open while handles come and go.

Every handle works over a connection of its own, and none over the one that the placement service is
reached by (`Attached`). A connection is closed with its client only, and a client only after its
handle has been dropped or when the placement service is let go of. So the connection of a handle
that is kept is open, and a handle that is given out can be used (`Acquires.serviceable`).
-/

namespace Stowage

open Http (Client)

/-- A client that speaks JSON, over a connection that is open. -/
structure World.Serviceable (w : World) (client : Client) : Prop where
  headers : client.headers = Placement.jsonHeaders
  connection : ∃ n, client.carrier = .connection n ∧ n ∉ w.network.closed

theorem World.Serviceable.closes {w w' : World} {client : Client} (h : w.Serviceable client)
    (hc : Pool.Closes w [] w') : w'.Serviceable client := by
  obtain ⟨hheaders, n, hcarrier, hopen⟩ := h
  refine ⟨hheaders, n, hcarrier, fun hn => ?_⟩
  rcases hc.closed n hn with hn | ⟨_, hmem, -⟩
  · exact hopen hn
  · cases hmem

namespace Pool

variable {nodes : DatanodeSettings} {pipeline : Pipeline} {w w' : World} {own : Nat}

/-- Every handle has a connection of its own, other than the one with the number `own`; those of the
handles that are kept are open. -/
structure Attached (own : Nat) (w : World) : Prop where
  wf : w.pool.WF
  clients : ∀ a ∈ w.pool.handles, a.client.headers = Placement.jsonHeaders ∧
    ∃ n < w.network.opened, n ≠ own ∧ a.client.carrier = .connection n
  apart : (w.pool.handles.map fun a => a.client.carrier).Nodup
  unclosed : ∀ client, w.pool.Has client → ∀ n ∈ w.network.closed, client.carrier ≠ .connection n
  closed : ∀ n ∈ w.network.closed, n < w.network.opened
  own : own < w.network.opened

theorem carriers_of_identities (l : List NetworkHandle) :
    (l.map fun a => a.client.carrier) = (l.map Handle.identity).map fun i => i.2.2.carrier := by
  rw [List.map_map]
  rfl

namespace Attached

/-- A pool without handles, beside a connection. -/
theorem empty (hpool : w.pool = {}) (hclosed : ∀ n ∈ w.network.closed, n < w.network.opened)
    (hown : own < w.network.opened) : Attached own w where
  wf := hpool ▸ wf_empty
  clients := hpool ▸ List.forall_mem_nil _
  apart := hpool ▸ List.nodup_nil
  unclosed := by
    rintro _ ⟨a, ha, -⟩
    rw [hpool] at ha
    cases ha
  closed := hclosed
  own := hown

/-- Trace identifiers may be drawn. -/
theorem drawn (h : Attached own w) {traces : Nat} : Attached own { w with traces } :=
  ⟨h.wf, h.clients, h.apart, h.unclosed, h.closed, h.own⟩

/-- A client that the pool has is serviceable. -/
theorem serviceable (h : Attached own w) {client : Client} (hhas : w.pool.Has client) :
    w.Serviceable client := by
  obtain ⟨a, ha, rfl⟩ := hhas
  obtain ⟨hheaders, n, -, -, hcarrier⟩ := h.clients a (List.mem_append_left _ ha)
  exact ⟨hheaders, n, hcarrier, fun hn => h.unclosed _ ⟨a, ha, rfl⟩ n hn hcarrier⟩

/-- No client that the pool has shares its connection with a client that has been dropped. -/
theorem ne_dropped (h : Attached own w) {client : Client} (hhas : w.pool.Has client)
    {b : NetworkHandle} (hb : b ∈ w.pool.dropped) : client.carrier ≠ b.client.carrier := by
  obtain ⟨a, ha, rfl⟩ := hhas
  have hapart := h.apart
  unfold handles at hapart
  rw [List.map_append] at hapart
  exact (List.nodup_append.1 hapart).2.2 _ (List.mem_map_of_mem ha) _ (List.mem_map_of_mem hb)

/-- Clients of dropped handles may be closed, and so may the client over the connection `own`. -/
theorem closes (h : Attached own w) {gone : List Client} (hc : Closes w gone w')
    (hgone : ∀ client ∈ gone, client.carrier = .connection own ∨
      ∃ b ∈ w.pool.dropped, b.client = client) : Attached own w' where
  wf := hc.pool ▸ h.wf
  clients := by
    rw [hc.pool, hc.opened]
    exact h.clients
  apart := hc.pool ▸ h.apart
  unclosed client hhas n hn hcarrier := by
    rw [hc.pool] at hhas
    rcases hc.closed n hn with hn | ⟨other, hother, hn⟩
    · exact h.unclosed client hhas n hn hcarrier
    · rcases hgone other hother with hown | ⟨b, hb, rfl⟩
      · obtain ⟨a, ha, rfl⟩ := hhas
        obtain ⟨-, m, -, hne, hm⟩ := h.clients a (List.mem_append_left _ ha)
        rw [hm] at hcarrier
        rw [hown] at hn
        exact hne ((Http.Carrier.connection.inj hcarrier).trans
          (Http.Carrier.connection.inj hn).symm)
      · exact h.ne_dropped hhas hb (hcarrier.trans hn.symm)
  closed n hn := by
    rw [hc.opened]
    rcases hc.closed n hn with hn | ⟨other, hother, hn⟩
    · exact h.closed n hn
    · rcases hgone other hother with hown | ⟨b, hb, rfl⟩
      · rw [hown] at hn
        exact Http.Carrier.connection.inj hn ▸ h.own
      · obtain ⟨-, m, hlt, -, hm⟩ := h.clients b (List.mem_append_right _ hb)
        rw [hm] at hn
        exact Http.Carrier.connection.inj hn ▸ hlt
  own := hc.opened ▸ h.own

/-- Handles may be moved about. -/
theorem moves (h : Attached own w) {after : Pool Client} {gone : List NetworkHandle}
    (hm : Moves w.pool after gone) (hhas : ∀ client, after.Has client → w.pool.Has client) :
    Attached own { w with pool := after } where
  wf := h.wf.moves hm
  clients a ha := by
    obtain ⟨b, hb, hi⟩ := List.mem_map.1 (hm.identities.subset (List.mem_map_of_mem ha))
    have hclient : b.client = a.client := congrArg (·.2.2) hi
    exact hclient ▸ h.clients b hb
  apart := by
    have hapart := h.apart
    rw [carriers_of_identities] at hapart ⊢
    exact (hm.identities.map _).nodup_iff.2 hapart
  unclosed client hc := h.unclosed client (hhas client hc)
  closed := h.closed
  own := h.own

/-- A handle may be taken in for a client that has just been opened. -/
theorem enrol (h : Attached own w) {client : Client} (hopened : Opened nodes w pipeline client) :
    Attached own { w.connected with pool := (w.pool.enrol pipeline client).2 } where
  wf := wf_enrol pipeline client h.wf
  clients a ha := by
    have hperm := enrol_identities pipeline client h.wf
    rcases List.mem_cons.1 (hperm.subset (List.mem_map_of_mem ha)) with hi | hi
    · have hclient : a.client = client := congrArg (·.2.2) hi
      rw [hclient]
      exact ⟨hopened.headers, _, Nat.lt_succ_self _, Nat.ne_of_gt h.own, hopened.carrier⟩
    · obtain ⟨b, hb, hi⟩ := List.mem_map.1 hi
      have hclient : b.client = a.client := congrArg (·.2.2) hi
      obtain ⟨hheaders, n, hlt, hne, hcarrier⟩ := h.clients b hb
      exact hclient ▸ ⟨hheaders, n, Nat.lt_succ_of_lt hlt, hne, hcarrier⟩
  apart := by
    have hapart := h.apart
    rw [carriers_of_identities] at hapart ⊢
    have hperm := enrol_identities pipeline client h.wf
    refine (hperm.map _).nodup_iff.2 (List.nodup_cons.2 ⟨fun hmem => ?_, hapart⟩)
    rw [← carriers_of_identities] at hmem
    obtain ⟨b, hb, hcarrier⟩ := List.mem_map.1 hmem
    obtain ⟨-, n, hlt, -, hn⟩ := h.clients b hb
    have heq : Http.Carrier.connection n = .connection w.network.opened :=
      hn.symm.trans (hcarrier.trans hopened.carrier)
    exact Nat.ne_of_lt hlt (Http.Carrier.connection.inj heq)
  unclosed other hhas n hn hcarrier := by
    rcases has_of_enrol hhas with rfl | hhas
    · -- the connection has not been there when the others were closed
      rw [hopened.carrier] at hcarrier
      exact Nat.ne_of_gt (h.closed n hn) (Http.Carrier.connection.inj hcarrier)
    · exact h.unclosed other hhas n hn hcarrier
  closed n hn := Nat.lt_succ_of_lt (h.closed n hn)
  own := Nat.lt_succ_of_lt h.own

end Attached

/-! ## Requests -/

theorem Acquires.attached {outcome : Except Failure NetworkHandle}
    (ha : Acquires nodes w pipeline outcome w') (h : Attached own w) : Attached own w' := by
  cases ha with
  | refused => exact h
  | reused handle _ hcurrent =>
    have hcached := (mem_of_current? hcurrent).1
    exact h.moves (moves_reuse h.wf hcached) fun _ => has_of_reuse hcached
  | opened client _ _ _ hopened _ hcloses =>
    refine (h.enrol hopened).closes hcloses fun other hother => .inr ?_
    obtain ⟨b, hb, rfl⟩ := List.mem_map.1 hother
    exact ⟨b, List.mem_append_right _ hb, rfl⟩

theorem Releases.attached {number : Nat} (hr : Releases nodes w number w') (h : Attached own w) :
    Attached own w' := by
  cases hr with
  | ignored => exact h
  | released gone pool _ hrelease hcloses =>
    have hmoves := moves_release h.wf hrelease
    refine (h.moves hmoves (has_of_release hrelease).1).closes hcloses fun other hother => .inr ?_
    obtain ⟨b, hb, rfl⟩ := List.mem_map.1 hother
    refine ⟨b, ?_, rfl⟩
    change b ∈ pool.dropped
    rw [hmoves.dropped]
    exact List.mem_append_right _ hb

/-- Closing clients of handles leaves the connection `own` open. -/
theorem Attached.unclosed_own (h : Attached own w) {gone : List Client} (hc : Closes w gone w')
    (hgone : ∀ client ∈ gone, ∃ b ∈ w.pool.handles, b.client = client)
    (hown : own ∉ w.network.closed) : own ∉ w'.network.closed := by
  intro hn
  rcases hc.closed own hn with hn | ⟨client, hclient, hcarrier⟩
  · exact hown hn
  · obtain ⟨b, hb, rfl⟩ := hgone client hclient
    obtain ⟨-, n, -, hne, hn⟩ := h.clients b hb
    exact hne (Http.Carrier.connection.inj (hn.symm.trans hcarrier))

theorem Acquires.unclosed_own {outcome : Except Failure NetworkHandle}
    (ha : Acquires nodes w pipeline outcome w') (h : Attached own w)
    (hown : own ∉ w.network.closed) : own ∉ w'.network.closed := by
  cases ha with
  | refused => exact hown
  | reused => exact hown
  | opened client _ _ _ hopened _ hcloses =>
    refine (h.enrol hopened).unclosed_own hcloses (fun other hother => ?_) hown
    obtain ⟨b, hb, rfl⟩ := List.mem_map.1 hother
    exact ⟨b, List.mem_append_right _ (List.mem_append_right _ hb), rfl⟩

theorem Releases.unclosed_own {number : Nat} (hr : Releases nodes w number w')
    (h : Attached own w) (hown : own ∉ w.network.closed) : own ∉ w'.network.closed := by
  cases hr with
  | ignored => exact hown
  | released gone pool _ hrelease hcloses =>
    have hmoves := moves_release h.wf hrelease
    refine (h.moves hmoves (has_of_release hrelease).1).unclosed_own hcloses
      (fun other hother => ?_) hown
    obtain ⟨b, hb, rfl⟩ := List.mem_map.1 hother
    refine ⟨b, List.mem_append_right _ ?_, rfl⟩
    change b ∈ pool.dropped
    rw [hmoves.dropped]
    exact List.mem_append_right _ hb

/-- The pool may be closed. -/
theorem Attached.clear (h : Attached own w)
    (hc : Closes { w with pool := w.pool.clear.2 } (w.pool.clear.1.map Handle.client) w') :
    Attached own w' := by
  refine (h.moves (moves_clear w.pool) ?_).closes hc fun other hother => .inr ?_
  · rintro client ⟨a, ha, -⟩
    cases ha
  · obtain ⟨b, hb, rfl⟩ := List.mem_map.1 hother
    exact ⟨b, List.mem_append_right _ hb, rfl⟩

/-- **A handle that is given out can be used**: its client is over an open connection. -/
theorem Acquires.serviceable {a : NetworkHandle} (ha : Acquires nodes w pipeline (.ok a) w')
    (h : Attached own w) : w'.Serviceable a.client :=
  (ha.attached h).serviceable (has_of_cached ha.given.1)

end Pool

end Stowage
