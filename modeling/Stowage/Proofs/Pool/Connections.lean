import Stowage.Proofs.Service.Fresh

/-!
What a pool over the network does to the world of the service.

Acquiring and releasing handles changes the pool and which connections are open, and nothing else.
`turns_acquire` says what acquiring can come to, case by case; releasing and closing the pool put
another pool in place and close connections of the handles that are dropped (`turns_release`,
`turns_close`). Nothing is supposed of the logging context: a log line that cannot be written ends
a request after the pool has changed.
-/

namespace Stowage

namespace Session

variable {σ : Type}

/-- Sessions that differ in nothing but the world, and in log lines, spans and measurements. -/
structure Quiet (s t : Session σ) : Prop where
  context : t.context = s.context
  logging : t.logging = s.logging
  requests : t.requests = s.requests

namespace Quiet

variable {s t u : Session σ}

theorem refl (s : Session σ) : s.Quiet s := ⟨rfl, rfl, rfl⟩

theorem trans (h : s.Quiet t) (h' : t.Quiet u) : s.Quiet u :=
  ⟨h'.context.trans h.context, h'.logging.trans h.logging, h'.requests.trans h.requests⟩

theorem of_alike (h : s.Alike t) : s.Quiet t := ⟨h.context, h.logging, h.requests⟩

theorem writable (h : s.Quiet t) (hs : Log.Writable s) : Log.Writable t := by
  unfold Log.Writable at *
  rw [h.logging, h.context]
  exact hs

end Quiet

end Session

/-- The world after one more connection has been opened. -/
def World.connected (w : World) : World :=
  { w with network := { w.network with opened := w.network.opened + 1 } }

namespace Pool

open Http (Client Url)
open Service (Undisturbed)

variable {α β τ : Type} {nodes : DatanodeSettings} {w w' w'' : World}
  {gone gone' : List Client}

/-- The pool of the service. -/
abbrev wired (nodes : DatanodeSettings) : Connector World Client :=
  overNetwork World.poolSlot World.networkSlot nodes

/-- The URL that requests to a pipeline are appended to. -/
def baseFor (nodes : DatanodeSettings) (pipeline : Pipeline) : Except Failure Url :=
  (targetUrl nodes pipeline).bind fun url => (Url.parse url).bind Url.asBase

/-! ## Clients -/

/-- A client has been opened for a pipeline, over the connection that comes next. -/
structure Opened (nodes : DatanodeSettings) (w : World) (pipeline : Pipeline) (client : Client) :
    Prop where
  base : baseFor nodes pipeline = .ok client.base
  headers : client.headers = Placement.jsonHeaders
  carrier : client.carrier = .connection w.network.opened

/-- Some clients have been closed: connections of theirs, and nothing else. -/
structure Closes (w : World) (gone : List Client) (w' : World) : Prop where
  rest : w' = { w with network := w'.network }
  opened : w'.network.opened = w.network.opened
  closed : ∀ n ∈ w'.network.closed, n ∈ w.network.closed ∨
    ∃ client ∈ gone, client.carrier = .connection n

namespace Closes

theorem refl (w : World) (gone : List Client) : Closes w gone w :=
  ⟨rfl, rfl, fun _ hn => .inl hn⟩

/-- Nothing is closed by an answer of the network. -/
theorem answered (w : World) : Closes w [] { w with network := w.network.next.2 } where
  rest := rfl
  opened := Http.Network.next_opened w.network
  closed _ hn := .inl (Http.Network.next_closed w.network ▸ hn)

theorem pool (h : Closes w gone w') : w'.pool = w.pool := by
  rw [h.rest]

/-- Closing clients draws no trace identifiers. -/
theorem source (h : Closes w gone w') : w'.traceOf = w.traceOf ∧ w'.traces = w.traces := by
  rw [h.rest]
  exact ⟨rfl, rfl⟩

theorem trans (h : Closes w gone w') (h' : Closes w' gone' w'') :
    Closes w (gone ++ gone') w'' where
  rest := by
    rw [h'.rest, h.rest]
  opened := h'.opened.trans h.opened
  closed n hn := by
    rcases h'.closed n hn with hn | ⟨a, ha, hc⟩
    · rcases h.closed n hn with hn | ⟨a, ha, hc⟩
      · exact .inl hn
      · exact .inr ⟨a, List.mem_append_left _ ha, hc⟩
    · exact .inr ⟨a, List.mem_append_right _ ha, hc⟩

end Closes

/-! ## Flows over the world -/

/-- From a given world a flow sends nothing and leaves the logging context alone, and it ends with
an outcome and a world that go together as `P` says. -/
def Turns (body : Flow World α) (w : World) (P : Except Failure α → World → Prop) : Prop :=
  ∀ s : Session World, s.world = w → s.Quiet (body.runFrom s).2 ∧
    P (body.runFrom s).1 (body.runFrom s).2.world

namespace Turns

variable {body : Flow World α} {P Q : Except Failure α → World → Prop}

theorem mono (h : Turns body w P) (hPQ : ∀ o w', P o w' → Q o w') : Turns body w Q :=
  fun s hs => ⟨(h s hs).1, hPQ _ _ (h s hs).2⟩

theorem pure {a : α} (h : P (.ok a) w) : Turns (Pure.pure a : Flow World α) w P := by
  rintro s rfl
  exact ⟨.refl s, h⟩

theorem throw {f : Failure} (h : P (.error f) w) :
    Turns (MonadExcept.throw f : Flow World α) w P := by
  rintro s rfl
  exact ⟨.refl s, h⟩

theorem bind {next : α → Flow World β} {R : Except Failure β → World → Prop}
    (hbody : Turns body w P) (herror : ∀ f w', P (.error f) w' → R (.error f) w')
    (hok : ∀ a w', P (.ok a) w' → Turns (next a) w' R) : Turns (body >>= next) w R := by
  intro s hs
  rw [Flow.runFrom_bind]
  obtain ⟨hquiet, hP⟩ := hbody s hs
  generalize body.runFrom s = r at hquiet hP ⊢
  rcases r with ⟨f | a, t⟩
  · exact ⟨hquiet, herror f _ hP⟩
  · obtain ⟨hquiet', hR⟩ := hok a _ hP t rfl
    exact ⟨hquiet.trans hquiet', hR⟩

/-- A flow that always succeeds in the same way is passed over. -/
theorem step {next : α → Flow World β} {R : Except Failure β → World → Prop} {a : α}
    (hbody : Turns body w fun o w'' => o = .ok a ∧ w'' = w') (hnext : Turns (next a) w' R) :
    Turns (body >>= next) w R := by
  refine .bind hbody ?_ ?_
  · rintro f _ ⟨hf, -⟩
    cases hf
  · rintro _ _ ⟨ha, rfl⟩
    cases ha
    exact hnext

theorem look (slot : Slot World τ) :
    Turns (Flow.look slot) w fun o w' => o = .ok (slot.get w) ∧ w' = w := by
  rintro s rfl
  exact ⟨.refl s, rfl, rfl⟩

theorem put (slot : Slot World τ) (part : τ) :
    Turns (Flow.put slot part) w fun o w' => o = .ok () ∧ w' = slot.set part w := by
  rintro s rfl
  exact ⟨⟨rfl, rfl, rfl⟩, rfl, rfl⟩

/-- A discreet flow leaves the world alone. -/
theorem discreet (h : body.Discreet) : Turns body w fun _ w' => w' = w := by
  rintro s rfl
  exact ⟨.of_alike (h s).1, (h s).1.world⟩

/-- A failure that is dealt with discreetly leaves the world as it was then. -/
theorem handling {deal : Failure → Flow World α} {R : World → Prop}
    (hbody : Turns body w fun _ w' => R w') (hdeal : ∀ f, (deal f).Discreet) :
    Turns (body.handling deal) w fun _ w' => R w' := by
  intro s hs
  rw [Flow.runFrom_handling]
  obtain ⟨hquiet, hR⟩ := hbody s hs
  generalize body.runFrom s = r at hquiet hR ⊢
  rcases r with ⟨f | a, t⟩
  · by_cases hf : f.isInterrupt = true
    · simp only [hf, if_true]
      exact ⟨hquiet, hR⟩
    · have halike := (hdeal f t).1
      simp only [hf]
      exact ⟨hquiet.trans (.of_alike halike), halike.world ▸ hR⟩
  · exact ⟨hquiet, hR⟩

end Turns

/-! ## Opening and closing -/

theorem turns_connect (pipeline : Pipeline) :
    Turns ((wired nodes).connect pipeline) w fun o w' => (∃ f, o = .error f ∧ w' = w) ∨
      ∃ client, o = .ok client ∧ Opened nodes w pipeline client ∧ w' = w.connected := by
  rintro s rfl
  rcases Undisturbed.runFrom_connect pipeline s with ⟨f, hf⟩ | ⟨client, hcarrier, hc⟩
  · rw [hf]
    exact ⟨.refl s, .inl ⟨f, rfl, rfl⟩⟩
  · obtain ⟨url, u, hurl, hconnect⟩ :=
      Flow.exists_of_bind_ok (Service.openClient_of_connect hc)
    obtain ⟨hheaders, hbase, -, -⟩ := Service.connect_client hconnect
    have htarget : targetUrl nodes pipeline = .ok url := (Prod.mk.inj hurl).1
    rw [hc]
    refine ⟨⟨rfl, rfl, rfl⟩, .inr ⟨client, rfl, ⟨?_, hheaders, hcarrier⟩, rfl⟩⟩
    rw [baseFor, htarget]
    exact hbase

theorem turns_disconnect (number : Nat) :
    Turns (Http.Network.disconnect World.networkSlot number) w fun _ w' =>
      w' = { w with network := w'.network } ∧ w'.network.opened = w.network.opened ∧
        ∀ n ∈ w'.network.closed, n ∈ w.network.closed ∨ n = number := by
  refine .step (.look _) ?_
  split
  · exact .pure ⟨rfl, rfl, fun n hn => .inl hn⟩
  · refine .step (.put _ _) (.mono (.discreet (.record rfl)) ?_)
    rintro _ _ rfl
    exact ⟨rfl, rfl, fun n hn => (List.mem_cons.1 hn).symm⟩

/-- Closing a client closes at most its own connection. -/
theorem turns_closeClient (client : Client) :
    Turns (client.close World.networkSlot) w fun _ w' => Closes w [client] w' := by
  unfold Client.close
  split
  · rename_i number hcarrier _
    refine .mono (turns_disconnect number) ?_
    rintro _ w' ⟨hrest, hopened, hclosed⟩
    refine ⟨hrest, hopened, fun n hn => (hclosed n hn).imp_right ?_⟩
    rintro rfl
    exact ⟨client, List.mem_cons_self, hcarrier⟩
  · exact .pure (.refl w _)

theorem turns_closeQuietly (handle : NetworkHandle) :
    Turns ((wired nodes).closeQuietly handle) w fun _ w' => Closes w [handle.client] w' :=
  .handling (turns_closeClient handle.client) fun _ => Log.discreet_logWith _ _ _ _

theorem turns_closeAll (gone : List NetworkHandle) :
    Turns ((wired nodes).closeAll gone) w fun _ w' => Closes w (gone.map Handle.client) w' := by
  induction gone generalizing w with
  | nil => exact .pure (.refl w [])
  | cons handle r ih =>
    refine .bind (turns_closeQuietly handle) (fun f w' h => ?_) fun _ w' h => ?_
    · exact h.trans (.refl w' (r.map Handle.client))
    · exact .mono ih fun _ w'' h' => h.trans h'

/-! ## Requests -/

/-- The clients of idle handles. -/
def idleClients (handles : List NetworkHandle) : List Client :=
  (handles.filter Handle.isIdle).map Handle.client

/-- What acquiring a handle can come to, and the world after it. A failure may come after the pool
has changed. -/
inductive Acquires (nodes : DatanodeSettings) (w : World) (pipeline : Pipeline) :
    Except Failure NetworkHandle → World → Prop
  | refused (f : Failure) : Acquires nodes w pipeline (.error f) w
  | reused (handle : NetworkHandle) (outcome : Except Failure NetworkHandle) :
    w.pool.current? pipeline = some handle →
    (∀ a, outcome = .ok a → a = (w.pool.reuse handle).1) →
    Acquires nodes w pipeline outcome { w with pool := (w.pool.reuse handle).2 }
  | opened (client : Client) (outcome : Except Failure NetworkHandle) (w' : World) :
    w.pool.current? pipeline = none → Opened nodes w pipeline client →
    (∀ a, outcome = .ok a → a = (w.pool.enrol pipeline client).1) →
    Closes { w.connected with pool := (w.pool.enrol pipeline client).2 }
      (idleClients (w.pool.find? pipeline.key).toList) w' →
    Acquires nodes w pipeline outcome w'

/-- What releasing the handle with a number can come to. -/
inductive Releases (nodes : DatanodeSettings) (w : World) (number : Nat) : World → Prop
  | ignored : w.pool.release? nodes.maxIdleHandles number = none → Releases nodes w number w
  | released (gone : List NetworkHandle) (pool : Pool Client) (w' : World) :
    w.pool.release? nodes.maxIdleHandles number = some (gone, pool) →
    Closes { w with pool } (gone.map Handle.client) w' → Releases nodes w number w'

/-- What is given out is logged; if it cannot be, it is not given out. -/
theorem turns_logAcquired (handle : NetworkHandle) (containerId : Int) :
    Turns (do
      Connector.logAcquired handle containerId
      pure handle : Flow World NetworkHandle) w fun o w' =>
      (∀ a, o = .ok a → a = handle) ∧ w' = w := by
  refine .bind (.discreet (Log.discreet_logWith _ _ _ _)) ?_ ?_
  · rintro f _ rfl
    exact ⟨fun a ha => (by cases ha), rfl⟩
  · rintro _ _ rfl
    exact .pure ⟨fun a ha => (Except.ok.inj ha).symm, rfl⟩

/-- A new handle is taken in, or no client could be opened. -/
theorem turns_openHandle (pipeline : Pipeline) :
    Turns ((wired nodes).openHandle w.pool pipeline) w fun o w' =>
      (∃ f, o = .error f ∧ w' = w) ∨ ∃ client, Opened nodes w pipeline client ∧
        (∀ a, o = .ok a → a = (w.pool.enrol pipeline client).1) ∧
        Closes { w.connected with pool := (w.pool.enrol pipeline client).2 }
          (idleClients (w.pool.find? pipeline.key).toList) w' := by
  refine .bind (turns_connect pipeline) ?_ ?_
  · rintro f _ (⟨-, -, rfl⟩ | ⟨_, hok, -⟩)
    · exact .inl ⟨f, rfl, rfl⟩
    · cases hok
  · rintro client _ (⟨_, hf, -⟩ | ⟨_, hok, hopened, rfl⟩)
    · cases hf
    · cases hok
      refine .mono (P := fun o w' => (∀ a, o = .ok a → a = (w.pool.enrol pipeline client).1) ∧
        Closes { w.connected with pool := (w.pool.enrol pipeline client).2 }
          (idleClients (w.pool.find? pipeline.key).toList) w') ?_
        fun o w' h => .inr ⟨client, hopened, h⟩
      refine .step (.put _ (w.pool.enrol pipeline client).2) ?_
      have hgiven : ∀ a, (Except.ok (w.pool.enrol pipeline client).1 : Except Failure _) = .ok a →
          a = (w.pool.enrol pipeline client).1 := fun a ha => (Except.ok.inj ha).symm
      cases hfind : w.pool.find? pipeline.key with
      | none => exact .pure ⟨hgiven, .refl _ _⟩
      | some old =>
        refine .bind (.discreet (Log.discreet_logWith _ _ _ _)) ?_ ?_
        · rintro f _ rfl
          exact ⟨fun a ha => (by cases ha), .refl _ _⟩
        · rintro _ _ rfl
          by_cases hidle : old.isIdle = true
          · have hgone : idleClients (some old).toList = [old.client] := by
              simp [idleClients, hidle]
            simp only [hidle, if_true, hgone]
            refine .bind (turns_closeQuietly old) (fun f w' h => ?_) fun _ w' h => ?_
            · exact ⟨fun a ha => (by cases ha), h⟩
            · exact .pure ⟨hgiven, h⟩
          · simp only [hidle]
            exact .pure ⟨hgiven, .refl _ _⟩

/-- **Acquiring comes to one of three things.** -/
theorem turns_acquire (pipeline : Pipeline) (containerId : Int) :
    Turns ((wired nodes).acquire pipeline containerId) w (Acquires nodes w pipeline) := by
  unfold Connector.acquire
  by_cases hkey : pipeline.key = ""
  · simp only [hkey, if_true]
    exact .throw (.refused Connector.noKey)
  · simp only [hkey, if_false]
    refine .step (.look _) ?_
    have hpool : (wired nodes).slot.get w = w.pool := rfl
    rw [hpool]
    cases hcurrent : w.pool.current? pipeline with
    | some handle =>
      refine .step (.put _ (w.pool.reuse handle).2) (.step (.pure ⟨rfl, rfl⟩) ?_)
      refine .mono (turns_logAcquired (w.pool.reuse handle).1 containerId) ?_
      rintro o _ ⟨hgiven, rfl⟩
      exact .reused handle o hcurrent hgiven
    | none =>
      refine .bind (turns_openHandle pipeline) ?_ ?_
      · rintro f w' (⟨-, -, rfl⟩ | ⟨client, hopened, -, hcloses⟩)
        · exact .refused f
        · exact .opened client _ w' hcurrent hopened (fun a ha => by cases ha) hcloses
      · rintro a w' (⟨_, hf, -⟩ | ⟨client, hopened, hgiven, hcloses⟩)
        · cases hf
        · refine .mono (turns_logAcquired a containerId) ?_
          rintro o _ ⟨hlogged, rfl⟩
          refine .opened client o _ hcurrent hopened (fun b hb => ?_) hcloses
          rw [hlogged b hb]
          exact hgiven a rfl

/-- Requests to the pool draw no trace identifiers. -/
theorem Acquires.source {pipeline : Pipeline} {outcome : Except Failure NetworkHandle}
    (ha : Acquires nodes w pipeline outcome w') :
    w'.traceOf = w.traceOf ∧ w'.traces = w.traces := by
  cases ha with
  | refused => exact ⟨rfl, rfl⟩
  | reused => exact ⟨rfl, rfl⟩
  | opened _ _ _ _ _ _ hcloses =>
    have hsource := hcloses.source
    exact hsource

theorem Releases.source {number : Nat} (hr : Releases nodes w number w') :
    w'.traceOf = w.traceOf ∧ w'.traces = w.traces := by
  cases hr with
  | ignored => exact ⟨rfl, rfl⟩
  | released _ _ _ _ hcloses =>
    have hsource := hcloses.source
    exact hsource

/-- What is given out is cached, and has the key and the leader of the pipeline. -/
theorem Acquires.given {pipeline : Pipeline} {a : NetworkHandle}
    (ha : Acquires nodes w pipeline (.ok a) w') :
    a ∈ w'.pool.cached ∧ a.pipeline.key = pipeline.key ∧ a.pipeline.leader = pipeline.leader ∧
      (a.pipeline = pipeline ∨ ∃ b ∈ w.pool.cached, b.pipeline = a.pipeline) := by
  cases ha with
  | reused handle _ hcurrent hgiven =>
    rw [hgiven a rfl]
    obtain ⟨hm, hkey, hleader⟩ := mem_of_current? hcurrent
    exact ⟨List.mem_append_right _ List.mem_cons_self, hkey, hleader, .inr ⟨handle, hm, rfl⟩⟩
  | opened client _ _ _ _ hgiven hcloses =>
    rw [hgiven a rfl, hcloses.pool]
    exact ⟨List.mem_append_right _ List.mem_cons_self, rfl, rfl, .inl rfl⟩

theorem turns_release (handle : NetworkHandle) :
    Turns ((wired nodes).release handle) w fun _ w' => Releases nodes w handle.number w' := by
  refine .step (.look _) ?_
  have hmax : (wired nodes).maxIdle = nodes.maxIdleHandles := rfl
  have hpool : (wired nodes).slot.get w = w.pool := rfl
  rw [hpool, hmax]
  cases hr : w.pool.release? nodes.maxIdleHandles handle.number with
  | none =>
    refine .mono (.discreet (Log.discreet_logWith _ _ _ _)) ?_
    rintro _ _ rfl
    exact .ignored hr
  | some r =>
    obtain ⟨gone, pool⟩ := r
    refine .step (.put _ pool) (.mono (turns_closeAll gone) fun _ w' h => ?_)
    exact .released gone pool w' hr h

theorem turns_close : Turns (wired nodes).close w fun _ w' =>
    Closes { w with pool := w.pool.clear.2 } (w.pool.clear.1.map Handle.client) w' :=
  .step (.look _) (.step (.put _ w.pool.clear.2) (turns_closeAll w.pool.clear.1))

end Pool

end Stowage
