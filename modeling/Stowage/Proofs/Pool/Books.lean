import Mathlib.Data.List.Induction
import Stowage.Pool.Connector
import Stowage.Proofs.Log.Discreet
import Stowage.Proofs.Pool.Operations

/-!
Pools whose clients are kept books of: which have been opened and which have been closed.

A source opens and closes clients in any way whatever. `Source.connector` numbers the clients that it
opens, so that no two are the same, and writes down every attempt to close one. What a request to
such a pool can do to the books is said by `Books.Change`, case by case, and `serve_change` says that
it does nothing else.
-/

namespace Stowage.Pool

variable {σ κ α β : Type}

/-- Where clients come from: how they are opened and closed. -/
structure Source (σ κ : Type) where
  openClient : Pipeline → Flow σ κ
  closeClient : κ → Flow σ Unit

/-- What is taken for granted of a source: that closing a client is not interrupted, and that after
neither log records are refused that were not before. -/
structure Source.Orderly (source : Source σ κ) : Prop where
  opened : ∀ pipeline s, Log.Writable s → Log.Writable ((source.openClient pipeline).runFrom s).2
  closed : ∀ client s, Log.Writable s → Log.Writable ((source.closeClient client).runFrom s).2
  failed : ∀ client s f, ((source.closeClient client).runFrom s).1 = .error f →
    f.isInterrupt = false

/-- A client with its number in order of opening. -/
structure Numbered (κ : Type) where
  number : Nat
  client : κ

/-- A pool, how many clients have been opened, and the numbers of those that have been closed, as
often as they have. -/
structure Books (κ : Type) where
  pool : Pool (Numbered κ) := {}
  opened : Nat := 0
  closed : List Nat := []

/-- A world in which books are kept, beside the world of the source. -/
structure Ledger (σ κ : Type) where
  books : Books κ := {}
  outside : σ

/-- The world that the source sees. -/
def Ledger.side : Slot (Ledger σ κ) σ := ⟨outside, fun outside l => { l with outside }⟩

/-- Change the books. -/
def update (f : Books κ → Books κ) : Flow (Ledger σ κ) Unit :=
  Flow.ofStep fun s => (.ok (), { s with world := { s.world with books := f s.world.books } })

/-- The pool of a source. -/
def Source.connector (source : Source σ κ) (maxIdle : Nat) :
    Connector (Ledger σ κ) (Numbered κ) where
  slot := ⟨fun l => l.books.pool, fun pool l => { l with books := { l.books with pool } }⟩
  openClient pipeline := do
    let client ← (source.openClient pipeline).zoom Ledger.side
    let opened ← Flow.ofStep fun s => (.ok s.world.books.opened, s)
    update fun b => { b with opened := b.opened + 1 }
    pure ⟨opened, client⟩
  closeClient client := do
    update fun b => { b with closed := b.closed ++ [client.number] }
    (source.closeClient client.client).zoom Ledger.side
  maxIdle := maxIdle

/-- Take a client that has been opened for a pipeline into a pool: what is left of opening a handle. -/
def Connector.takeIn (c : Connector σ κ) (pool : Pool κ) (pipeline : Pipeline) (client : κ) :
    Flow σ (Handle κ) := do
  let (h, pool') := pool.enrol pipeline client
  Flow.put c.slot pool'
  match pool.find? pipeline.key with
  | none => pure h
  | some old =>
    Log.logWith logger Log.info "datanode handle reopened for new pipeline leader"
      [("pipeline", .text pipeline.key), ("leader", .text pipeline.leader)]
    if old.isIdle then c.closeQuietly old
    pure h

theorem Connector.openHandle_eq (c : Connector σ κ) (pool : Pool κ) (pipeline : Pipeline) :
    c.openHandle pool pipeline = c.connect pipeline >>= c.takeIn pool pipeline := rfl

/-! ## Requests -/

/-- A request to a pool. -/
inductive Request (κ : Type) where
  | acquire (pipeline : Pipeline) (containerId : Int)
  | release (h : Handle (Numbered κ))
  | close

/-- What a request comes to: a handle when one is acquired. -/
abbrev Answer (κ : Type) : Type := Except Failure (Option (Handle (Numbered κ)))

/-- Serve a request. -/
def Request.serve (c : Connector σ (Numbered κ)) :
    Request κ → Flow σ (Option (Handle (Numbered κ)))
  | acquire pipeline containerId => do
    let h ← c.acquire pipeline containerId
    pure (some h)
  | release h => do
    c.release h
    pure none
  | close => do
    c.close
    pure none

/-- A request that has been served, and what it has come to. -/
structure Served (κ : Type) where
  request : Request κ
  answer : Answer κ

/-- Requests that are served one after the other. -/
inductive Run (c : Connector σ (Numbered κ)) (s : Session σ) :
    List (Served κ) → Session σ → Prop
  | start : Run c s [] s
  | serve {log : List (Served κ)} {t : Session σ} : Run c s log t → ∀ request : Request κ,
    Run c s (log ++ [⟨request, ((request.serve c).runFrom t).1⟩]) ((request.serve c).runFrom t).2

/-- The log of requests that are served one after the other, and the session after it. -/
def serveAll (c : Connector σ (Numbered κ)) (s : Session σ) (requests : List (Request κ)) :
    List (Served κ) × Session σ :=
  requests.foldl (fun (log, t) request =>
    let (answer, u) := (request.serve c).runFrom t
    (log ++ [⟨request, answer⟩], u)) ([], s)

theorem run_serveAll (c : Connector σ (Numbered κ)) (s : Session σ) (requests : List (Request κ)) :
    Run c s (serveAll c s requests).1 (serveAll c s requests).2 := by
  induction requests using List.reverseRecOn with
  | nil => exact .start
  | append_singleton before request ih =>
    unfold serveAll at ih ⊢
    rw [List.foldl_concat]
    exact .serve ih request

namespace Books

/-- The books after the clients of some handles have been closed. -/
def close (b : Books κ) (gone : List (Handle (Numbered κ))) : Books κ :=
  { b with closed := b.closed ++ gone.map fun h => h.client.number }

/-- The books after a new handle has been taken in for a pipeline, with a client that has been opened
for it. -/
def enrol (b : Books κ) (pipeline : Pipeline) (client : κ) : Books κ :=
  close { b with
      pool := (b.pool.enrol pipeline ⟨b.opened, client⟩).2
      opened := b.opened + 1 }
    ((b.pool.find? pipeline.key).toList.filter Handle.isIdle)

/-- What a request can do to the books, and what it then comes to. -/
inductive Change (b : Books κ) (maxIdle : Nat) : Request κ → Answer κ → Books κ → Prop
  | refused (pipeline : Pipeline) (containerId : Int) (f : Failure) :
    Change b maxIdle (.acquire pipeline containerId) (.error f) b
  | reused (pipeline : Pipeline) (containerId : Int) (h : Handle (Numbered κ))
    (answer : Answer κ) :
    b.pool.current? pipeline = some h →
    (∀ h', answer = .ok h' → h' = some (b.pool.reuse h).1) →
    Change b maxIdle (.acquire pipeline containerId) answer { b with pool := (b.pool.reuse h).2 }
  | opened (pipeline : Pipeline) (containerId : Int) (client : κ) (answer : Answer κ) :
    b.pool.current? pipeline = none →
    (∀ h', answer = .ok h' → h' = some (b.pool.enrol pipeline ⟨b.opened, client⟩).1) →
    Change b maxIdle (.acquire pipeline containerId) answer (b.enrol pipeline client)
  | ignored (h : Handle (Numbered κ)) :
    b.pool.release? maxIdle h.number = none →
    Change b maxIdle (.release h) (.ok none) b
  | released (h : Handle (Numbered κ)) (gone : List (Handle (Numbered κ)))
    (pool : Pool (Numbered κ)) :
    b.pool.release? maxIdle h.number = some (gone, pool) →
    Change b maxIdle (.release h) (.ok none) (close { b with pool } gone)
  | closed :
    Change b maxIdle .close (.ok none) (close { b with pool := b.pool.clear.2 } b.pool.clear.1)

/-- Changes of the books, one for every request that has been served. -/
inductive History (b : Books κ) (maxIdle : Nat) : List (Served κ) → Books κ → Prop
  | start : History b maxIdle [] b
  | change {log : List (Served κ)} {request : Request κ} {answer : Answer κ} {b' b'' : Books κ} :
    History b maxIdle log b' → b'.Change maxIdle request answer b'' →
    History b maxIdle (log ++ [⟨request, answer⟩]) b''

end Books

/-! ## Flows over books -/

/-- From given books, and where log records can be written, a flow ends with an outcome and books
that go together as `P` says, and log records can still be written. -/
def Leads (body : Flow (Ledger σ κ) α) (b : Books κ)
    (P : Except Failure α → Books κ → Prop) : Prop :=
  ∀ s, Log.Writable s → s.world.books = b → Log.Writable (body.runFrom s).2 ∧
    P (body.runFrom s).1 (body.runFrom s).2.world.books

namespace Leads

variable {body : Flow (Ledger σ κ) α} {b : Books κ} {P Q : Except Failure α → Books κ → Prop}

theorem mono (h : Leads body b P) (hPQ : ∀ o b', P o b' → Q o b') : Leads body b Q :=
  fun s hs hb => ⟨(h s hs hb).1, hPQ _ _ (h s hs hb).2⟩

theorem pure {a : α} (h : P (.ok a) b) : Leads (Pure.pure a : Flow (Ledger σ κ) α) b P :=
  fun s hs hb => ⟨hs, by rw [← hb] at h; exact h⟩

theorem throw {f : Failure} (h : P (.error f) b) :
    Leads (MonadExcept.throw f : Flow (Ledger σ κ) α) b P :=
  fun s hs hb => ⟨hs, by rw [← hb] at h; exact h⟩

theorem bind {next : α → Flow (Ledger σ κ) β} {R : Except Failure β → Books κ → Prop}
    (hbody : Leads body b P) (herror : ∀ f b', P (.error f) b' → R (.error f) b')
    (hok : ∀ a b', P (.ok a) b' → Leads (next a) b' R) : Leads (body >>= next) b R := by
  intro s hs hb
  rw [Flow.runFrom_bind]
  obtain ⟨ht, hP⟩ := hbody s hs hb
  generalize body.runFrom s = r at ht hP ⊢
  rcases r with ⟨f | a, t⟩
  · exact ⟨ht, herror f _ hP⟩
  · exact hok a _ hP t ht rfl

/-- A flow that always succeeds in the same way is passed over. -/
theorem step {next : α → Flow (Ledger σ κ) β} {R : Except Failure β → Books κ → Prop} {a : α}
    {b' : Books κ} (hbody : Leads body b fun o c => o = .ok a ∧ c = b')
    (hnext : Leads (next a) b' R) : Leads (body >>= next) b R := by
  refine .bind hbody ?_ ?_
  · rintro f c ⟨hf, -⟩
    cases hf
  · rintro _ c ⟨ha, rfl⟩
    cases ha
    exact hnext

/-- A flow of the source leaves the books alone. -/
theorem zoom {inner : Flow σ α} (hw : ∀ s, Log.Writable s → Log.Writable (inner.runFrom s).2) :
    Leads (inner.zoom Ledger.side) b fun o b' =>
      b' = b ∧ ∃ s, (inner.runFrom s).1 = o :=
  fun s hs hb => ⟨hw (s.withWorld s.world.outside) hs, hb, s.withWorld s.world.outside, rfl⟩

theorem update (f : Books κ → Books κ) :
    Leads (Pool.update f : Flow (Ledger σ κ) Unit) b fun o b' => o = .ok () ∧ b' = f b :=
  fun s hs hb => ⟨hs, rfl, by rw [← hb]; rfl⟩

/-- A discreet flow leaves the books alone. -/
theorem discreet (h : body.Discreet) : Leads body b fun _ b' => b' = b := by
  intro s hs hb
  have ha := (h s).1
  exact ⟨hs.alike ha, by rw [ha.world, hb]⟩

theorem logWith {logger message : String} {level : Nat} {entries : List (String × Value)}
    (he : Log.Bindable entries) :
    Leads (Log.logWith logger level message entries : Flow (Ledger σ κ) Unit) b fun o b' =>
      o = .ok () ∧ b' = b := by
  intro s hs hb
  obtain ⟨ht, hsame⟩ := discreet (Log.discreet_logWith logger level message entries) s hs hb
  exact ⟨ht, Log.logWith_ok hs logger level message he, hsame⟩

end Leads

/-! ## Requests and books -/

namespace Source

variable {source : Source σ κ} {maxIdle : Nat} {b : Books κ}

theorem leads_look : Leads (Flow.look (source.connector maxIdle).slot) b fun o b' =>
    o = .ok b.pool ∧ b' = b :=
  fun s hs hb => ⟨hs, by rw [← hb]; rfl, hb⟩

theorem leads_put (pool : Pool (Numbered κ)) :
    Leads (Flow.put (source.connector maxIdle).slot pool) b fun o b' =>
      o = .ok () ∧ b' = { b with pool } :=
  fun s hs hb => ⟨hs, rfl, by rw [← hb]; rfl⟩

/-! ### Closing clients -/

/-- Closing quietly is noted once and never fails. -/
theorem leads_closeQuietly (h : source.Orderly) (handle : Handle (Numbered κ)) :
    Leads ((source.connector maxIdle).closeQuietly handle) b fun o b' =>
      o = .ok () ∧ b' = b.close [handle] := by
  have hclose : Leads ((source.connector maxIdle).closeClient handle.client) b fun o b' =>
      b' = b.close [handle] ∧ ∀ f, o = .error f → f.isInterrupt = false := by
    refine .step (.update _) (.mono (.zoom (h.closed handle.client.client)) ?_)
    rintro o b' ⟨rfl, s, ho⟩
    exact ⟨rfl, fun f hf => h.failed _ s f (ho.trans hf)⟩
  intro s hs hb
  obtain ⟨ht, hbooks, hexception⟩ := hclose s hs hb
  unfold Connector.closeQuietly
  rw [Flow.runFrom_handling]
  generalize ((source.connector maxIdle).closeClient handle.client).runFrom s = r
    at ht hbooks hexception ⊢
  rcases r with ⟨f | ⟨⟩, t⟩
  · -- a client that fails to close is reported
    have hf : f.isInterrupt = false := hexception f rfl
    simp only [hf, Bool.false_eq_true, if_false]
    refine Leads.logWith (fun e he => ?_) t ht hbooks
    simp only [List.mem_cons, List.not_mem_nil, or_false] at he
    rcases he with rfl | rfl <;> exact ⟨rfl, rfl⟩
  · exact ⟨ht, rfl, hbooks⟩

theorem close_close (b : Books κ) (gone gone' : List (Handle (Numbered κ))) :
    (b.close gone).close gone' = b.close (gone ++ gone') := by
  simp [Books.close]

/-- All clients are closed, whether or not some of them fail to. -/
theorem leads_closeAll (h : source.Orderly) (gone : List (Handle (Numbered κ))) :
    Leads ((source.connector maxIdle).closeAll gone) b fun o b' =>
      o = .ok () ∧ b' = b.close gone := by
  induction gone generalizing b with
  | nil => exact .pure ⟨rfl, by simp [Books.close]⟩
  | cons handle r ih =>
    refine .step (leads_closeQuietly h handle) (.mono ih ?_)
    rintro o b' ⟨ho, rfl⟩
    exact ⟨ho, close_close b [handle] r⟩

/-! ### Acquiring -/

/-- Connecting opens a client, or fails and leaves the books alone. -/
theorem leads_connect (h : source.Orderly) (pipeline : Pipeline) :
    Leads ((source.connector maxIdle).connect pipeline) b fun o b' =>
      (∃ f, o = .error f ∧ b' = b) ∨
        ∃ client, o = .ok ⟨b.opened, client⟩ ∧ b' = { b with opened := b.opened + 1 } := by
  intro s hs hb
  have hopen : Leads ((source.connector maxIdle).openClient pipeline) b fun o b' =>
      (∃ f, o = .error f ∧ b' = b) ∨
        ∃ client, o = .ok ⟨b.opened, client⟩ ∧ b' = { b with opened := b.opened + 1 } := by
    refine .bind (.zoom (h.opened pipeline)) (fun f b' hp => .inl ⟨f, rfl, hp.1⟩) ?_
    rintro client b' ⟨rfl, -⟩ s hs rfl
    exact ⟨hs, .inr ⟨client, rfl, rfl⟩⟩
  obtain ⟨ht, hP⟩ := hopen s hs hb
  unfold Connector.connect
  rw [Flow.runFrom_bind_ok (Flow.runFrom_attempt _ s)]
  generalize ((source.connector maxIdle).openClient pipeline).runFrom s = r at ht hP ⊢
  rcases r with ⟨f | client, t⟩
  · rcases hP with ⟨-, -, hsame⟩ | ⟨_, hok, -⟩
    · exact ⟨ht, .inl ⟨_, rfl, hsame⟩⟩
    · cases hok
  · exact ⟨ht, hP⟩

/-- A client that has been opened is taken in, and the handle that makes way for it is let go of. -/
theorem leads_takeIn (h : source.Orderly) (pipeline : Pipeline) (client : κ) :
    Leads ((source.connector maxIdle).takeIn b.pool pipeline ⟨b.opened, client⟩)
      { b with opened := b.opened + 1 } fun o b' =>
        o = .ok (b.pool.enrol pipeline ⟨b.opened, client⟩).1 ∧ b' = b.enrol pipeline client := by
  refine .step (leads_put (b.pool.enrol pipeline ⟨b.opened, client⟩).2) ?_
  unfold Books.enrol
  cases hfind : b.pool.find? pipeline.key with
  | none => exact .pure ⟨rfl, by simp [Books.close]⟩
  | some old =>
    refine .step (.logWith fun e he => ?_) ?_
    · simp only [List.mem_cons, List.not_mem_nil, or_false] at he
      rcases he with rfl | rfl <;> exact ⟨rfl, rfl⟩
    · by_cases hidle : old.isIdle = true
      · simp only [hidle, if_true]
        exact .step (leads_closeQuietly h old) (.pure ⟨rfl, by simp [hidle]⟩)
      · simp only [hidle]
        exact .pure ⟨rfl, by simp [hidle, Books.close]⟩

/-- A new handle is taken in, or no client could be opened and the books are as they were. -/
theorem leads_openHandle (h : source.Orderly) (pipeline : Pipeline) :
    Leads ((source.connector maxIdle).openHandle b.pool pipeline) b fun o b' =>
      (∃ f, o = .error f ∧ b' = b) ∨
        ∃ client, o = .ok (b.pool.enrol pipeline ⟨b.opened, client⟩).1 ∧
          b' = b.enrol pipeline client := by
  refine .bind (leads_connect h pipeline) ?_ ?_
  · rintro f b' (⟨-, -, rfl⟩ | ⟨_, hok, -⟩)
    · exact .inl ⟨f, rfl, rfl⟩
    · cases hok
  · rintro _ b' (⟨_, hf, -⟩ | ⟨client, hok, rfl⟩)
    · cases hf
    · cases hok
      exact .mono (leads_takeIn h pipeline client) fun o b' hp => .inr ⟨client, hp⟩

/-- What is given out is logged, which changes nothing. -/
theorem leads_logAcquired (h : Handle (Numbered κ)) (containerId : Int) :
    Leads (do
      Connector.logAcquired h containerId
      pure h : Flow (Ledger σ κ) (Handle (Numbered κ))) b fun o b' =>
      (∀ h', o.map some = .ok h' → h' = some h) ∧ b' = b := by
  refine .bind (.discreet (Log.discreet_logWith _ _ _ _)) ?_ ?_
  · rintro f b' rfl
    exact ⟨fun h' ho => (by cases ho), rfl⟩
  · rintro - b' rfl
    exact .pure ⟨fun h' ho => (Except.ok.inj ho).symm, rfl⟩

theorem leads_acquire (h : source.Orderly) (pipeline : Pipeline) (containerId : Int) :
    Leads ((source.connector maxIdle).acquire pipeline containerId) b fun o b' =>
      b.Change maxIdle (.acquire pipeline containerId) (o.map some) b' := by
  unfold Connector.acquire
  by_cases hkey : pipeline.key = ""
  · simp only [hkey, if_true]
    exact .throw (.refused pipeline containerId Connector.noKey)
  · simp only [hkey, if_false]
    refine .step leads_look ?_
    cases hc : b.pool.current? pipeline with
    | some handle =>
      refine .step (leads_put (b.pool.reuse handle).2) (.step (.pure ⟨rfl, rfl⟩) ?_)
      refine .mono (leads_logAcquired (b.pool.reuse handle).1 containerId) ?_
      rintro o b' ⟨hgiven, rfl⟩
      exact .reused pipeline containerId handle _ hc hgiven
    | none =>
      refine .bind (leads_openHandle h pipeline) ?_ ?_
      · rintro f b' (⟨-, -, rfl⟩ | ⟨_, hok, -⟩)
        · exact .refused pipeline containerId f
        · cases hok
      · rintro _ b' (⟨_, hf, -⟩ | ⟨client, hok, rfl⟩)
        · cases hf
        · cases hok
          refine .mono (leads_logAcquired
            (b.pool.enrol pipeline ⟨b.opened, client⟩).1 containerId) ?_
          rintro o b' ⟨hgiven, rfl⟩
          exact .opened pipeline containerId client _ hc hgiven

/-! ### Releasing and closing -/

theorem leads_release (h : source.Orderly) (handle : Handle (Numbered κ)) :
    Leads ((source.connector maxIdle).release handle) b fun o b' =>
      o = .ok () ∧ b.Change maxIdle (.release handle) (.ok none) b' := by
  refine .step leads_look ?_
  have hmax : (source.connector maxIdle).maxIdle = maxIdle := rfl
  rw [hmax]
  cases hr : b.pool.release? maxIdle handle.number with
  | none =>
    refine .mono (.logWith fun e he => ?_) ?_
    · rw [List.mem_singleton.1 he]
      exact ⟨rfl, rfl⟩
    · rintro o b' ⟨ho, rfl⟩
      exact ⟨ho, .ignored handle hr⟩
  | some r =>
    obtain ⟨gone, pool⟩ := r
    refine .step (leads_put pool) (.mono (leads_closeAll h gone) ?_)
    rintro o b' ⟨ho, rfl⟩
    exact ⟨ho, .released handle gone pool hr⟩

theorem leads_close (h : source.Orderly) :
    Leads (source.connector maxIdle).close b fun o b' =>
      o = .ok () ∧ b.Change maxIdle .close (.ok none) b' := by
  refine .step leads_look (.step (leads_put b.pool.clear.2) ?_)
  refine .mono (leads_closeAll h b.pool.clear.1) ?_
  rintro o b' ⟨ho, rfl⟩
  exact ⟨ho, .closed⟩

/-- **Serving a request changes the books in one of six ways.** -/
theorem serve_change (h : source.Orderly) (request : Request κ) :
    Leads (request.serve (source.connector maxIdle)) b fun answer b' =>
      b.Change maxIdle request answer b' := by
  cases request with
  | acquire pipeline containerId =>
    exact .bind (leads_acquire h pipeline containerId) (fun _ _ hp => hp) fun _ _ hp => .pure hp
  | release handle =>
    refine .bind (leads_release h handle) ?_ fun _ _ hp => .pure hp.2
    rintro f b' ⟨hf, -⟩
    cases hf
  | close =>
    refine .bind (leads_close h) ?_ fun _ _ hp => .pure hp.2
    rintro f b' ⟨hf, -⟩
    cases hf

end Source

/-- A run changes the books request by request. -/
theorem Run.history {source : Source σ κ} (h : source.Orderly) {maxIdle : Nat}
    {s t : Session (Ledger σ κ)} {log : List (Served κ)} (hs : Log.Writable s)
    (run : Run (source.connector maxIdle) s log t) :
    Log.Writable t ∧ s.world.books.History maxIdle log t.world.books := by
  induction run with
  | start => exact ⟨hs, .start⟩
  | serve _ request ih =>
    obtain ⟨hu, hchange⟩ := Source.serve_change h request _ ih.1 rfl
    exact ⟨hu, .change ih.2 hchange⟩

end Stowage.Pool
