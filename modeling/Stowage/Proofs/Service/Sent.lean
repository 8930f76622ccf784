import Stowage.Proofs.Instrument.Transparent
import Stowage.Proofs.Pool.Operations
import Stowage.Proofs.Service.Requests

/-!
What is sent over the network, and with which answer.

The network answers by a script, so that the requests of a session can be told with their answers
(`Service.answered`). `Service.sent` is the gauge of these: a call over the network adds one request
and its answer, or none when it fails before (`adds_call`); a pool adds nothing when handles are
acquired and released. A connection that no handle of the pool works over stays open in the meantime
(`Service.Calm`).
-/

namespace Stowage

namespace Http.Network

/-- Answering opens no connection. -/
@[simp]
theorem next_opened (net : Network) : net.next.2.opened = net.opened := by
  unfold next
  split <;> rfl

/-- Answering closes no connection. -/
@[simp]
theorem next_closed (net : Network) : net.next.2.closed = net.closed := by
  unfold next
  split <;> rfl

end Http.Network

namespace Service

open Http (Request Answer Client Ask)

/-! ## Requests with their answers -/

/-- A request with the answer that it was given. -/
abbrev Sending : Type := Request × Answer

/-- The answer to the request with a number, from a script. -/
def answerAt (script : List Answer) (number : Nat) : Answer :=
  script[number]?.getD (.response .empty)

/-- Requests with their answers, from a script. -/
def answered (script : List Answer) (requests : List Request) : List Sending :=
  requests.mapIdx fun number request => (request, answerAt script number)

theorem answered_append (script : List Answer) (requests : List Request) (request : Request) :
    answered script (requests ++ [request]) =
      answered script requests ++ [(request, answerAt script requests.length)] := by
  simp [answered, List.mapIdx_append]

/-- The next answer of a network that has given some of a script, and what is then left of it. -/
theorem next_drop (net : Http.Network) {script : List Answer} {given : Nat}
    (h : net.answers = script.drop given) :
    net.next.1 = answerAt script given ∧ net.next.2.answers = script.drop (given + 1) ∧
      net.next.2.opened = net.opened ∧ net.next.2.closed = net.closed := by
  unfold Http.Network.next answerAt
  rw [h]
  cases hd : script.drop given with
  | nil =>
    have hle : script.length ≤ given := List.drop_eq_nil_iff.1 hd
    refine ⟨?_, ?_, rfl, rfl⟩
    · rw [List.getElem?_eq_none hle]
      rfl
    · rw [h, hd, List.drop_eq_nil_of_le (by omega)]
  | cons a r =>
    have hlt : given < script.length := by
      rcases Nat.lt_or_ge given script.length with hlt | hge
      · exact hlt
      · rw [List.drop_eq_nil_of_le hge] at hd
        cases hd
    rw [List.drop_eq_getElem_cons hlt] at hd
    obtain ⟨rfl, rfl⟩ := List.cons.inj hd
    refine ⟨?_, rfl, rfl, rfl⟩
    rw [List.getElem?_eq_getElem hlt]
    rfl

/-! ## The gauge -/

/-- The connection with a number is open, no handle of the pool works over it, and log records can
be written. -/
structure Calm (number : Nat) (s : Session World) : Prop where
  writable : Log.Writable s
  opened : number < s.world.network.opened
  unclosed : number ∉ s.world.network.closed
  apart : ∀ client, s.world.pool.Has client → client.carrier ≠ .connection number

theorem Calm.alike {number : Nat} {s t : Session World} (h : s.Alike t) (hs : Calm number s) :
    Calm number t where
  writable := hs.writable.alike h
  opened := by
    rw [h.world]
    exact hs.opened
  unclosed := by
    rw [h.world]
    exact hs.unclosed
  apart := by
    rw [h.world]
    exact hs.apart

/-- The requests that have been sent since there were `start` of them, with their answers by a
script. If `calm` holds then so does `Calm`, for the connection with a number. -/
def sent (script : List Answer) (start number : Nat) (calm : Prop) : Gauge World Sending where
  holds s := start ≤ s.requests.length ∧
    s.world.network.answers = script.drop (s.requests.length - start) ∧ (calm → Calm number s)
  list s := answered script (s.requests.drop start)
  writable := calm
  holds_alike := by
    intro s t h hs
    rw [h.requests, h.world]
    exact ⟨hs.1, hs.2.1, fun hc => (hs.2.2 hc).alike h⟩
  list_alike h := by rw [h.requests]
  log_writable hc _ hs := (hs.2.2 hc).writable

/-! ## Sending nothing -/

/-- Nothing has been sent. Where `apart` holds, calm remains. -/
structure Undisturbed (number : Nat) (apart : Prop) (s t : Session World) : Prop where
  requests : t.requests = s.requests
  answers : t.world.network.answers = s.world.network.answers
  calm : apart → Calm number s → Calm number t

namespace Undisturbed

variable {number : Nat} {apart : Prop} {s t u : Session World} {α β : Type}

theorem refl (s : Session World) : Undisturbed number apart s s := ⟨rfl, rfl, fun _ h => h⟩

theorem trans (h : Undisturbed number apart s t) (h' : Undisturbed number apart t u) :
    Undisturbed number apart s u :=
  ⟨h'.requests.trans h.requests, h'.answers.trans h.answers, fun ha hs => h'.calm ha (h.calm ha hs)⟩

theorem of_alike (h : s.Alike t) : Undisturbed number apart s t :=
  ⟨h.requests, by rw [h.world], fun _ hs => hs.alike h⟩

theorem bind {body : Flow World α} {next : α → Flow World β}
    (hb : Undisturbed number apart s (body.runFrom s).2)
    (hn : ∀ a t, body.runFrom s = (.ok a, t) → Undisturbed number apart t ((next a).runFrom t).2) :
    Undisturbed number apart s ((body >>= next).runFrom s).2 := by
  rw [Flow.runFrom_bind]
  generalize hr : body.runFrom s = r at hb hn ⊢
  rcases r with ⟨f | a, t⟩
  · exact hb
  · exact hb.trans (hn a t rfl)

/-- What sends nothing adds nothing. -/
theorem adds_of {script : List Answer} {start : Nat} {calm : Prop} {body : Flow World α}
    {apart : Session World → Prop} (hapart : calm → ∀ s, Calm number s → apart s)
    (h : ∀ s, Undisturbed number (apart s) s (body.runFrom s).2) :
    (sent script start number calm).Adds body fun _ more => more = [] := by
  intro s hs
  obtain ⟨hr, ha, hc⟩ := h s
  refine ⟨⟨?_, ?_, fun hcalm => hc (hapart hcalm s (hs.2.2 hcalm)) (hs.2.2 hcalm)⟩, [], ?_, rfl⟩
  · rw [hr]
    exact hs.1
  · rw [hr, ha]
    exact hs.2.1
  · change answered script _ = answered script _ ++ []
    rw [hr, List.append_nil]

theorem adds {script : List Answer} {start : Nat} {calm : Prop} {body : Flow World α}
    (h : ∀ s, Undisturbed number (Calm number s) s (body.runFrom s).2) :
    (sent script start number calm).Adds body fun _ more => more = [] :=
  adds_of (fun _ _ hs => hs) h

/-! ### Pools over the network -/

/-- A pool is put in the place of another that has the same clients or more. -/
theorem put_pool (pool : Pool Client)
    (h : apart → ∀ client, pool.Has client → client.carrier ≠ .connection number) :
    Undisturbed number apart s ((Flow.put World.poolSlot pool).runFrom s).2 :=
  ⟨rfl, rfl, fun ha hs => ⟨hs.writable, hs.opened, hs.unclosed, h ha⟩⟩

theorem disconnect (other : Nat) (h : apart → other ≠ number) :
    Undisturbed number apart s ((Http.Network.disconnect World.networkSlot other).runFrom s).2 := by
  unfold Http.Network.disconnect
  rw [Flow.runFrom_bind_ok (Flow.runFrom_look _ s)]
  by_cases hclosed : (World.networkSlot.get s.world).closed.contains other = true
  · rw [if_pos hclosed]
    exact refl s
  · rw [if_neg hclosed, Flow.runFrom_bind_ok (Flow.runFrom_put _ _ s)]
    refine ⟨?_, rfl, fun ha hs => ⟨hs.writable, hs.opened, ?_, hs.apart⟩⟩
    · change (s.journal ++ [Event.connectionClosed other]).filterMap Event.request? = s.requests
      rw [List.filterMap_append]
      exact List.append_nil _
    · intro hmem
      rcases List.mem_cons.1 hmem with heq | hmem
      · exact h ha heq.symm
      · exact hs.unclosed hmem

theorem close (client : Client) (h : apart → client.carrier ≠ .connection number) :
    Undisturbed number apart s ((client.close World.networkSlot).runFrom s).2 := by
  unfold Client.close
  split
  · rename_i other hcarrier howner
    refine disconnect other fun ha heq => h ha ?_
    rw [hcarrier, heq]
  · exact refl s

variable {settings : DatanodeSettings}

theorem closeQuietly (handle : NetworkHandle)
    (h : apart → handle.client.carrier ≠ .connection number) :
    Undisturbed number apart s (((Pool.overNetwork World.poolSlot World.networkSlot
      settings).closeQuietly handle).runFrom s).2 := by
  have hclose : Undisturbed number apart s _ := close (s := s) handle.client h
  unfold Pool.Connector.closeQuietly
  change Undisturbed number apart s
    ((Flow.handling (handle.client.close World.networkSlot) _).runFrom s).2
  rw [Flow.runFrom_handling]
  generalize (handle.client.close World.networkSlot).runFrom s = r at hclose ⊢
  rcases r with ⟨f | ⟨⟩, t⟩
  · by_cases hf : f.isInterrupt = true
    · simp only [hf, if_true]
      exact hclose
    · simp only [hf]
      exact hclose.trans (of_alike (Log.discreet_logWith _ _ _ _ t).1)
  · exact hclose

theorem closeAll (gone : List NetworkHandle)
    (h : apart → ∀ handle ∈ gone, handle.client.carrier ≠ .connection number) :
    Undisturbed number apart s (((Pool.overNetwork World.poolSlot World.networkSlot
      settings).closeAll gone).runFrom s).2 := by
  induction gone generalizing s with
  | nil => exact refl s
  | cons handle r ih =>
    refine bind (closeQuietly handle fun ha => h ha handle List.mem_cons_self) fun _ t _ => ?_
    exact ih fun ha other ho => h ha other (List.mem_cons_of_mem _ ho)

/-- The session after one more connection has been opened. -/
def connected (s : Session World) : Session World :=
  { s with world := { s.world with
    network := { s.world.network with opened := s.world.network.opened + 1 } } }

/-- A client is connected over a connection of its own, or nothing happens. -/
theorem runFrom_openClient (pipeline : Pipeline) (s : Session World) :
    (∃ f, ((Pool.overNetwork World.poolSlot World.networkSlot settings).openClient pipeline).runFrom
        s = (.error f, s)) ∨
      ∃ client : Client, client.carrier = .connection s.world.network.opened ∧
        ((Pool.overNetwork World.poolSlot World.networkSlot settings).openClient pipeline).runFrom
          s = (.ok client, connected s) := by
  change (∃ f, (Flow.ofExcept (Pool.targetUrl settings pipeline) >>= fun url =>
      Client.connect World.networkSlot url settings.timeoutSeconds Placement.jsonHeaders).runFrom s =
        (.error f, s)) ∨ ∃ client : Client, client.carrier = .connection s.world.network.opened ∧
      (Flow.ofExcept (Pool.targetUrl settings pipeline) >>= fun url => Client.connect
        World.networkSlot url settings.timeoutSeconds Placement.jsonHeaders).runFrom s =
          (.ok client, connected s)
  cases Pool.targetUrl settings pipeline with
  | error f => exact .inl ⟨f, rfl⟩
  | ok url =>
    rw [Flow.runFrom_bind_ok (Flow.runFrom_ofExcept _ s)]
    unfold Client.connect
    cases (Http.Url.parse url).bind Http.Url.asBase with
    | error f => exact .inl ⟨f, rfl⟩
    | ok base => exact .inr ⟨_, rfl, rfl⟩

theorem runFrom_connect (pipeline : Pipeline) (s : Session World) :
    (∃ f, ((Pool.overNetwork World.poolSlot World.networkSlot settings).connect pipeline).runFrom s =
        (.error f, s)) ∨
      ∃ client : Client, client.carrier = .connection s.world.network.opened ∧
        ((Pool.overNetwork World.poolSlot World.networkSlot settings).connect pipeline).runFrom s =
          (.ok client, connected s) := by
  unfold Pool.Connector.connect
  rw [Flow.runFrom_bind_ok (Flow.runFrom_attempt _ s)]
  rcases runFrom_openClient pipeline s with ⟨f, hf⟩ | ⟨client, hc, ho⟩
  · rw [hf]
    exact .inl ⟨_, rfl⟩
  · rw [ho]
    exact .inr ⟨client, hc, rfl⟩

/-- A new handle works over a connection of its own. -/
theorem openHandle (pipeline : Pipeline) :
    Undisturbed number (Calm number s) s (((Pool.overNetwork World.poolSlot World.networkSlot
      settings).openHandle s.world.pool pipeline).runFrom s).2 := by
  unfold Pool.Connector.openHandle
  rcases runFrom_connect pipeline s with ⟨f, hf⟩ | ⟨client, hcarrier, hc⟩
  · rw [Flow.runFrom_bind_error hf]
    exact refl s
  · rw [Flow.runFrom_bind_ok hc]
    have hconnected : Undisturbed number (Calm number s) s (connected s) :=
      ⟨rfl, rfl, fun _ hs => ⟨hs.writable, Nat.lt_succ_of_lt hs.opened, hs.unclosed, hs.apart⟩⟩
    refine hconnected.trans (bind (put_pool _ fun hcalm other hhas => ?_) fun _ t _ => ?_)
    · rcases Pool.has_of_enrol hhas with rfl | hhas
      · rw [hcarrier]
        intro heq
        exact absurd (Http.Carrier.connection.inj heq) (Nat.ne_of_gt hcalm.opened)
      · exact hcalm.apart other hhas
    · cases hfind : s.world.pool.find? pipeline.key with
      | none => exact refl t
      | some old =>
        refine bind (of_alike (Log.discreet_logWith _ _ _ _ t).1) fun _ u _ => ?_
        have hold : Calm number s → old.client.carrier ≠ .connection number :=
          fun hcalm => hcalm.apart _ (Pool.has_of_cached (Pool.mem_of_find? hfind).1)
        by_cases hidle : old.isIdle = true
        · simp only [hidle, if_true]
          exact bind (closeQuietly old hold) fun _ v _ => refl v
        · simp only [hidle]
          exact refl u

theorem acquire (pipeline : Pipeline) (containerId : Int) :
    Undisturbed number (Calm number s) s (((Pool.overNetwork World.poolSlot World.networkSlot
      settings).acquire pipeline containerId).runFrom s).2 := by
  have hlog : ∀ (handle : NetworkHandle) (t : Session World),
      Undisturbed number (Calm number s) t ((do
        Pool.Connector.logAcquired handle containerId
        pure handle : Flow World NetworkHandle).runFrom t).2 := fun handle t =>
    bind (of_alike (Log.discreet_logWith _ _ _ _ t).1) fun _ u _ => refl u
  unfold Pool.Connector.acquire
  by_cases hkey : pipeline.key = ""
  · simp only [hkey, if_true]
    exact refl s
  · simp only [hkey, if_false]
    refine bind (refl s) fun pool t ht => ?_
    cases ht
    have hpool : (Pool.overNetwork World.poolSlot World.networkSlot settings).slot.get s.world =
      s.world.pool := rfl
    rw [hpool]
    cases hcurrent : s.world.pool.current? pipeline with
    | some handle =>
      have hcached := (Pool.mem_of_current? hcurrent).1
      refine bind (put_pool (s.world.pool.reuse handle).2 fun hcalm client hhas => ?_)
        fun _ t _ => ?_
      · exact hcalm.apart client (Pool.has_of_reuse hcached hhas)
      · rw [Flow.runFrom_bind_ok (Flow.runFrom_pure _ t)]
        exact hlog (s.world.pool.reuse handle).1 t
    | none => exact bind (openHandle pipeline) fun _ t _ => hlog _ t

theorem release (handle : NetworkHandle) :
    Undisturbed number (Calm number s) s (((Pool.overNetwork World.poolSlot World.networkSlot
      settings).release handle).runFrom s).2 := by
  refine bind (refl s) fun pool t ht => ?_
  cases ht
  have hpool : (Pool.overNetwork World.poolSlot World.networkSlot settings).slot.get s.world =
    s.world.pool := rfl
  rw [hpool]
  cases hr : s.world.pool.release? (Pool.overNetwork World.poolSlot World.networkSlot
      settings).maxIdle handle.number with
  | none => exact of_alike (Log.discreet_logWith _ _ _ _ s).1
  | some r =>
    obtain ⟨gone, after⟩ := r
    obtain ⟨hafter, hgone⟩ := Pool.has_of_release hr
    refine bind (put_pool after fun hcalm client hhas => ?_) fun _ t _ => ?_
    · exact hcalm.apart client (hafter client hhas)
    · exact closeAll gone fun hcalm a ha => hcalm.apart a.client (hgone a ha)

end Undisturbed

/-! ## Sending a request -/

section Call

variable {script : List Answer} {start number : Nat} {calm : Prop}

/-- A request is sent and answered, unless its connection has been closed. -/
theorem adds_send (request : Request) :
    (sent script start number calm).Adds (Http.Network.send World.networkSlot request) fun o more =>
      (more = [] ∧ (∃ f, o = .error f) ∧ (calm → request.connection ≠ number)) ∨
        ∃ a, o = .ok a ∧ more = [(request, a)] := by
  rintro s ⟨hstart, hanswers, hcalm⟩
  unfold Http.Network.send
  rw [Flow.runFrom_bind_ok (Flow.runFrom_look _ s)]
  by_cases hclosed : s.world.network.closed.contains request.connection = true
  · have hget : (World.networkSlot.get s.world).closed.contains request.connection = true := hclosed
    rw [if_pos hget]
    refine ⟨⟨hstart, hanswers, hcalm⟩, [], (List.append_nil _).symm, .inl ⟨rfl, ⟨_, rfl⟩, ?_⟩⟩
    rintro hc rfl
    exact (hcalm hc).unclosed (List.contains_iff_mem.1 hclosed)
  · have hget : ¬ (World.networkSlot.get s.world).closed.contains request.connection = true :=
      hclosed
    obtain ⟨hanswer, hleft, hopened, hunclosed⟩ := next_drop s.world.network hanswers
    rw [if_neg hget]
    let t : Session World := { s with
      world := { s.world with network := s.world.network.next.2 }
      journal := s.journal ++ [.request request] }
    change (sent script start number calm).holds t ∧ ∃ more,
      answered script (t.requests.drop start) = answered script (s.requests.drop start) ++ more ∧ _
    have hrequests : t.requests = s.requests ++ [request] := by
      change (s.journal ++ [Event.request request]).filterMap Event.request? = _
      rw [List.filterMap_append]
      rfl
    have hlength : (s.requests ++ [request]).length - start = s.requests.length - start + 1 := by
      rw [List.length_append, List.length_singleton]
      omega
    refine ⟨⟨?_, ?_, fun hc => ?_⟩, [(request, s.world.network.next.1)], ?_, .inr ⟨_, rfl, rfl⟩⟩
    · rw [hrequests, List.length_append]
      omega
    · rw [hrequests, hlength]
      exact hleft
    · obtain ⟨hw, ho, hu, ha⟩ := hcalm hc
      exact ⟨hw, hopened ▸ ho, hunclosed ▸ hu, ha⟩
    · rw [hrequests, List.drop_append_of_le_length hstart, answered_append, hanswer,
        List.length_drop]

/-- The client lets an answer to a request pass: it is a response that can be unpacked and read, and
its status is not one of those that count as an error. -/
def Confirms (request : Request) (answer : Answer) : Prop :=
  ∃ packed response document, answer = .response packed ∧
    Client.aftermath request packed = .ok () ∧ Client.unpacked request packed = .ok response ∧
      response.isError = false ∧ Client.documentOf request response = .ok document

/-- What a call sends, and how that goes with its outcome. Nothing is sent only when the request
cannot be made out or, unless all is calm, for other reasons. -/
inductive Calls {α : Type} (number : Nat) (calm : Prop) (client : Client) (ask : Ask) :
    Except Failure α → List Sending → Prop
  | unsent (f : Failure) :
    (calm → client.carrier = .connection number → ∀ request,
      client.request number ask ≠ .ok request) → Calls number calm client ask (.error f) []
  | sent (other : Nat) (request : Request) (answer : Answer) (outcome : Except Failure α) :
    client.request other ask = .ok request →
    (∀ a, outcome = .ok a → Confirms request answer) →
    (calm → Confirms request answer → ∃ a, outcome = .ok a) →
    Calls number calm client ask outcome [(request, answer)]

/-- What is known of an exchange: nothing was sent, or a request was sent and its answer is passed
on, or it is not let pass. -/
inductive Exchanged (number : Nat) (calm : Prop) (client : Client) (ask : Ask) :
    Except Failure (Request × Http.Response) → List Sending → Prop
  | unsent (f : Failure) :
    (calm → client.carrier = .connection number → ∀ request,
      client.request number ask ≠ .ok request) → Exchanged number calm client ask (.error f) []
  | passed (other : Nat) (request : Request) (packed response : Http.Response) :
    client.request other ask = .ok request → Client.aftermath request packed = .ok () →
    Client.unpacked request packed = .ok response → response.isError = false →
    Exchanged number calm client ask (.ok (request, response)) [(request, .response packed)]
  | refused (other : Nat) (request : Request) (answer : Answer) (f : Failure) :
    client.request other ask = .ok request → ¬ Confirms request answer →
    Exchanged number calm client ask (.error f) [(request, answer)]

/-- What is not a response is not let pass. -/
theorem not_confirms_of_ne {request : Request} {answer : Answer}
    (h : ∀ packed, answer ≠ .response packed) : ¬ Confirms request answer := by
  rintro ⟨packed, _, _, hp, -⟩
  exact h packed hp

/-- A response is let pass only if every step on it succeeds. -/
theorem Confirms.of_response {request : Request} {packed : Http.Response}
    (h : Confirms request (.response packed)) : ∃ response document,
      Client.aftermath request packed = .ok () ∧ Client.unpacked request packed = .ok response ∧
        response.isError = false ∧ Client.documentOf request response = .ok document := by
  obtain ⟨_, response, document, hp, hsteps⟩ := h
  cases hp
  exact ⟨response, document, hsteps⟩

/-- What becomes of a response goes on only if it may be let pass. -/
theorem adds_received {client : Client} {ask : Ask} {other : Nat} {request : Request}
    {packed : Http.Response} (hrequest : client.request other ask = .ok request)
    (hcheck : ask.checkStatus = true) :
    (sent script start number calm).Adds (do
      Flow.ofExcept (Client.aftermath request packed)
      let response ← Flow.ofExcept (Client.unpacked request packed)
      if ask.checkStatus && response.isError then
        throw (.http (response.statusFailure request.method request.url.text))
      else pure (request, response) : Flow World (Request × Http.Response)) fun o more =>
      Exchanged number calm client ask o ((request, .response packed) :: more) := by
  refine .bind_ofExcept (fun f hf => ?_) fun _ hafter => ?_
  · refine .refused other request _ _ hrequest fun hconfirms => ?_
    obtain ⟨_, _, ha, -⟩ := hconfirms.of_response
    cases hf.symm.trans ha
  refine .bind_ofExcept (fun f hf => ?_) fun response hunpacked => ?_
  · refine .refused other request _ _ hrequest fun hconfirms => ?_
    obtain ⟨_, _, -, hu, -⟩ := hconfirms.of_response
    cases hf.symm.trans hu
  have hsame : ∀ {r}, Client.unpacked request packed = .ok r → response = r :=
    fun hu => Except.ok.inj (hunpacked.symm.trans hu)
  by_cases herror : response.isError = true
  · rw [if_pos (by simp [hcheck, herror])]
    refine .throw (.refused other request _ _ hrequest fun hconfirms => ?_)
    obtain ⟨_, _, -, hu, he, -⟩ := hconfirms.of_response
    rw [← hsame hu, herror] at he
    cases he
  · rw [if_neg (by simp [hcheck, herror])]
    exact .pure (.passed other request packed response hrequest hafter hunpacked
      (by simpa using herror))

theorem adds_exchange (client : Client) (ask : Ask) (hcheck : ask.checkStatus = true) :
    (sent script start number calm).Adds (client.exchange World.networkSlot ask)
      (Exchanged number calm client ask) := by
  unfold Client.exchange
  cases hcarrier : client.carrier with
  | broken kind message =>
    refine .throw (.unsent _ fun _ heq => ?_)
    cases hcarrier.symm.trans heq
  | connection other =>
    refine .bind_ofExcept (fun f hf => .unsent f fun _ heq request hok => ?_)
      fun request hrequest => ?_
    · cases hcarrier.symm.trans heq
      cases hf.symm.trans hok
    have hother : request.connection = other := by
      obtain ⟨-, -, -, -, hconnection, -⟩ := Client.request_eq_ok hrequest
      exact hconnection
    refine .bind (adds_send request) ?_ ?_
    · rintro f more (⟨rfl, -, hn⟩ | ⟨a, ha, -⟩)
      · refine .unsent f fun hc heq _ _ => hn hc ?_
        exact hother.trans (Http.Carrier.connection.inj (hcarrier.symm.trans heq))
      · cases ha
    · rintro answer more (⟨-, ⟨f, hf⟩, -⟩ | ⟨a, ha, rfl⟩)
      · cases hf
      cases ha
      cases answer with
      | response packed => exact adds_received hrequest hcheck
      | unanswered kind message =>
        exact .throw (.refused other request _ _ hrequest (not_confirms_of_ne (by simp)))
      | badUrl message =>
        exact .throw (.refused other request _ _ hrequest (not_confirms_of_ne (by simp)))

/-- A request for a document is sent once, if at all, and fails unless the answer is let pass. -/
theorem adds_askJson (client : Client) (ask : Ask) (hcheck : ask.checkStatus = true) :
    (sent script start number calm).Adds (client.askJson World.networkSlot ask)
      (Calls number calm client ask) := by
  refine .bind (adds_exchange client ask hcheck) ?_ ?_
  · intro f more h
    cases h with
    | unsent _ hn => exact .unsent f hn
    | refused other request answer _ hrequest hn =>
      exact .sent other request answer _ hrequest (fun a ha => by cases ha)
        fun _ hc => absurd hc hn
  · rintro ⟨request, response⟩ more h
    cases h with
    | passed other _ packed _ hrequest hafter hunpacked herror =>
      refine .ofExcept (.sent other request _ _ hrequest ?_ ?_)
      · rintro document hd
        exact ⟨packed, response, document, rfl, hafter, hunpacked, herror, hd⟩
      · rintro - ⟨packed', response', document, hp, -, hu, -, hd⟩
        cases hp
        cases hunpacked.symm.trans hu
        exact ⟨document, hd⟩

/-- What a call sends goes with every outcome that is a success in the same cases. -/
theorem Calls.outcome {α β : Type} {client : Client} {ask : Ask} {o : Except Failure α}
    {o' : Except Failure β} {more : List Sending} (h : Calls number calm client ask o more)
    (ho : (∃ a, o = .ok a) ↔ ∃ b, o' = .ok b) : Calls number calm client ask o' more := by
  cases h with
  | unsent f hn =>
    cases o' with
    | error g => exact .unsent g hn
    | ok b =>
      obtain ⟨a, ha⟩ := ho.2 ⟨b, rfl⟩
      cases ha
  | sent other request answer _ hrequest hpassed hcalm =>
    refine .sent other request answer o' hrequest (fun b hb => ?_) fun hc hp => ?_
    · obtain ⟨a, ha⟩ := ho.2 ⟨b, hb⟩
      exact hpassed a ha
    · exact ho.1 (hcalm hc hp)

theorem adds_call (client : Client) (operation : String) (ask : Ask)
    (hcheck : ask.checkStatus = true) :
    (sent script start number calm).Adds
      (Http.Storage.call World.networkSlot client operation ask)
      (Calls number calm client ask) := by
  intro s hs
  have hask : (sent script start number calm).Adds (client.askJson World.networkSlot ask)
      (Calls number calm client ask) := adds_askJson client ask hcheck
  obtain ⟨ht, more, hlist, hcalls⟩ := hask s hs
  refine ⟨ht, more, hlist, hcalls.outcome ?_⟩
  change _ ↔ ∃ b, ((client.askJson World.networkSlot ask).runFrom s).1.mapError
    (Http.Storage.explain operation) = .ok b
  cases ((client.askJson World.networkSlot ask).runFrom s).1 with
  | error f => exact ⟨fun ⟨_, h⟩ => (by cases h), fun ⟨_, h⟩ => (by cases h)⟩
  | ok j => exact ⟨fun _ => ⟨j, rfl⟩, fun _ => ⟨j, rfl⟩⟩

/-- The document that a call ends with is that of the one answer. -/
theorem adds_call_document (client : Client) (operation : String) (ask : Ask)
    (hcheck : ask.checkStatus = true) :
    (sent script start number calm).Adds
      (Http.Storage.call World.networkSlot client operation ask) fun o more =>
        ∀ document, o = .ok document → ∃ request packed response,
          more = [(request, .response packed)] ∧ Client.unpacked request packed = .ok response ∧
            Client.documentOf request response = .ok document := by
  have hask : (sent script start number calm).Adds (client.askJson World.networkSlot ask)
      fun o more => ∀ document, o = .ok document → ∃ request packed response,
        more = [(request, .response packed)] ∧ Client.unpacked request packed = .ok response ∧
          Client.documentOf request response = .ok document := by
    refine .bind (adds_exchange client ask hcheck) (fun f more _ document h => by cases h) ?_
    rintro ⟨request, response⟩ more h
    cases h with
    | passed other _ packed _ hrequest hafter hunpacked herror =>
      exact .ofExcept fun document hd => ⟨request, packed, response, rfl, hunpacked, hd⟩
  intro s hs
  obtain ⟨ht, more, hlist, hdocument⟩ := hask s hs
  refine ⟨ht, more, hlist, fun document hd => hdocument document ?_⟩
  change ((client.askJson World.networkSlot ask).runFrom s).1.mapError
    (Http.Storage.explain operation) = .ok document at hd
  cases ho : ((client.askJson World.networkSlot ask).runFrom s).1 with
  | error f =>
    rw [ho] at hd
    cases hd
  | ok j =>
    rw [ho] at hd
    exact congrArg _ (Except.ok.inj hd)

end Call

end Service

end Stowage
