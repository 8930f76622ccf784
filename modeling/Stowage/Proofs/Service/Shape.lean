import Stowage.Proofs.Service.Adapters
import Stowage.Proofs.Service.FailStop

/-!
What operations over the network send.

An operation sends one request about the data of its container and makes the operation final right
after that, if the answer is let pass (`Shape`). `ContainerOperation.adds_run_over` says so of every
operation, wherever it fails.
-/

namespace Stowage.Service

open Http (Request Answer Client)

variable {script : List Answer} {start number : Nat} {calm : Prop} {α β : Type}

/-! ## Shapes -/

/-- What an operation sends: plain requests, then perhaps one about data, and a final one after it
if the answer is let pass. Where all is calm the final one is always sent then. -/
inductive Shape (calm : Prop) : List Sending → Prop
  | idle : Shape calm []
  | plain {e : Sending} {rest : List Sending} :
    e.1.isPlain → Shape calm rest → Shape calm (e :: rest)
  | unconfirmed {d : Sending} :
    d.1.isData = true → d.1.completes = false → (calm → ¬ Confirms d.1 d.2) → Shape calm [d]
  | confirmed {d e : Sending} :
    d.1.isData = true → d.1.completes = false → Confirms d.1 d.2 →
    e.1.isData = false → e.1.completes = true → Shape calm [d, e]

namespace Shape

theorem of_plain {more rest : List Sending} (h : Plain more) (hr : Shape calm rest) :
    Shape calm (more ++ rest) := by
  induction more with
  | nil => exact hr
  | cons e r ih =>
    exact .plain (h e List.mem_cons_self) (ih fun e he => h e (List.mem_cons_of_mem _ he))

/-- A final request comes right after one about data whose answer was let pass. -/
theorem safe {all : List Sending} (h : Shape calm all) :
    ∀ before e after, all = before ++ e :: after → e.1.completes = true →
      ∃ earlier d, before = earlier ++ [d] ∧ d.1.isData = true ∧ Confirms d.1 d.2 := by
  induction h with
  | idle =>
    intro before e after hall
    exact absurd hall.symm (List.append_ne_nil_of_right_ne_nil _ (List.cons_ne_nil _ _))
  | plain hplain _ ih =>
    rintro before e after hall hfinal
    rcases before with _ | ⟨first, before⟩
    · obtain ⟨rfl, -⟩ := List.cons.inj hall
      rw [hplain.2] at hfinal
      cases hfinal
    · obtain ⟨rfl, hrest⟩ := List.cons.inj hall
      obtain ⟨earlier, d, rfl, hd⟩ := ih before e after hrest hfinal
      exact ⟨_ :: earlier, d, rfl, hd⟩
  | unconfirmed hdata hnot =>
    rintro before e after hall hfinal
    rcases before with _ | ⟨first, before⟩
    · obtain ⟨rfl, -⟩ := List.cons.inj hall
      rw [hnot] at hfinal
      cases hfinal
    · exact absurd (List.cons.inj hall).2.symm
        (List.append_ne_nil_of_right_ne_nil _ (List.cons_ne_nil _ _))
  | confirmed hdata hnot hconfirms =>
    rintro before e after hall hfinal
    rcases before with _ | ⟨first, before⟩
    · obtain ⟨rfl, -⟩ := List.cons.inj hall
      rw [hnot] at hfinal
      cases hfinal
    · obtain ⟨rfl, hrest⟩ := List.cons.inj hall
      rcases before with _ | ⟨second, before⟩
      · exact ⟨[], _, rfl, hdata, hconfirms⟩
      · exact absurd (List.cons.inj hrest).2.symm
          (List.append_ne_nil_of_right_ne_nil _ (List.cons_ne_nil _ _))

/-- Where all is calm, a request about data whose answer is let pass is followed by a final one. -/
theorem live {all : List Sending} (h : Shape calm all) (hcalm : calm) {d : Sending} (hd : d ∈ all)
    (hdata : d.1.isData = true) (hconfirms : Confirms d.1 d.2) :
    ∃ before e after, all = before ++ d :: e :: after ∧ e.1.completes = true := by
  induction h with
  | idle => cases hd
  | plain hplain _ ih =>
    rcases List.mem_cons.1 hd with rfl | hd
    · rw [hplain.1] at hdata
      cases hdata
    · obtain ⟨before, e, after, rfl, hfinal⟩ := ih hd
      exact ⟨_ :: before, e, after, rfl, hfinal⟩
  | unconfirmed _ _ hn =>
    rw [List.mem_singleton.1 hd] at hconfirms
    exact absurd hconfirms (hn hcalm)
  | confirmed _ _ _ hother hfinal =>
    rcases List.mem_cons.1 hd with rfl | hd
    · exact ⟨[], _, [], rfl, hfinal⟩
    · rw [List.mem_singleton.1 hd, hother] at hdata
      cases hdata

end Shape

/-! ## Operations -/

section Operations

variable {own : ContainerOperationsSettings} {client : Client} {nodes : DatanodeSettings}
  {telemetry : List (Instrument.Concern World)}

/-- The service over the network that reaches the placement service through a client. -/
def overNetwork (own : ContainerOperationsSettings) (client : Client) (nodes : DatanodeSettings)
    (telemetry : List (Instrument.Concern World)) : NetworkService :=
  ⟨own, partsOver (placementOver client telemetry) (datanodesOver telemetry)
    (Pool.overNetwork World.poolSlot World.networkSlot nodes), telemetry⟩

/-- A client is connected over a connection of its own, with the base that its URL spells. -/
theorem connect_client {url : String} {timeout : Double} {headers : Http.Headers}
    {s t : Session World}
    (h : (Client.connect World.networkSlot url timeout headers).runFrom s = (.ok client, t)) :
    client.headers = headers ∧ (Http.Url.parse url).bind Http.Url.asBase = .ok client.base ∧
      client.carrier = .connection s.world.network.opened ∧ t = Undisturbed.connected s := by
  obtain ⟨base, u, hbase, hrest⟩ := Flow.exists_of_bind_ok h
  rw [Flow.runFrom_ofExcept] at hbase
  have hopened : (Http.Network.connect World.networkSlot).runFrom s =
      (.ok s.world.network.opened, Undisturbed.connected s) := rfl
  rw [← (Prod.mk.inj hbase).2, Flow.runFrom_bind_ok hopened, Flow.runFrom_pure] at hrest
  obtain ⟨hclient, ht⟩ := Prod.mk.inj hrest
  rw [← Except.ok.inj hclient]
  exact ⟨rfl, (Prod.mk.inj hbase).1, rfl, ht.symm⟩

/-- The service that settings describe is one over the network, and reaches the placement service
at its address over a connection of its own. -/
theorem connect_overNetwork {settings : Settings} {s t : Session World} {service : NetworkService}
    (h : (connect settings telemetry).runFrom s = (.ok service, t)) :
    ∃ own placement client nodes, ContainerOperationsSettings.resolve settings = .ok own ∧
      PlacementSettings.resolve settings = .ok placement ∧
      DatanodeSettings.resolve settings = .ok nodes ∧ client.headers = Placement.jsonHeaders ∧
      (Http.Url.parse placement.baseUrl).bind Http.Url.asBase = .ok client.base ∧
      client.carrier = .connection s.world.network.opened ∧
      service = overNetwork own client nodes telemetry ∧ t = Undisturbed.connected s := by
  obtain ⟨own, s₁, hown, h₁⟩ := Flow.exists_of_bind_ok h
  obtain ⟨settled, s₂, hsettled, h₂⟩ := Flow.exists_of_bind_ok h₁
  obtain ⟨placement, s₃, hplacement, h₃⟩ := Flow.exists_of_bind_ok h₂
  obtain ⟨nodes, s₄, hnodes, h₄⟩ := Flow.exists_of_bind_ok h₃
  obtain ⟨client, s₅, hclient, hlast⟩ := Flow.exists_of_bind_ok hplacement
  rw [Flow.runFrom_ofExcept] at hown hsettled hnodes
  rw [Flow.runFrom_pure] at h₄ hlast
  have hsame : s = s₂ := (Prod.mk.inj hown).2.trans (Prod.mk.inj hsettled).2
  have hend : s₅ = t :=
    (Prod.mk.inj hlast).2.trans ((Prod.mk.inj hnodes).2.trans (Prod.mk.inj h₄).2)
  obtain ⟨hheaders, hbase, hcarrier, hconnected⟩ := connect_client hclient
  rw [← hsame] at hcarrier hconnected
  refine ⟨own, settled, client, nodes, (Prod.mk.inj hown).1, (Prod.mk.inj hsettled).1,
    (Prod.mk.inj hnodes).1, hheaders, hbase, hcarrier, ?_, hend ▸ hconnected⟩
  rw [← Except.ok.inj (Prod.mk.inj h₄).1, ← Except.ok.inj (Prod.mk.inj hlast).1]
  rfl

/-- An action that has succeeded and a final step after it. -/
theorem Shape.of_steps {a : α} {more rest : List Sending} (hd : DataStep calm (.ok a) more)
    (hf : FinalStep calm rest) : Shape calm (more ++ rest) := by
  cases hd with
  | sent request answer _ hdata hfinal hpassed =>
    cases hf with
    | unsent hn => exact .unconfirmed hdata hfinal fun hc => absurd hc hn
    | sent request' answer' hother hcompletes =>
      exact .confirmed hdata hfinal (hpassed a rfl) hother hcompletes

/-- An action that has failed. -/
theorem Shape.of_failed {f : Failure} {more : List Sending}
    (hd : DataStep calm (.error f : Except Failure α) more) : Shape calm more := by
  cases hd with
  | unsent => exact .idle
  | sent request answer _ hdata hfinal _ hcalm =>
    refine .unconfirmed hdata hfinal fun hc hconfirms => ?_
    obtain ⟨a, ha⟩ := hcalm hc hconfirms
    cases ha

/-- What is plain may come first. -/
theorem adds_first {body : Flow World α} {next : α → Flow World β}
    (hb : (sent script start number calm).Adds body fun _ more => Plain more)
    (hn : ∀ a, (sent script start number calm).Adds (next a) fun _ more => Shape calm more) :
    (sent script start number calm).Adds (body >>= next) fun _ more => Shape calm more := by
  refine .bind hb (fun f more hp => ?_) fun a more hp => .mono (hn a) fun o rest hr =>
    .of_plain hp hr
  have hs := Shape.of_plain hp (.idle : Shape calm [])
  rwa [List.append_nil] at hs

/-- An action on data, and a final step after it. -/
theorem adds_last {body : Flow World α} {final : Flow World β} {last : β → Flow World Unit}
    (hb : (sent script start number calm).Adds body (DataStep calm))
    (hf : (sent script start number calm).Adds final fun _ more => FinalStep calm more)
    (hl : ∀ b, (sent script start number calm).Adds (last b) fun _ more => more = []) :
    (sent script start number calm).Adds (body >>= fun _ => final >>= last)
      fun _ more => Shape calm more := by
  refine .bind hb (fun f more hd => .of_failed hd) fun a more hd => ?_
  refine .bind hf (fun f rest hrest => .of_steps hd hrest) fun b rest hrest => ?_
  refine .mono (hl b) ?_
  rintro o none rfl
  rw [List.append_nil]
  exact .of_steps hd hrest

theorem newTrace_undisturbed {apart : Prop} (s : Session World) :
    Undisturbed number apart s (World.newTrace.runFrom s).2 :=
  ⟨rfl, rfl, fun _ hs => ⟨hs.writable, hs.opened, hs.unclosed, hs.apart⟩⟩

theorem adds_newTrace_over : (sent script start number calm).Adds World.newTrace
    fun _ more => Plain more := by
  refine .mono (Undisturbed.adds fun s => newTrace_undisturbed s) ?_
  rintro o more rfl
  exact plain_nil

theorem adds_acquire_over (pipeline : Pipeline) (containerId : Int) :
    (sent script start number calm).Adds (bookkeeping
      ((overNetwork own client nodes telemetry).parts.acquire pipeline containerId))
      fun _ more => more = [] := by
  refine .mono (adds_bookkeeping
    (Undisturbed.adds fun s => Undisturbed.acquire pipeline containerId)) ?_
  rintro o more (⟨-, -, h⟩ | ⟨-, -, h⟩) <;> exact h

theorem adds_release_over (handle : NetworkHandle) :
    (sent script start number calm).Adds (bookkeeping
      ((overNetwork own client nodes telemetry).parts.release handle)) fun _ more => more = [] := by
  refine .mono (adds_bookkeeping (Undisturbed.adds fun s => Undisturbed.release handle)) ?_
  rintro o more (⟨-, -, h⟩ | ⟨-, -, h⟩) <;> exact h

/-- What is done on a handle. -/
theorem adds_holding_over {pipeline : Pipeline} {containerId : Int}
    {body : NetworkHandle → Flow World α}
    (hbody : ∀ handle, (sent script start number calm).Adds (body handle)
      fun _ more => Shape calm more) :
    (sent script start number calm).Adds
      ((overNetwork own client nodes telemetry).holding pipeline containerId body)
      fun _ more => Shape calm more := by
  refine .bind (adds_acquire_over pipeline containerId) ?_ ?_
  · rintro f more rfl
    exact .idle
  · rintro handle more rfl
    exact .andFinally_nil (hbody handle) (adds_release_over handle) fun _ _ _ hshape => hshape

theorem adds_materialize_over (ht : ∀ c ∈ telemetry, c.Discreet) (handle : NetworkHandle)
    (pipeline : Pipeline) :
    (sent script start number calm).Adds
      ((overNetwork own client nodes telemetry).materialize handle pipeline)
      fun _ more => Plain more := by
  unfold materialize
  split
  · exact .throw plain_nil
  · exact .throw plain_nil
  · rename_i name _ _
    exact adds_plain_bind (adds_createPipeline ht name pipeline.members) fun _ =>
      .discreet (Log.discreet_logWith _ _ _ _)

theorem adds_prepare_over (ht : ∀ c ∈ telemetry, c.Discreet) (handle : NetworkHandle)
    (pipeline : Pipeline) :
    (sent script start number calm).Adds
      ((overNetwork own client nodes telemetry).prepare handle pipeline)
      fun _ more => Plain more := by
  unfold prepare
  cases pipeline.state with
  | allocated => exact adds_materialize_over ht handle pipeline
  | opened => exact .pure plain_nil
  | _ => exact .throw plain_nil

/-- An action on data between the reports of its beginning and of its end. -/
theorem adds_reported (ht : ∀ c ∈ telemetry, c.Discreet)
    (hcarrier : calm → client.carrier = .connection number)
    (hreports : calm → ∃ url, client.base.resolve "/stage-changes" = .ok url)
    (containerId : Int) (operation : StageOperation) {act : String → Flow World Unit}
    {last : Flow World Unit}
    (hact : ∀ trace, (sent script start number calm).Adds (act trace) (DataStep calm))
    (hlast : (sent script start number calm).Adds last fun _ more => more = []) :
    (sent script start number calm).Adds (do
      (overNetwork own client nodes telemetry).notify containerId operation .begun
      let trace ← (overNetwork own client nodes telemetry).parts.newTrace
      act trace
      (overNetwork own client nodes telemetry).notify containerId operation .complete
      last) fun _ more => Shape calm more := by
  cases hid : Decimal.isOverlong containerId with
  | true =>
    rw [notify_of_overlong hid]
    exact .bind_throw .idle
  | false =>
    rw [notify_of_fits hid, notify_of_fits hid]
    refine adds_first (adds_begun ht rfl) fun _ => adds_first adds_newTrace_over fun trace => ?_
    exact adds_last (hact trace) (adds_complete ht rfl hcarrier hreports) fun _ => hlast

/-- A call on a container that the caller names. -/
theorem adds_call_over (ht : ∀ c ∈ telemetry, c.Discreet) (name : String) {containerId : Int}
    {rest : List (String × Value)} (hrest : ∀ e ∈ rest, e.2.isOverlong = false)
    {body : Flow World α} (hbody : Decimal.isOverlong containerId = false →
      (sent script start number calm).Adds body fun _ more => Shape calm more) :
    (sent script start number calm).Adds ((overNetwork own client nodes telemetry).component.call
      name (("container_id", .int containerId) :: rest) body) fun _ more => Shape calm more :=
  .call_int hbody ht name _ hrest (fun _ => .idle) fun _ _ _ h => h.of_list fun _ => .idle

/-- The client reaches the placement service over the connection with a number, for all that an
operation makes final there. -/
structure Reaches (client : Client) (number : Nat) (op : ContainerOperation) : Prop where
  carrier : client.carrier = .connection number
  reports : ∃ url, client.base.resolve "/stage-changes" = .ok url
  removes : ∀ containerId pipeline force, op = .delete containerId pipeline force → ∃ url,
    client.base.resolve ("/containers/" ++ Decimal.integerText containerId ++ "") = .ok url

/-- What an operation sends has its shape. -/
theorem ContainerOperation.adds_run_over (ht : ∀ c ∈ telemetry, c.Discreet)
    (hheaders : client.headers = Placement.jsonHeaders) (op : ContainerOperation)
    (hreaches : calm → Reaches client number op) :
    (sent script start number calm).Adds (op.run (overNetwork own client nodes telemetry))
      fun _ more => Shape calm more := by
  have hcarrier : calm → client.carrier = .connection number := fun hc => (hreaches hc).carrier
  have hreports : calm → ∃ url, client.base.resolve "/stage-changes" = .ok url :=
    fun hc => (hreaches hc).reports
  cases op with
  | create owner type factor =>
    refine .bind_pure (.mono (.call (P := fun _ more => Shape calm more) ?_ ht _ fun e he => ?_)
      fun o more h => h.of_list fun _ => .idle)
    · refine adds_first (adds_allocate ht _ _ owner) fun record => ?_
      refine .bind_pure (adds_holding_over fun handle => ?_)
      refine adds_first (adds_prepare_over ht handle record.pipeline) fun _ => ?_
      exact adds_reported ht hcarrier hreports record.containerId .create
        (fun trace => adds_createData ht record.containerId trace)
        (.discreet (Log.discreet_logWith _ _ _ _))
    · rw [List.mem_singleton.1 he]
      rfl
  | close containerId pipeline =>
    refine adds_call_over ht _ (List.forall_mem_nil _) fun _ => adds_holding_over fun handle => ?_
    exact adds_reported ht hcarrier hreports containerId .close
      (fun trace => adds_closeData ht containerId trace) (.discreet (Log.discreet_logWith _ _ _ _))
  | delete containerId pipeline force =>
    refine adds_call_over ht _ (fun e he => ?_) fun hid => adds_holding_over fun handle => ?_
    · obtain ⟨b, -, rfl⟩ : ∃ b, force = some b ∧ ("force", Value.bool b) = e := by
        simpa using he
      rfl
    · refine adds_first adds_newTrace_over fun trace => ?_
      exact adds_last (adds_deleteData ht containerId (force.getD false) trace)
        (adds_deleteRecord ht hid hheaders hcarrier
          fun hc => (hreaches hc).removes containerId pipeline force rfl)
        fun _ => .discreet (Log.discreet_logWith _ _ _ _)
  | read containerId pipeline =>
    refine .bind_pure (adds_call_over ht _ (List.forall_mem_nil _) fun _ => adds_holding_over
      fun handle => ?_)
    refine adds_first adds_newTrace_over fun trace => ?_
    refine adds_first (adds_readData ht containerId trace) fun data => ?_
    refine .bind (.discreet (Log.discreet_logWith _ _ _ _)) ?_ ?_
    · rintro f more rfl
      exact .idle
    · rintro _ more rfl
      exact .pure .idle

end Operations

end Stowage.Service
