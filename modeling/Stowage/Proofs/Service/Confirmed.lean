import Stowage.Proofs.Service.Shape

/-!
What is made final after which answers.

An answer that is let pass need not be that of a success. `guarded_iff` says exactly when nothing is
made final without one, and in the run of `not_guarded_redirect` something is.
-/

namespace Stowage.Service

open Http (Request Answer Client)

variable {calm : Prop}

/-! ## What is made final -/

/-- What has been sent since another session, with the answers that the network then had in store. -/
def sentSince (x t : Session World) : List Sending :=
  answered x.world.network.answers (t.requests.drop x.requests.length)

/-- What is known of all that a flow adds to the requests is known of what has been sent since. -/
theorem sentSince_of_addsAt {number : Nat} {α : Type} {x : Session World} {body : Flow World α}
    {P : Except Failure α → List Sending → Prop}
    (h : (sent x.world.network.answers x.requests.length number calm).AddsAt x body P) :
    P (body.runFrom x).1 (sentSince x (body.runFrom x).2) := by
  obtain ⟨-, more, hlist, hP⟩ := h
  have hnone : answered x.world.network.answers (x.requests.drop x.requests.length) = [] := by
    rw [List.drop_length]
    rfl
  have hall : sentSince x (body.runFrom x).2 = more := by
    refine Eq.trans hlist ?_
    change answered _ _ ++ more = more
    rw [hnone, List.nil_append]
  rw [hall]
  exact hP

/-- The answer says that what was requested has been done. -/
def Succeeds (answer : Answer) : Prop :=
  ∃ response, answer = .response response ∧ 200 ≤ response.status ∧ response.status ≤ 299

/-- Nothing is made final unless the last request about data before it has been answered by a
success. -/
def Guarded (all : List Sending) : Prop :=
  ∀ before e after, all = before ++ e :: after → e.1.completes = true →
    ∃ earlier d later, before = earlier ++ d :: later ∧ d.1.isData = true ∧
      (∀ p ∈ later, p.1.isData = false) ∧ Succeeds d.2

/-- Every answer to a request about data that is let pass is a success. -/
def Candid (all : List Sending) : Prop :=
  ∀ d ∈ all, d.1.isData = true → Confirms d.1 d.2 → Succeeds d.2

theorem Shape.guarded {all : List Sending} (h : Shape calm all) (hall : Candid all) :
    Guarded all := by
  rintro before e after rfl hfinal
  obtain ⟨earlier, d, rfl, hdata, hconfirms⟩ := h.safe before e after rfl hfinal
  refine ⟨earlier, d, [], rfl, hdata, List.forall_mem_nil _, hall d ?_ hdata hconfirms⟩
  exact List.mem_append_left _ (List.mem_append_right _ (List.mem_singleton_self d))

theorem Shape.candid {all : List Sending} (h : Shape calm all) (hcalm : calm)
    (hg : Guarded all) : Candid all := by
  intro d hd hdata hconfirms
  obtain ⟨before, e, after, rfl, hfinal⟩ := h.live hcalm hd hdata hconfirms
  obtain ⟨earlier, d', later, hbefore, -, hlater, hsucceeds⟩ :=
    hg (before ++ [d]) e after (by rw [List.append_assoc]; rfl) hfinal
  -- nothing about data is later than the request right before the final one
  rcases List.eq_nil_or_concat later with rfl | ⟨later, last, hlast⟩
  · obtain ⟨-, hlast⟩ := List.append_inj' hbefore rfl
    rw [List.singleton_inj.1 hlast]
    exact hsucceeds
  · rw [List.concat_eq_append] at hlast
    subst hlast
    have hends : before ++ [d] = (earlier ++ d' :: later) ++ [last] := by
      rw [hbefore, List.append_assoc]
      rfl
    have hd := List.singleton_inj.1 (List.append_inj' hends rfl).2
    have hnot := hlater last (List.mem_append_right _ (List.mem_singleton_self last))
    rw [← hd, hdata] at hnot
    cases hnot

theorem Response.status_unpacked {packed response : Http.Response}
    (h : packed.unpacked = .ok response) : response.status = packed.status := by
  unfold Http.Response.unpacked at h
  split at h
  · cases h
    rfl
  · cases h
    rfl
  · obtain ⟨body, -, h⟩ := bind_eq_ok.1 h
    cases h
    rfl

/-- An answer that is let pass is a response without an error status; whether the status is that of a
success is not asked. -/
theorem Confirms.isError {request : Request} {answer : Answer} (h : Confirms request answer) :
    ∃ packed, answer = .response packed ∧ packed.isError = false := by
  obtain ⟨packed, response, -, rfl, -, hunpacked, herror, -⟩ := h
  refine ⟨packed, rfl, ?_⟩
  unfold Client.unpacked at hunpacked
  split at hunpacked
  · rename_i r hr
    cases hunpacked
    unfold Http.Response.isError at herror ⊢
    rw [← Response.status_unpacked hr]
    exact herror
  · cases hunpacked

/-- **What is made final, and after what.** Whatever the network answers, an operation is made final
right after a request about data whose answer was let pass. It follows that no operation is made
final without a success if no other answers are let pass; and where the placement service can be
reached, this is also necessary. -/
theorem guarded_iff {own : ContainerOperationsSettings} {client : Client} {nodes : DatanodeSettings}
    {telemetry : List (Instrument.Concern World)} (ht : ∀ c ∈ telemetry, c.Discreet)
    (hheaders : client.headers = Placement.jsonHeaders) (number : Nat) (op : ContainerOperation)
    (x : Session World) :
    let all := sentSince x ((op.run (overNetwork own client nodes telemetry)).runFrom x).2
    (∀ before e after, all = before ++ e :: after → e.1.completes = true →
      ∃ earlier d, before = earlier ++ [d] ∧ d.1.isData = true ∧ Confirms d.1 d.2) ∧
    (Candid all → Guarded all) ∧
    (Calm number x → Reaches client number op → (Guarded all ↔ Candid all)) := by
  intro all
  have hshape : ∀ {calm : Prop}, (calm → Calm number x ∧ Reaches client number op) →
      Shape calm all := by
    intro calm hc
    have hadds : (sent x.world.network.answers x.requests.length number calm).Adds
        (op.run (overNetwork own client nodes telemetry)) fun _ more => Shape calm more :=
      op.adds_run_over ht hheaders fun h => (hc h).2
    obtain ⟨-, more, hlist, hmore⟩ := hadds x
      ⟨Nat.le_refl _, by rw [Nat.sub_self, List.drop_zero], fun h => (hc h).1⟩
    have hnone : answered x.world.network.answers (x.requests.drop x.requests.length) = [] := by
      rw [List.drop_length]
      rfl
    have hall : all = more := by
      refine Eq.trans hlist ?_
      change answered _ _ ++ more = more
      rw [hnone, List.nil_append]
    rw [hall]
    exact hmore
  have hany : Shape False all := hshape False.elim
  refine ⟨hany.safe, hany.guarded, fun hcalm hreaches => ⟨fun hg => ?_, hany.guarded⟩⟩
  have hall : Shape True all := hshape fun _ => ⟨hcalm, hreaches⟩
  exact hall.candid trivial hg

/-- A session in which one connection is open, and the network answers by statuses alone. -/
def answering (statuses : List Int) : Session World where
  world := {
    network := { answers := statuses.map fun status => .response { status }, opened := 1 }
    traceOf := fun _ => "t" }

/-- A client for the placement service over that connection. -/
def placementClient : Client where
  carrier := .connection 0
  base := { scheme := "http", host := "scm", port := some 9860, path := "/" }
  timeout := .ofDecimal false 10 0
  headers := Placement.jsonHeaders

theorem reaches_close (containerId : Int) (pipeline : Pipeline) :
    Reaches placementClient 0 (.close containerId pipeline) where
  carrier := rfl
  reports := by
    have h : (placementClient.base.resolve "/stage-changes").toOption =
        some { placementClient.base with path := "/stage-changes" } := by decide +kernel
    cases hr : placementClient.base.resolve "/stage-changes" with
    | ok url => exact ⟨url, rfl⟩
    | error f =>
      rw [hr] at h
      cases h
  removes := by
    rintro _ _ _ h
    cases h

theorem calm_answering (statuses : List Int) : Calm 0 (answering statuses) where
  writable := .inr (List.forall_mem_nil _)
  opened := Nat.zero_lt_one
  unclosed := List.not_mem_nil
  apart := by
    rintro client ⟨handle, hh, -⟩
    exact absurd hh List.not_mem_nil

/-- A container is closed, and all that is asked for succeeds. -/
theorem guarded_iff_answering :
    let pipeline : Pipeline :=
      ⟨some "p1", ["n1:9859"], "n1:9859", .opened, .standAlone, .one, by decide⟩
    let telemetry : List (Instrument.Concern World) := Instrument.telemetry 0 .silent .silent
    let x := answering [204, 204, 204]
    let op : ContainerOperation := .close 7 pipeline
    let all := sentSince x ((op.run (overNetwork {} placementClient {} telemetry)).runFrom x).2
    (∀ c ∈ telemetry, c.Discreet) ∧ placementClient.headers = Placement.jsonHeaders ∧
      Calm 0 x ∧ Reaches placementClient 0 op ∧ (Guarded all ↔ Candid all) := by
  intro pipeline telemetry x op all
  have ht : ∀ c ∈ telemetry, c.Discreet := Instrument.discreet_telemetry_silent 0
  have hcalm : Calm 0 x := calm_answering _
  have hreaches : Reaches placementClient 0 op := reaches_close 7 pipeline
  exact ⟨ht, rfl, hcalm, hreaches, (guarded_iff ht rfl 0 op x).2.2 hcalm hreaches⟩

/-- What kind of a request it is, and the status that it is answered with. -/
def Sending.outline (e : Sending) : Bool × Bool × Option Int :=
  (e.1.isData, e.1.completes, match e.2 with
    | .response response => some response.status
    | _ => none)

/-- A datanode sends the request to close a container on to another place, and the operation is
reported complete. -/
theorem not_guarded_redirect :
    let pipeline : Pipeline :=
      ⟨some "p1", ["n1:9859"], "n1:9859", .opened, .standAlone, .one, by decide⟩
    let x := answering [204, 302, 204]
    let run : Flow World Unit := do
      let service ← connect {} []
      (ContainerOperation.close 7 pipeline).run service
    ¬ Guarded (sentSince x (run.runFrom x).2) := by
  intro pipeline x run hg
  have houtline : (sentSince x (run.runFrom x).2).map Sending.outline =
      [(false, false, some 204), (true, false, some 302), (false, true, some 204)] := by
    decide +kernel
  generalize sentSince x (run.runFrom x).2 = all at hg houtline
  obtain ⟨begun, _, rfl, hbegun, houtline⟩ := List.map_eq_cons_iff.1 houtline
  obtain ⟨closed, _, rfl, hclosed, houtline⟩ := List.map_eq_cons_iff.1 houtline
  obtain ⟨complete, _, rfl, hcomplete, -⟩ := List.map_eq_cons_iff.1 houtline
  obtain ⟨earlier, d, later, hbefore, hdata, -, response, hanswer, hlow, hhigh⟩ :=
    hg [begun, closed] complete _ rfl (Prod.mk.inj (Prod.mk.inj hcomplete).2).1
  have hd : d ∈ [begun, closed] := by
    rw [hbefore]
    exact List.mem_append_right _ List.mem_cons_self
  rcases List.mem_cons.1 hd with rfl | hd
  · cases hdata.symm.trans (Prod.mk.inj hbegun).1
  · rw [List.mem_singleton.1 hd] at hanswer
    have hstatus := (Prod.mk.inj (Prod.mk.inj hclosed).2).2
    rw [hanswer] at hstatus
    have hstatus : response.status = 302 := Option.some.inj hstatus
    omega

end Stowage.Service
