import Stowage.Instrument.Rehearsal
import Stowage.Proofs.Instrument.Faithful
import Stowage.Proofs.Service.Sent

/-!
Remarks: what there is to be seen of a run from outside.

A remark is a request with its answer, a failure that is counted, the end of a call that an observer
is told of, or words on standard error. `Session.Onward` says which remarks lie between two
sessions. A call adds to the remarks of its body what its observers are told at its end, and nothing
else (`Instrument.Component.remarks_call`).
-/

namespace Stowage

open Http (Request Answer)

open Instrument (Completion Invocation Concern Operation Stage)

variable {α β : Type}

/-! ## Remarks -/

/-- One thing that is seen of a run. -/
inductive Remark where
  | sent (request : Request) (answer : Answer)
  | counted (attributes : Labels)
  | ended (completion : Completion)
  | complained (text : String)

namespace Remark

/-- Whether a request is sent. -/
def isSent : Remark → Bool
  | sent .. => true
  | _ => false

/-- How many requests are sent. -/
def sends (more : List Remark) : Nat := more.countP isSent

/-- What is written on standard error. -/
def complaint? : Remark → Option String
  | complained text => some text
  | _ => none

/-- All that is written on standard error. -/
def complaints (more : List Remark) : List String := more.filterMap complaint?

/-- Whether an observer is told something. -/
def isTold : Remark → Bool
  | counted _ => true
  | ended _ => true
  | _ => false

/-- The remarks on events, with answers to the requests from a script. -/
def ofEvents : List Answer → List Event → List Remark
  | _, [] => []
  | script, .request request :: r =>
    .sent request (Service.answerAt script 0) :: ofEvents (script.drop 1) r
  | script, .measured .errors attributes :: r => .counted attributes :: ofEvents script r
  | script, .completed completion :: r => .ended completion :: ofEvents script r
  | script, .complained text :: r => .complained text :: ofEvents script r
  | script, _ :: r => ofEvents script r

theorem sends_append (more rest : List Remark) : sends (more ++ rest) = sends more + sends rest :=
  List.countP_append

theorem sends_cons (r : Remark) (rest : List Remark) : sends (r :: rest) = sends [r] + sends rest :=
  sends_append [r] rest

theorem complaints_append (more rest : List Remark) :
    complaints (more ++ rest) = complaints more ++ complaints rest := List.filterMap_append

theorem sends_of_told {more : List Remark} (h : ∀ r ∈ more, r.isTold = true) : sends more = 0 := by
  refine List.countP_eq_zero.2 fun r hr hsent => ?_
  have htold := h r hr
  cases r with
  | sent => cases htold
  | _ => cases hsent

theorem complaints_of_told {more : List Remark} (h : ∀ r ∈ more, r.isTold = true) :
    complaints more = [] := by
  refine List.filterMap_eq_nil_iff.2 fun r hr => ?_
  have htold := h r hr
  cases r with
  | complained => cases htold
  | _ => rfl

/-- Remarks on an event do not depend on those before it, except for the answer. -/
theorem ofEvents_cons (script : List Answer) (event : Event) (r : List Event) :
    ofEvents script (event :: r) = ofEvents script [event] ++
      ofEvents (script.drop (sends (ofEvents script [event]))) r := by
  cases event with
  | measured measure attributes => cases measure <;> rfl
  | _ => rfl

theorem ofEvents_append (script : List Answer) (es es' : List Event) :
    ofEvents script (es ++ es') =
      ofEvents script es ++ ofEvents (script.drop (sends (ofEvents script es))) es' := by
  induction es generalizing script with
  | nil => rfl
  | cons event r ih =>
    rw [List.cons_append, ofEvents_cons, ih, ofEvents_cons script event r, sends_append,
      ← List.drop_drop, List.append_assoc]

/-- There is nothing to remark on log lines. -/
theorem ofEvents_lines (script : List Answer) (handlers : List Log.Handler) (record : Log.Record) :
    ofEvents script (handlers.map fun h => .line h.format record) = [] := by
  induction handlers with
  | nil => rfl
  | cons h r ih => exact ih

/-- Where nothing is sent there is no request. -/
theorem ne_of_unsent {more before after : List Remark} {request : Request} {answer : Answer}
    (h : sends more = 0) : more ≠ before ++ .sent request answer :: after := by
  rintro rfl
  rw [sends_append, sends_cons] at h
  have hone : sends [.sent request answer] = 1 := rfl
  omega

end Remark

open Remark (sends ofEvents)

/-! ## Sessions -/

/-- No name that is bound takes the place of a part that holds log records together. -/
def Log.Clean {σ : Type} (s : Session σ) : Prop := ∀ e ∈ s.context.entries, partFault? e.1 = none

theorem Log.Clean.writable {σ : Type} {s : Session σ} (h : Clean s) : Writable s := .inr h

theorem Log.Clean.alike {σ : Type} {s t : Session σ} (h : s.Alike t) (hs : Clean s) : Clean t := by
  unfold Clean
  rw [h.context]
  exact hs

/-- A session is followed by another one, with these remarks in between. -/
structure Session.Onward (s : Session World) (more : List Remark) (t : Session World) : Prop where
  journal : ∃ es, t.journal = s.journal ++ es ∧ ofEvents s.world.network.answers es = more
  answers : t.world.network.answers = s.world.network.answers.drop (sends more)
  clean : Log.Clean s → Log.Clean t

namespace Session.Onward

variable {s t u : Session World} {more rest : List Remark}

theorem of_kept (hjournal : t.journal = s.journal)
    (hanswers : t.world.network.answers = s.world.network.answers)
    (hcontext : t.context = s.context) :
    s.Onward [] t where
  journal := ⟨[], by rw [hjournal, List.append_nil], rfl⟩
  answers := hanswers
  clean hs := by
    unfold Log.Clean
    rw [hcontext]
    exact hs

theorem refl (s : Session World) : s.Onward [] s := of_kept rfl rfl rfl

theorem trans (h : s.Onward more t) (h' : t.Onward rest u) : s.Onward (more ++ rest) u := by
  obtain ⟨es, hes, rfl⟩ := h.journal
  obtain ⟨es', hes', rfl⟩ := h'.journal
  refine ⟨⟨es ++ es', ?_, ?_⟩, ?_, fun hs => h'.clean (h.clean hs)⟩
  · rw [hes', hes, List.append_assoc]
  · rw [Remark.ofEvents_append, h.answers]
  · rw [h'.answers, h.answers, Remark.sends_append, List.drop_drop]

/-- Nothing to remark comes first. -/
theorem of_nil (h : s.Onward [] t) (h' : t.Onward rest u) : s.Onward rest u := h.trans h'

/-- Nothing to remark comes last. -/
theorem then_nil (h : s.Onward more t) (h' : t.Onward [] u) : s.Onward more u := by
  have h := h.trans h'
  rwa [List.append_nil] at h

/-- From the beginning on, remarks are those on all that has been written down. -/
theorem ofEvents_journal (h : s.Onward more t) (hs : s.journal = []) :
    ofEvents s.world.network.answers t.journal = more := by
  obtain ⟨es, hes, hmore⟩ := h.journal
  rw [hes, hs]
  exact hmore

/-- An event is written down that is no request. -/
theorem record {event : Event} (h : event.request? = none) :
    s.Onward (ofEvents [] [event]) { s with journal := s.journal ++ [event] } where
  journal := by
    refine ⟨[event], rfl, ?_⟩
    cases event with
    | request => cases h
    | measured measure => cases measure <;> rfl
    | _ => rfl
  answers := by
    have hnone : sends (ofEvents [] [event]) = 0 := by
      cases event with
      | request => cases h
      | measured measure => cases measure <;> rfl
      | _ => rfl
    rw [hnone]
    rfl
  clean hs := hs

end Session.Onward

/-! ## Flows -/

namespace Flow

/-- There is nothing to remark on a flow. -/
def Unremarkable (body : Flow World α) : Prop :=
  ∀ s : Session World, s.Onward [] (body.runFrom s).2

namespace Unremarkable

variable {body : Flow World α} {next : α → Flow World β}

theorem ofExcept (outcome : Except Failure α) : Unremarkable (Flow.ofExcept outcome) :=
  Session.Onward.refl

theorem pure (a : α) : Unremarkable (Pure.pure a) := Session.Onward.refl

theorem throw (f : Failure) : Unremarkable (MonadExcept.throw f : Flow World α) :=
  Session.Onward.refl

theorem look {τ : Type} (slot : Slot World τ) : Unremarkable (Flow.look slot) :=
  Session.Onward.refl

theorem bind (hb : body.Unremarkable) (hn : ∀ a, (next a).Unremarkable) :
    (body >>= next).Unremarkable := by
  intro s
  rw [runFrom_bind]
  have hs := hb s
  generalize body.runFrom s = r at hs ⊢
  rcases r with ⟨f | a, t⟩
  · exact hs
  · exact hs.trans (hn a t)

theorem attempt (hb : body.Unremarkable) : body.attempt.Unremarkable := hb

theorem handling {deal : Failure → Flow World α} (hb : body.Unremarkable)
    (hd : ∀ f, (deal f).Unremarkable) : (body.handling deal).Unremarkable := by
  refine .bind (.attempt hb) fun outcome => ?_
  rcases outcome with f | a
  · cases h : f.isInterrupt with
    | true => simpa [h] using .throw f
    | false => simpa [h] using hd f
  · exact .pure a

theorem within {values : Entries} (hb : body.Unremarkable) :
    (Log.within values body).Unremarkable := by
  intro s
  rw [Log.runFrom_within]
  cases (Log.bindable values).bind (Log.bound s.context) with
  | error f => exact .refl s
  | ok context =>
    obtain ⟨hjournal, hanswers, -⟩ := hb { s with context }
    exact ⟨hjournal, hanswers, fun hs => hs⟩

theorem emit (record : Log.Record) : Unremarkable (Log.emit record) := by
  intro s
  rw [Log.runFrom_emit]
  split
  · exact .refl s
  · exact ⟨⟨_, rfl, Remark.ofEvents_lines _ _ _⟩, rfl, fun hs => hs⟩

theorem logWith (logger : String) (level : Nat) (message : String)
    (entries : List (String × Value)) :
    Unremarkable (Log.logWith logger level message entries) := .within (.emit _)

end Unremarkable

/-- Where log records can be written a flow ends well, and there is nothing to remark on it. -/
def Settles (body : Flow World Unit) : Prop :=
  ∀ s : Session World, Log.Clean s → ∃ t, body.runFrom s = (.ok (), t) ∧ s.Onward [] t

namespace Settles

theorem pure : Settles (Pure.pure ()) := fun s _ => ⟨s, rfl, .refl s⟩

theorem bind {body : Flow World Unit} {next : Unit → Flow World Unit} (hb : body.Settles)
    (hn : (next ()).Settles) : (body >>= next).Settles := by
  intro s hs
  obtain ⟨t, ht, hst⟩ := hb s hs
  obtain ⟨u, hu, htu⟩ := hn t (hst.clean hs)
  rw [runFrom_bind_ok ht]
  exact ⟨u, hu, hst.trans htu⟩

/-- A part of the world is looked at first. -/
theorem look_bind {τ : Type} {slot : Slot World τ} {next : τ → Flow World Unit}
    (h : ∀ part, (next part).Settles) : (Flow.look slot >>= next).Settles :=
  fun s hs => h (slot.get s.world) s hs

theorem logWith {logger message : String} {level : Nat} {entries : List (String × Value)}
    (he : Log.Bindable entries) : (Log.logWith logger level message entries).Settles :=
  fun s hs => ⟨_, Prod.ext (Log.logWith_ok hs.writable logger level message he) rfl,
    Unremarkable.logWith logger level message entries s⟩

/-- What ends well needs no handling. -/
theorem handling {body : Flow World Unit} {deal : Failure → Flow World Unit} (h : body.Settles) :
    (body.handling deal).Settles := by
  intro s hs
  obtain ⟨t, ht, hst⟩ := h s hs
  exact ⟨t, by rw [runFrom_handling, ht], hst⟩

end Settles

/-- Someone is told something, with these remarks, and is not interrupted. -/
def Tells (body : Flow World Unit) (more : List Remark) : Prop :=
  ∀ s : Session World, s.Onward more (body.runFrom s).2 ∧
    ∀ f, (body.runFrom s).1 = .error f → f.isInterrupt = false

namespace Tells

variable {body : Flow World Unit} {more : List Remark}

theorem pure : Tells (Pure.pure ()) [] := fun s => ⟨.refl s, fun f h => by cases h⟩

theorem of_discreet (h : body.Unremarkable) (hd : body.Discreet) : body.Tells [] :=
  fun s => ⟨h s, (hd s).2⟩

theorem record {event : Event} (h : event.request? = none) :
    (Flow.record event).Tells (ofEvents [] [event]) :=
  fun _ => ⟨.record h, fun f h => by cases h⟩

theorem record_bind {event : Event} (h : event.request? = none) (hb : body.Tells more) :
    (Flow.record event >>= fun _ => body).Tells (ofEvents [] [event] ++ more) := by
  intro s
  rw [runFrom_bind_ok (runFrom_record event s)]
  obtain ⟨hs, hf⟩ := hb { s with journal := s.journal ++ [event] }
  exact ⟨.trans (.record h) hs, hf⟩

/-- An event is written down first that nobody sees. -/
theorem unseen_bind {event : Event} (h : event.request? = none) (hunseen : ofEvents [] [event] = [])
    (hb : body.Tells more) : (Flow.record event >>= fun _ => body).Tells more := by
  have hbind := record_bind h hb
  rwa [hunseen, List.nil_append] at hbind

end Tells

end Flow

/-! ## Observers -/

namespace Instrument

/-- A concern on which there is nothing to remark. It may fail, but it is not interrupted. -/
structure Concern.Quiet (c : Concern World) : Prop where
  onInvocation : ∀ i, (c.onInvocation i).Tells []
  onCompletion : ∀ e, (c.onCompletion e).Tells []

theorem unremarkable_annotateAll_silent (span : Span) (attributes : List (String × Value)) :
    (annotateAll .silent span attributes : Flow World Unit).Unremarkable := by
  induction attributes with
  | nil => exact .pure ()
  | cons a r ih => exact .bind (.pure ()) fun _ => ih

theorem Concern.quiet_tracing_silent (number : Nat) :
    (Concern.tracing number .silent : Concern World).Quiet where
  onInvocation i := by
    refine .of_discreet (.bind (fun s => ?_) fun span => ?_)
      ((discreet_tracing_silent number).onInvocation i)
    · exact .of_kept rfl rfl rfl
    · refine .bind (unremarkable_annotateAll_silent span _) fun _ s => ?_
      exact .of_kept rfl rfl rfl
  onCompletion e := by
    refine .of_discreet (.bind (fun s => ?_) fun span => ?_)
      ((discreet_tracing_silent number).onCompletion e)
    · exact .of_kept rfl rfl rfl
    · cases span with
      | none => exact .pure ()
      | some span =>
        refine .bind (unremarkable_annotateAll_silent span _) fun _ => ?_
        cases e.success <;> exact .bind (.pure ()) fun _ => .pure ()

theorem Concern.quiet_metrics_silent : (Concern.metrics .silent : Concern World).Quiet where
  onInvocation _ := .pure
  onCompletion e := by
    have hcount : ∀ categories, (countErrors .silent e.invocation categories :
        Flow World Unit).Unremarkable := by
      intro categories
      induction categories with
      | nil => exact .pure ()
      | cons category r ih => exact .bind (.pure ()) fun _ => ih
    refine .of_discreet (.bind (.pure ()) fun _ => .bind (.pure ()) fun _ => ?_)
      (discreet_metrics_silent.onCompletion e)
    cases e.success
    · exact hcount _
    · exact .pure ()

/-- There is nothing to remark on telemetry that nobody listens to. -/
theorem quiet_telemetry_silent (number : Nat) :
    ∀ c ∈ (telemetry number .silent .silent : List (Concern World)), c.Quiet := by
  intro c hc
  simp only [telemetry, List.mem_cons, List.not_mem_nil, or_false] at hc
  rcases hc with rfl | rfl
  · exact Concern.quiet_tracing_silent number
  · exact Concern.quiet_metrics_silent

/-- Someone who observes calls: the concern that counts failures, with meters that can be read; the
concern that writes down what it is told; or any other one. -/
inductive Observer where
  | meters
  | recorder
  | other (concern : Concern World)

namespace Observer

/-- The concern that an observer is. -/
def concern : Observer → Concern World
  | meters => .metrics .journal
  | recorder => .recording
  | other concern => concern

/-- What a failure of a category is counted under. -/
def errorAttributes (i : Invocation) (category : String) : Labels := .ofList [
  ("component_id", i.component), ("api_name", i.operation), ("error_category", category)]

/-- The remarks when an observer is told of the end of a call. -/
def remarks (e : Completion) : Observer → List Remark
  | meters =>
    if e.success then []
    else (if e.categories.isEmpty then ["unspecified"] else e.categories).map fun category =>
      .counted (errorAttributes e.invocation category)
  | recorder => [.ended e]
  | other _ => []

theorem tells_countErrors (i : Invocation) (categories : List String) :
    (countErrors .journal i categories).Tells
      (categories.map fun category => .counted (errorAttributes i category)) := by
  induction categories with
  | nil => exact .pure
  | cons category r ih => exact .record_bind rfl ih

variable {observer : Observer} (h : ∀ c, observer = .other c → c.Quiet)

include h in
theorem tells_onInvocation (i : Invocation) : (observer.concern.onInvocation i).Tells [] := by
  cases observer with
  | meters => exact .pure
  | recorder => exact .record rfl
  | other c => exact (h c rfl).onInvocation i

include h in
theorem tells_onCompletion (e : Completion) :
    (observer.concern.onCompletion e).Tells (observer.remarks e) := by
  cases observer with
  | meters =>
    refine .unseen_bind rfl rfl (.unseen_bind rfl rfl ?_)
    unfold remarks
    cases e.success with
    | true => exact .pure
    | false => exact tells_countErrors _ _
  | recorder => exact .record rfl
  | other c => exact (h c rfl).onCompletion e

/-- At the end of a call observers are told, and nothing else happens. -/
theorem isTold_of_mem {e : Completion} {observers : List Observer} {r : Remark}
    (h : r ∈ observers.flatMap (remarks e)) : r.isTold = true := by
  obtain ⟨observer, -, h⟩ := List.mem_flatMap.1 h
  cases observer with
  | meters =>
    rw [remarks.eq_1] at h
    split at h
    · cases h
    · obtain ⟨category, -, rfl⟩ := List.mem_map.1 h
      rfl
  | recorder =>
    rw [List.mem_singleton.1 h]
    rfl
  | other => cases h

end Observer

/-! ## Calls -/

theorem Concern.quiet_logging (logger : String) : (Concern.logging logger).Quiet where
  onInvocation i := .of_discreet (.within (.emit _)) ((discreet_logging logger).onInvocation i)
  onCompletion e := .of_discreet (.within (.emit _)) ((discreet_logging logger).onCompletion e)

theorem Operation.unremarkable_report (op : Operation World) (stage : Stage) (concern : String)
    (f : Failure) : (op.report stage concern f).Unremarkable := by
  unfold report
  split
  · exact .pure ()
  · exact .logWith _ _ _ _

/-- Concerns are told one after the other, and the remarks are theirs. -/
theorem Operation.onward_tell (op : Operation World) (stage : Stage)
    {hook : Concern World → Flow World Unit} {cs : List (Concern World)} {more : List (List Remark)}
    (h : List.Forall₂ (fun c rs => (hook c).Tells rs) cs more) {s : Session World}
    (hs : Log.Clean s) : ((op.tell stage hook cs).runFrom s).1 = .ok () ∧
      s.Onward more.flatten ((op.tell stage hook cs).runFrom s).2 := by
  induction h generalizing s with
  | nil => exact ⟨rfl, .refl s⟩
  | @cons c rs r rest hc _ ih =>
    obtain ⟨honward, hf⟩ := hc s
    have hclean := honward.clean hs
    obtain ⟨hok, -, -⟩ := op.attend hclean.writable hf stage c.name
    have hdeal : ((hook c).runFrom s).2.Onward []
        (((hook c).handling (op.report stage c.name)).runFrom s).2 := by
      rw [Flow.runFrom_handling]
      generalize (hook c).runFrom s = out at hf ⊢
      rcases out with ⟨f | ⟨⟩, t⟩
      · simp only [hf f rfl, Bool.false_eq_true, if_false]
        exact op.unremarkable_report stage c.name f t
      · exact .refl t
    have hfirst := honward.then_nil hdeal
    obtain ⟨hrest, hlast⟩ := ih (hfirst.clean hs)
    unfold tell
    rw [Flow.runFrom_bind_ok (Prod.ext hok rfl), List.flatten_cons]
    exact ⟨hrest, hfirst.trans hlast⟩

section Call

variable {observers : List Observer} {c : Component World} {body : Flow World α} {s : Session World}
  {P : Except Failure α → List Remark → Prop} (hc : c.telemetry = observers.map Observer.concern)
  (hquiet : ∀ d, Observer.other d ∈ observers → d.Quiet)

/-- What is remarked at the end of a call: its observers are told, unless it was interrupted. -/
def Component.AtEnd (c : Component World) (observers : List Observer) (name : String)
    (o : Except Failure α) (last : List Remark) : Prop :=
  ∃ references elapsed, last = if Operation.isTold o then
    observers.flatMap (Observer.remarks
      (Operation.completion ⟨c.id, name, references⟩ elapsed o)) else []

/-- A call ends as its body, after its observers have been told of both its ends. Nobody is told of
an interruption. -/
theorem Operation.runFrom_run {op : Operation World} {labels : Labels} {t u v : Session World}
    {o : Except Failure α} (hbegun : (op.tell .invocation (fun d =>
      d.onInvocation ⟨op.component, op.name, labels⟩) op.concerns).runFrom s = (.ok (), t))
    (hbody : body.runFrom t = (o, u))
    (hdone : if isTold o then (op.tell .completion (fun d => d.onCompletion
        (completion ⟨op.component, op.name, labels⟩ u.elapsed o)) op.concerns).runFrom u =
      (.ok (), v) else v = u) : (op.run (.ok labels) body).runFrom s = (o, v) := by
  have hattempt := Flow.runFrom_attempt body t
  rw [hbody] at hattempt
  unfold run
  rw [Flow.runFrom_bind_ok (Flow.runFrom_ofExcept _ s)]
  dsimp only
  rw [Flow.runFrom_bind_ok hbegun, Flow.runFrom_bind_ok hattempt]
  split at hdone
  · rename_i htold
    simp only [htold, if_true]
    rw [Flow.runFrom_bind_ok (Flow.runFrom_ofStep (fun s => (.ok s.elapsed, s)) u),
      Flow.runFrom_bind_ok hdone]
    rfl
  · rename_i htold
    simp only [htold, hdone]
    rfl

include hc in
theorem Component.forall₂_concerns {hook : Concern World → Flow World Unit}
    {told : Observer → List Remark} (hlogging : ∀ logger, (hook (.logging logger)).Tells [])
    (h : ∀ observer ∈ observers, (hook observer.concern).Tells (told observer)) (name : String) :
    List.Forall₂ (fun d rs => (hook d).Tells rs) (c.operation name).concerns
      ([] :: observers.map told) := by
  have hconcerns : (c.operation name).concerns =
      Concern.logging c.logger :: observers.map Observer.concern := by rw [← hc]; rfl
  rw [hconcerns]
  refine .cons (hlogging c.logger) ?_
  rw [List.forall₂_map_left_iff, List.forall₂_map_right_iff, List.forall₂_same]
  exact h

include hc hquiet in
/-- The remarks on a call are those on its body and those at its end, and its outcome is that of its
body. There are none when it cannot be said what the call refers to. -/
theorem Component.remarks_call (name : String) (supplied : List (String × Value))
    (hs : Log.Clean s)
    (hbody : ∀ t, s.Onward [] t → ∃ more, t.Onward more (body.runFrom t).2 ∧
      P (body.runFrom t).1 more) :
    let run := (c.call name supplied body).runFrom s
    ∃ more, s.Onward more run.2 ∧ ((∃ f, run.1 = .error f ∧ more = []) ∨
      ∃ inner last, P run.1 inner ∧ c.AtEnd observers name run.1 last ∧ more = inner ++ last) := by
  have hother : ∀ observer ∈ observers, ∀ d, observer = .other d → d.Quiet := by
    rintro _ ho d rfl
    exact hquiet d ho
  unfold Component.call
  cases references (supplied.map Prod.fst) supplied with
  | error f => exact ⟨[], .refl s, .inl ⟨f, rfl, rfl⟩⟩
  | ok labels =>
    let i : Invocation := ⟨c.id, name, labels⟩
    have hbegin : List.Forall₂ (fun d rs => (Concern.onInvocation d i).Tells rs)
        (c.operation name).concerns ([] :: observers.map fun _ => []) :=
      c.forall₂_concerns hc (fun logger => (Concern.quiet_logging logger).onInvocation i)
        (fun observer ho => Observer.tells_onInvocation (hother observer ho) i) name
    obtain ⟨hbegun, hfirst⟩ := (c.operation name).onward_tell .invocation hbegin hs
    have hnone : ([] :: observers.map fun _ => ([] : List Remark)).flatten = [] := by simp
    rw [hnone] at hfirst
    generalize htold : ((c.operation name).tell .invocation _ _).runFrom s = r at hbegun hfirst
    obtain ⟨_, t⟩ := r
    cases hbegun
    obtain ⟨inner, hinner, hP⟩ := hbody t hfirst
    generalize hrun : body.runFrom t = r at hinner hP
    obtain ⟨o, u⟩ := r
    have hthrough := hfirst.of_nil hinner
    let e : Completion := Operation.completion i u.elapsed o
    have hfinish : List.Forall₂ (fun d rs => (Concern.onCompletion d e).Tells rs)
        (c.operation name).concerns ([] :: observers.map (Observer.remarks e)) :=
      c.forall₂_concerns hc (fun logger => (Concern.quiet_logging logger).onCompletion e)
        (fun observer ho => Observer.tells_onCompletion (hother observer ho) e) name
    by_cases hend : Operation.isTold o = true
    · obtain ⟨hdone, hlast⟩ := (c.operation name).onward_tell .completion hfinish
        (hthrough.clean hs)
      dsimp only
      rw [Operation.runFrom_run htold hrun (by rw [if_pos hend]; exact Prod.ext hdone rfl)]
      refine ⟨_, hthrough.trans hlast, .inr ⟨inner, _, hP, ⟨labels, u.elapsed, ?_⟩, rfl⟩⟩
      rw [if_pos hend, List.flatten_cons, List.nil_append, List.flatMap_def]
    · dsimp only
      rw [Operation.runFrom_run htold hrun (by rw [if_neg hend])]
      refine ⟨inner, hthrough, .inr ⟨inner, [], hP, ⟨labels, u.elapsed, ?_⟩, ?_⟩⟩
      · exact (if_neg hend).symm
      · rw [List.append_nil]

end Call

end Instrument

end Stowage
