import Stowage.Pool.Clients
import Stowage.Proofs.Service.Watched

/-!
Operations on containers are fail-stop.

An operation follows a script of calls up to the first one that fails and ends in that failure;
nothing is called after it but the release of the handle, which is the last call exactly when a
handle was acquired. The scripts are `createScript`, `closeScript`, `deleteScript` and `readScript`,
and `ContainerOperation.Language` puts acquisition and release around them.
-/

namespace Stowage.Service

variable {σ η α β : Type}

/-! ## Scripts -/

/-- Calls to be made in order. The operation then ends by itself, in a failure if one is named. -/
structure Script (η : Type) where
  steps : List (Step η)
  ending : Option Failure := none

/-- The failure that an outcome is. -/
def failure? : Except Failure α → Option Failure
  | .ok _ => none
  | .error f => some f

/-- Calls that follow the steps of a script up to the first one that fails. `last` is the failure
that this comes to. -/
inductive FailStop (ending : Option Failure) :
    List (Step η) → List (Exchange η) → (last : Option Failure) → Prop
  | finished : FailStop ending [] [] ending
  | failed (step : Step η) (rest : List (Step η)) (f : Failure) :
    FailStop ending (step :: rest) [⟨step, .error f⟩] (some f)
  | answered {step : Step η} (answer : step.Result) {rest : List (Step η)}
    {calls : List (Exchange η)} {last : Option Failure} :
    FailStop ending rest calls last →
    FailStop ending (step :: rest) (⟨step, .ok answer⟩ :: calls) last

/-- A list of calls follows a script up to the first call that fails. -/
def Script.Follows (script : Script η) : List (Exchange η) → Option Failure → Prop :=
  FailStop script.ending script.steps

/-- A call put before a script. -/
theorem Script.Follows.after {script : Script η} {calls : List (Exchange η)}
    {last : Option Failure} (h : script.Follows calls last) (step : Step η)
    (answer : step.Result) :
    Script.Follows ⟨step :: script.steps, script.ending⟩ (⟨step, .ok answer⟩ :: calls) last :=
  .answered answer h

/-- The report of a stage of an operation on a container. -/
def stageEvent (containerId : Int) (operation : StageOperation) (phase : StagePhase) : StageEvent :=
  ⟨.container, Decimal.integerText containerId, operation, phase⟩

/-- A call between the reports of its beginning and of its end. Nothing is called for an identifier
that cannot be written in a report. -/
def bracketed (containerId : Int) (operation : StageOperation) (step : Step η) : Script η :=
  if Decimal.isOverlong containerId then ⟨[], some .overlongInteger⟩
  else ⟨[.notify (stageEvent containerId operation .begun), step,
    .notify (stageEvent containerId operation .complete)], none⟩

/-- What is called to create an allocated container. A pipeline that is only allocated is made real
first, for which it needs a name; any other has to be open. -/
def createScript (record : ContainerRecord) (handle : η) (trace : String) : Script η :=
  let pipeline := record.pipeline
  let creation := bracketed record.containerId .create
    (.createData handle record.containerId trace)
  match pipeline.state with
  | .opened => creation
  | .allocated => match pipeline.name with
    | none | some "" => ⟨[], some (.precondition .missingPipelineName
        "pipeline name cannot be empty when the client materializes a pipeline")⟩
    | some name =>
      ⟨.createPipeline handle name pipeline.members :: creation.steps, creation.ending⟩
  | state => ⟨[], some (.precondition .illegalPipelineState
      ("unexpected state " ++ Vocabulary.value state ++ " for pipeline " ++ pipeline.key ++
        ", expected ALLOCATED or OPEN"))⟩

/-- What is called to close a container. -/
def closeScript (containerId : Int) (handle : η) (trace : String) : Script η :=
  bracketed containerId .close (.closeData handle containerId trace)

/-- What is called to delete a container. -/
def deleteScript (containerId : Int) (force : Bool) (handle : η) (trace : String) : Script η :=
  ⟨[.deleteData handle containerId force trace, .deleteRecord containerId], none⟩

/-- What is called to read a container. -/
def readScript (containerId : Int) (handle : η) (trace : String) : Script η :=
  ⟨[.readData handle containerId trace], none⟩

/-! ## The language of an operation -/

/-- The calls of an operation on a handle: either the handle is not acquired, or a script is followed
with it and it is released at last. -/
inductive Held (pipeline : Pipeline) (containerId : Int) (script : η → String → Script η) :
    List (Exchange η) → Option Failure → Prop
  | refused (f : Failure) :
    Held pipeline containerId script [⟨.acquire pipeline containerId, .error f⟩]
      (some (outOfScope f))
  | held (handle : η) (trace : String) {calls : List (Exchange η)} {last : Option Failure} :
    (script handle trace).Follows calls last →
    Held pipeline containerId script
      (⟨.acquire pipeline containerId, .ok handle⟩ :: calls ++ [⟨.release handle, .ok ()⟩]) last

/-- The calls of a creation: an allocation, and what follows for the record that it gives. -/
inductive Created (type : ReplicationType) (factor : ReplicationFactor) (owner : String) :
    List (Exchange η) → Option Failure → Prop
  | refused (f : Failure) : Created type factor owner [⟨.allocate type factor owner, .error f⟩]
      (some f)
  | allocated (record : ContainerRecord) {calls : List (Exchange η)} {last : Option Failure} :
    Held record.pipeline record.containerId (createScript record) calls last →
    Created type factor owner (⟨.allocate type factor owner, .ok record⟩ :: calls) last

/-- The calls of an operation on a container that the caller names. Nothing is called for an
identifier that cannot be written. -/
inductive Named (pipeline : Pipeline) (containerId : Int) (script : η → String → Script η) :
    List (Exchange η) → Option Failure → Prop
  | overlong : Decimal.isOverlong containerId = true →
    Named pipeline containerId script [] (some .overlongInteger)
  | writable {calls : List (Exchange η)} {last : Option Failure} :
    Decimal.isOverlong containerId = false → Held pipeline containerId script calls last →
    Named pipeline containerId script calls last

/-- An operation on a container, with its arguments. -/
inductive ContainerOperation where
  | create (owner : String) (type : Option ReplicationType) (factor : Option ReplicationFactor)
  | close (containerId : Int) (pipeline : Pipeline)
  | delete (containerId : Int) (pipeline : Pipeline) (force : Option Bool)
  | read (containerId : Int) (pipeline : Pipeline)

namespace ContainerOperation

/-- Carry an operation out, and drop its result. -/
def run (s : Service σ η) : ContainerOperation → Flow σ Unit
  | create owner type factor => do let _ ← s.create owner type factor
  | close containerId pipeline => s.close containerId pipeline
  | delete containerId pipeline force => s.delete containerId pipeline force
  | read containerId pipeline => do let _ ← s.read containerId pipeline

/-- The calls that an operation may come to, and the failure that it then ends in. -/
def Language (settings : ContainerOperationsSettings) :
    ContainerOperation → List (Exchange η) → Option Failure → Prop
  | create owner type factor =>
    Created (type.getD settings.defaultReplicationType)
      (factor.getD settings.defaultReplicationFactor) owner
  | close containerId pipeline => Named pipeline containerId (closeScript containerId)
  | delete containerId pipeline force =>
    Named pipeline containerId (deleteScript containerId (force.getD false))
  | read containerId pipeline => Named pipeline containerId (readScript containerId)

end ContainerOperation

/-! ## Steps -/

variable {parts : Collaborators σ η}

/-- A call that is followed by more: either it fails, or its answer is passed on. -/
theorem adds_step (h : parts.Dependable) (step : Step η)
    {next : step.Result → Flow (Watched σ η) α}
    {Q : Except Failure α → List (Exchange η) → Prop}
    (hfailed : ∀ f, Q (.error f) [⟨step, .error f⟩])
    (hanswered : ∀ a, (calls σ η).Adds (next a) fun o more => Q o (⟨step, .ok a⟩ :: more)) :
    (calls σ η).Adds (parts.watch step >>= next) Q := by
  refine .bind (adds_watch h step) ?_ ?_
  · rintro f more rfl
    exact hfailed f
  · rintro a more rfl
    exact hanswered a

/-- The bookkeeping of a scope adds what its step adds. -/
theorem adds_bookkeeping {ε : Type} {g : Gauge σ ε} {step : Flow σ α}
    {P : Except Failure α → List ε → Prop} (h : g.Adds step P) :
    g.Adds (bookkeeping step) fun o more => (∃ a, o = .ok a ∧ P (.ok a) more) ∨
      ∃ f, o = .error (outOfScope f) ∧ P (.error f) more := by
  intro s hs
  unfold bookkeeping
  rw [Flow.runFrom_bind_ok (Flow.runFrom_attempt step s)]
  obtain ⟨ht, more, hl, hP⟩ := h s hs
  generalize step.runFrom s = r at ht hl hP ⊢
  rcases r with ⟨f | a, t⟩
  · exact ⟨ht, more, hl, .inr ⟨f, rfl, hP⟩⟩
  · exact ⟨ht, more, hl, .inl ⟨a, rfl, hP⟩⟩

/-- A body that follows a script on its handle makes the calls of an operation on a handle. -/
theorem adds_holding {s : Service σ η} (h : s.parts.Dependable) {pipeline : Pipeline}
    {containerId : Int} (script : η → String → Script η) {body : η → Flow (Watched σ η) α}
    (hbody : ∀ handle, (calls σ η).Adds (body handle) fun o more => ∃ trace,
      (script handle trace).Follows more (failure? o)) :
    (calls σ η).Adds (s.watched.holding pipeline containerId body) fun o more =>
      Held pipeline containerId script more (failure? o) := by
  refine .bind (adds_bookkeeping (adds_watch h (.acquire pipeline containerId))) ?_ ?_
  · rintro f more (⟨a, ha, -⟩ | ⟨f', hf, rfl⟩)
    · cases ha
    · cases hf
      exact .refused f'
  · rintro handle more (⟨a, ha, rfl⟩ | ⟨f, hf, -⟩)
    · cases ha
      refine .andFinally (hbody handle) (adds_bookkeeping (adds_watch_release h handle)) ?_ ?_
      · rintro o more rest ⟨trace, hcalls⟩ (⟨-, -, -, rfl⟩ | ⟨f, hf, -⟩)
        · exact .held handle trace hcalls
        · cases hf
      · -- a handle can always be released
        rintro o f more rest - (⟨a, ha, -⟩ | ⟨f', -, hf, -⟩)
        · cases ha
        · cases hf
    · cases hf

theorem notify_of_fits {s : Service σ η} {containerId : Int}
    (h : Decimal.isOverlong containerId = false) (operation : StageOperation)
    (phase : StagePhase) :
    s.notify containerId operation phase =
      s.parts.notify (stageEvent containerId operation phase) := by
  unfold notify
  rw [h]
  rfl

theorem notify_of_overlong {s : Service σ η} {containerId : Int}
    (h : Decimal.isOverlong containerId = true) (operation : StageOperation)
    (phase : StagePhase) :
    s.notify containerId operation phase = throw .overlongInteger := by
  unfold notify
  rw [h]
  rfl

theorem bindable_pipelineFields {containerId : Int}
    (h : Decimal.isOverlong containerId = false) (pipeline : Pipeline) :
    Log.Bindable (pipelineFields containerId pipeline) := by
  intro e he
  simp only [pipelineFields, List.mem_cons, List.not_mem_nil, or_false] at he
  rcases he with rfl | rfl | rfl
  · exact ⟨rfl, h⟩
  · exact ⟨rfl, rfl⟩
  · exact ⟨rfl, rfl⟩

/-- A log line at the end adds nothing, and the operation succeeds. -/
theorem adds_logWith {logger message : String} {level : Nat} {entries : List (String × Value)}
    (he : Log.Bindable entries) :
    (calls σ η).Adds (Log.logWith logger level message entries) fun o more =>
      o = .ok () ∧ more = [] :=
  Gauge.Adds.mono (.logWith he) fun _ _ h => ⟨h.2 trivial, h.1⟩

/-! ## Bodies -/

variable {s : Service σ η}

/-- A call between two reports follows its script. -/
theorem adds_bracketed (h : s.parts.Dependable) (containerId : Int) (operation : StageOperation)
    (act : String → Step η) {last : Flow (Watched σ η) Unit}
    (hlast : Decimal.isOverlong containerId = false →
      (calls σ η).Adds last fun o more => o = .ok () ∧ more = []) :
    (calls σ η).Adds (do
      s.watched.notify containerId operation .begun
      let trace ← s.watched.parts.newTrace
      let _ ← s.parts.watch (act trace)
      s.watched.notify containerId operation .complete
      last) fun o more => ∃ trace,
      (bracketed containerId operation (act trace)).Follows more (failure? o) := by
  unfold bracketed Script.Follows
  cases hid : Decimal.isOverlong containerId with
  | true =>
    rw [notify_of_overlong hid]
    exact .bind_throw ⟨"", .finished⟩
  | false =>
    simp only [notify_of_fits hid]
    refine adds_step h (.notify (stageEvent containerId operation .begun))
      (fun f => ⟨"", .failed _ _ f⟩) fun _ => ?_
    refine .bind (adds_newTrace h) ?_ ?_
    · rintro f more ⟨⟨trace, ht⟩, -⟩
      cases ht
    · rintro trace more ⟨-, rfl⟩
      refine Gauge.Adds.mono (P := fun o more => FailStop none
        [act trace, .notify (stageEvent containerId operation .complete)] more (failure? o)) ?_
        fun o more hf => ⟨trace, .answered _ hf⟩
      refine adds_step h (act trace) (fun f => .failed _ _ f) fun answer => ?_
      refine .mono (P := fun o more => FailStop none
        [.notify (stageEvent containerId operation .complete)] more (failure? o)) ?_
        fun o more hf => .answered answer hf
      refine adds_step h (.notify (stageEvent containerId operation .complete))
        (fun f => .failed _ _ f) fun _ => ?_
      refine .mono (hlast hid) ?_
      rintro o more ⟨rfl, rfl⟩
      exact .answered _ .finished

/-- What stops by itself has called nothing. -/
theorem adds_stop {script : String → Script η} {f : Failure}
    (hscript : ∀ trace, script trace = ⟨[], some f⟩) (next : α → Flow (Watched σ η) β) :
    (calls σ η).Adds (throw f >>= next) fun o more => ∃ trace,
      (script trace).Follows more (failure? o) := by
  refine .bind_throw ⟨"", ?_⟩
  rw [hscript]
  exact .finished

theorem adds_materialize (h : s.parts.Dependable) (handle : η) {pipeline : Pipeline}
    {name : String} (hname : pipeline.name = some name) (hne : name ≠ "") :
    (calls σ η).Adds (s.watched.materialize handle pipeline) fun o more =>
      more = [⟨.createPipeline handle name pipeline.members, o⟩] := by
  have hreal : s.watched.materialize handle pipeline = (do
      s.parts.watch (.createPipeline handle name pipeline.members)
      Log.logWith logger Log.debug "pipeline materialized" [
        ("pipeline", .text name), ("leader", .text pipeline.leader),
        ("members", .text (Text.join "," pipeline.members))]) := by
    unfold materialize
    rw [hname]
    split
    · rename_i heq
      cases heq
    · rename_i heq
      cases heq
      exact absurd rfl hne
    · rename_i heq
      cases heq
      rfl
  rw [hreal]
  refine adds_step h (.createPipeline handle name pipeline.members) (fun f => rfl) fun _ => ?_
  refine .mono (adds_logWith fun e he => ?_) ?_
  · simp only [List.mem_cons, List.not_mem_nil, or_false] at he
    rcases he with rfl | rfl | rfl <;> exact ⟨rfl, rfl⟩
  · rintro o more ⟨rfl, rfl⟩
    rfl

/-- Making a pipeline real is the first thing called for a new container. -/
theorem adds_prepare (h : s.parts.Dependable) (record : ContainerRecord) (handle : η)
    {creation : Flow (Watched σ η) α}
    (hcreation : (calls σ η).Adds creation fun o more => ∃ trace,
      (bracketed record.containerId .create
        (.createData handle record.containerId trace)).Follows more (failure? o)) :
    (calls σ η).Adds (do
      s.watched.prepare handle record.pipeline
      creation) fun o more => ∃ trace,
      (createScript record handle trace).Follows more (failure? o) := by
  unfold prepare
  cases hstate : record.pipeline.state with
  | allocated =>
    cases hname : record.pipeline.name with
    | none =>
      unfold materialize
      rw [hname]
      exact adds_stop (by simp [createScript, hstate, hname]) _
    | some name =>
      by_cases hempty : name = ""
      · subst hempty
        unfold materialize
        rw [hname]
        exact adds_stop (by simp [createScript, hstate, hname]) _
      · have hscript : ∀ trace, createScript record handle trace =
            ⟨.createPipeline handle name record.pipeline.members ::
              (bracketed record.containerId .create
                (.createData handle record.containerId trace)).steps,
              (bracketed record.containerId .create
                (.createData handle record.containerId trace)).ending⟩ := by
          intro trace
          simp [createScript, hstate, hname]
        refine .bind (adds_materialize h handle hname hempty) ?_ ?_
        · rintro f more rfl
          refine ⟨"", ?_⟩
          rw [hscript]
          exact .failed _ _ f
        · rintro a more rfl
          refine .mono hcreation ?_
          rintro o more ⟨trace, hc⟩
          refine ⟨trace, ?_⟩
          rw [hscript]
          exact hc.after (.createPipeline handle name record.pipeline.members) a
  | opened =>
    have hscript : ∀ trace, createScript record handle trace =
        bracketed record.containerId .create
          (.createData handle record.containerId trace) := by
      intro trace
      simp [createScript, hstate]
    simp only [hscript]
    exact hcreation
  | _ => exact adds_stop (by simp [createScript, hstate]) _

/-! ## Operations -/

/-- A call on a container that the caller names, whose body follows a script on a handle. -/
theorem adds_named (h : s.parts.Dependable) (ht : ∀ c ∈ s.telemetry, c.Discreet) (name : String)
    {containerId : Int} {rest : List (String × Value)}
    (hrest : ∀ e ∈ rest, e.2.isOverlong = false) {pipeline : Pipeline}
    {script : η → String → Script η} {body : η → Flow (Watched σ η) α}
    (hbody : Decimal.isOverlong containerId = false → ∀ handle,
      (calls σ η).Adds (body handle) fun o more => ∃ trace,
        (script handle trace).Follows more (failure? o)) :
    (calls σ η).Adds (s.watched.component.call name (("container_id", .int containerId) :: rest)
        (s.watched.holding pipeline containerId body)) fun o more =>
      Named pipeline containerId script more (failure? o) :=
  .call_int (fun hid => adds_holding h script (hbody hid)) (discreet_telemetry_watched ht) name _
    hrest .overlong fun hid _ _ hp => .writable hid (hp.of_writable trivial)

theorem adds_close (h : s.parts.Dependable) (ht : ∀ c ∈ s.telemetry, c.Discreet)
    (containerId : Int) (pipeline : Pipeline) :
    (calls σ η).Adds (s.watched.close containerId pipeline) fun o more =>
      Named pipeline containerId (closeScript containerId) more (failure? o) :=
  adds_named h ht _ (List.forall_mem_nil _) fun hid handle =>
    adds_bracketed h containerId .close (.closeData handle containerId)
      fun _ => adds_logWith (bindable_pipelineFields hid pipeline)

theorem adds_delete (h : s.parts.Dependable) (ht : ∀ c ∈ s.telemetry, c.Discreet)
    (containerId : Int) (pipeline : Pipeline) (force : Option Bool) :
    (calls σ η).Adds (s.watched.delete containerId pipeline force) fun o more =>
      Named pipeline containerId (deleteScript containerId (force.getD false)) more
        (failure? o) := by
  refine adds_named h ht _ (fun e he => ?_) fun hid handle => ?_
  · obtain ⟨b, -, rfl⟩ : ∃ b, force = some b ∧ ("force", Value.bool b) = e := by
      simpa using he
    rfl
  · refine .bind (adds_newTrace h) ?_ ?_
    · rintro f more ⟨⟨trace, ht⟩, -⟩
      cases ht
    · rintro trace more ⟨-, rfl⟩
      refine .mono (P := fun o more => (deleteScript containerId (force.getD false) handle
        trace).Follows more (failure? o)) ?_ fun o more hf => ⟨trace, hf⟩
      refine adds_step h (.deleteData handle containerId (force.getD false) trace)
        (fun f => .failed _ _ f) fun answer => ?_
      refine .mono (P := fun o more => FailStop none [.deleteRecord containerId] more
        (failure? o)) ?_ fun o more hf => .answered answer hf
      refine adds_step h (.deleteRecord containerId) (fun f => .failed _ _ f) fun _ => ?_
      refine .mono (adds_logWith fun e he => ?_) ?_
      · rcases List.mem_append.1 he with he | he
        · exact bindable_pipelineFields hid pipeline e he
        · rw [List.mem_singleton.1 he]
          exact ⟨rfl, rfl⟩
      · rintro o more ⟨rfl, rfl⟩
        exact .answered _ .finished

theorem adds_read (h : s.parts.Dependable) (ht : ∀ c ∈ s.telemetry, c.Discreet)
    (containerId : Int) (pipeline : Pipeline) :
    (calls σ η).Adds (s.watched.read containerId pipeline) fun o more =>
      Named pipeline containerId (readScript containerId) more (failure? o) := by
  refine adds_named h ht _ (List.forall_mem_nil _) fun hid handle => ?_
  refine .bind (adds_newTrace h) ?_ ?_
  · rintro f more ⟨⟨trace, ht⟩, -⟩
    cases ht
  · rintro trace more ⟨-, rfl⟩
    refine .mono (P := fun o more => (readScript containerId handle trace).Follows more
      (failure? o)) ?_ fun o more hf => ⟨trace, hf⟩
    refine adds_step h (.readData handle containerId trace) (fun f => .failed _ _ f) fun data => ?_
    refine .bind (adds_logWith (bindable_pipelineFields hid pipeline)) ?_ ?_
    · rintro f more ⟨hf, -⟩
      cases hf
    · rintro _ more ⟨-, rfl⟩
      exact .pure (.answered data .finished)

theorem adds_create (h : s.parts.Dependable) (ht : ∀ c ∈ s.telemetry, c.Discreet)
    (owner : String) (type : Option ReplicationType) (factor : Option ReplicationFactor) :
    (calls σ η).Adds (s.watched.create owner type factor) fun o more =>
      Created (type.getD s.settings.defaultReplicationType)
        (factor.getD s.settings.defaultReplicationFactor) owner more (failure? o) := by
  refine .mono (.call (P := fun o more => Created (type.getD s.settings.defaultReplicationType)
    (factor.getD s.settings.defaultReplicationFactor) owner more (failure? o)) ?_
    (discreet_telemetry_watched ht) _ fun e he => ?_) fun o more hp => hp.of_writable trivial
  · refine adds_step h (.allocate _ _ owner) (fun f => .refused f) fun record => ?_
    refine .bind (adds_holding h (createScript record) fun handle => ?_) ?_ ?_
    · exact adds_prepare h record handle
        (adds_bracketed h record.containerId .create (.createData handle record.containerId)
          fun hid => adds_logWith (bindable_pipelineFields hid record.pipeline))
    · exact fun f more hc => .allocated record hc
    · intro _ more hc
      refine .pure ?_
      rw [List.append_nil]
      exact .allocated record hc
  · rw [List.mem_singleton.1 he]
    rfl

/-- An operation adds calls of its language, and its outcome is the one that they come to. -/
theorem ContainerOperation.adds_run (h : s.parts.Dependable) (ht : ∀ c ∈ s.telemetry, c.Discreet)
    (op : ContainerOperation) :
    (calls σ η).Adds (op.run s.watched) fun o more => op.Language s.settings more (failure? o) := by
  cases op with
  | create owner type factor =>
    refine .bind (adds_create h ht owner type factor) (fun _ _ hc => hc) fun _ more hc => .pure ?_
    rw [List.append_nil]
    exact hc
  | close containerId pipeline => exact adds_close h ht containerId pipeline
  | delete containerId pipeline force => exact adds_delete h ht containerId pipeline force
  | read containerId pipeline =>
    refine .bind (adds_read h ht containerId pipeline) (fun _ _ hc => hc) fun _ more hc => .pure ?_
    rw [List.append_nil]
    exact hc

/-- An operation of a watched service mirrors that of the service itself. -/
theorem ContainerOperation.mirrors_run (s : Service σ η) (op : ContainerOperation) :
    Flow.Mirrors Watched.slot (op.run s.watched) (op.run s) := by
  cases op with
  | create owner type factor =>
    exact .bind (s.mirrors_create owner type factor) fun _ => .pure ()
  | close containerId pipeline => exact s.mirrors_close containerId pipeline
  | delete containerId pipeline force => exact s.mirrors_delete containerId pipeline force
  | read containerId pipeline =>
    exact .bind (s.mirrors_read containerId pipeline) fun _ => .pure ()

/-! ## Answers that are laid down -/

/-- Collaborators of which it is laid down what they answer to every call. -/
def laidDown (answer : (step : Step η) → Except Failure step.Result) (trace : String) :
    Collaborators Unit η where
  allocate type factor owner := .ofExcept (answer (.allocate type factor owner))
  notify event := .ofExcept (answer (.notify event))
  deleteRecord id := .ofExcept (answer (.deleteRecord id))
  getRecord id := .ofExcept (answer (.getRecord id))
  listRecords start count := .ofExcept (answer (.listRecords start count))
  queryNodes states scope pool := .ofExcept (answer (.queryNodes states scope pool))
  replicate type factor nodes := .ofExcept (answer (.replicate type factor nodes))
  closePlacement := .ofExcept (answer .closePlacement)
  acquire pipeline id := .ofExcept (answer (.acquire pipeline id))
  release handle := .ofExcept (answer (.release handle))
  closePool := .ofExcept (answer .closePool)
  createPipeline handle name members := .ofExcept (answer (.createPipeline handle name members))
  createData handle id trace := .ofExcept (answer (.createData handle id trace))
  closeData handle id trace := .ofExcept (answer (.closeData handle id trace))
  readData handle id trace := .ofExcept (answer (.readData handle id trace))
  deleteData handle id force trace := .ofExcept (answer (.deleteData handle id force trace))
  newTrace := .ofExcept (.ok trace)

theorem perform_laidDown (answer : (step : Step η) → Except Failure step.Result) (trace : String)
    (step : Step η) : (laidDown answer trace).perform step = .ofExcept (answer step) := by
  cases step <;> rfl

/-- Every answer may be laid down but for releases. -/
theorem dependable_laidDown {answer : (step : Step η) → Except Failure step.Result}
    (h : ∀ handle, answer (.release handle) = .ok ()) (trace : String) :
    (laidDown answer trace).Dependable where
  release handle _ := h handle
  newTrace _ := ⟨trace, rfl⟩
  writable step s hs := by
    rw [perform_laidDown]
    exact hs
  writable_newTrace _ hs := hs

/-- A pool that gives handles out, a placement service that hears reports, and nothing else that
answers. -/
def deserted : (step : Step Unit) → Except Failure step.Result
  | .acquire .. => .ok ()
  | .release _ => .ok ()
  | .notify _ => .ok ()
  | .allocate .. => .error Pool.noNodes
  | .deleteRecord _ => .error Pool.noNodes
  | .getRecord _ => .error Pool.noNodes
  | .listRecords .. => .error Pool.noNodes
  | .queryNodes .. => .error Pool.noNodes
  | .replicate .. => .error Pool.noNodes
  | .closePlacement => .error Pool.noNodes
  | .closePool => .error Pool.noNodes
  | .createPipeline .. => .error Pool.noNodes
  | .createData .. => .error Pool.noNodes
  | .closeData .. => .error Pool.noNodes
  | .readData .. => .error Pool.noNodes
  | .deleteData .. => .error Pool.noNodes

/-! ## All operations -/

/-- **Operations are fail-stop.** Whatever the collaborators answer and wherever they fail, what an
operation calls is its script up to the first call that fails, with the release of the handle at
last if it was acquired; and the operation ends in the failure that this comes to. That the calls are
written down is not seen: the operation does and gives what it does without. -/
theorem calls_failStop (s : Service σ η) (h : s.parts.Dependable)
    (ht : ∀ c ∈ s.telemetry, c.Discreet) (op : ContainerOperation)
    (x : Session (Watched σ η)) (hx : Log.Writable x) :
    let run := (op.run s.watched).runFrom x
    (op.run s).runFrom (x.view Watched.slot) = (run.1, run.2.view Watched.slot) ∧
      ∃ log, run.2.world.calls = x.world.calls ++ log ∧
        op.Language s.settings log (failure? run.1) :=
  ⟨op.mirrors_run s x, (op.adds_run h ht x hx).2⟩

/-- A container that is closed on a datanode which does not answer. -/
theorem calls_failStop_deserted :
    let s : Service Unit Unit :=
      ⟨{}, laidDown deserted "t", Instrument.telemetry 0 .silent .silent⟩
    let pipeline : Pipeline := ⟨none, ["n1"], "n1", .opened, .standAlone, .one, by decide⟩
    let op : ContainerOperation := .close 7 pipeline
    let x : Session (Watched Unit Unit) := {
      context := Labels.ofList [("service", "stowage")]
      logging := ⟨Log.debug, [⟨Log.debug, .json⟩]⟩
      world := ⟨(), []⟩ }
    let run := (op.run s.watched).runFrom x
    s.parts.Dependable ∧ (∀ c ∈ s.telemetry, c.Discreet) ∧ Log.Writable x ∧
      (op.run s).runFrom (x.view Watched.slot) = (run.1, run.2.view Watched.slot) ∧
      ∃ log, run.2.world.calls = x.world.calls ++ log ∧
        op.Language s.settings log (failure? run.1) := by
  intro s pipeline op x run
  have h : s.parts.Dependable := dependable_laidDown (fun _ => rfl) "t"
  have ht : ∀ c ∈ s.telemetry, c.Discreet := Instrument.discreet_telemetry_silent 0
  have hx : Log.Writable x := by
    refine .inr fun e he => ?_
    rw [List.mem_singleton.1 he]
    rfl
  have hcalls := calls_failStop s h ht op x hx
  clear_value x op s
  exact ⟨h, ht, hx, hcalls⟩

end Stowage.Service
