import Mathlib.Data.List.Induction
import Stowage.Proofs.Log.Discreet

/-!
Setting logging up again and again.

Setting logging up takes the handlers away before it looks at the level. So it does what it should as
long as there is a level of the name, or no handler that could be lost (`Call.atomic_iff`); after a
level that there is not, nothing is written until logging is set up once more. `configured_iff` says
that of every sequence of calls.
-/

namespace Stowage.Log

variable {σ : Type} {s : Session σ}

/-! ## One call -/

/-- The level that logging is set to: that of the command line if it names one, else that of the
settings. -/
def chosenLevel (settings : LoggingSettings) (level : Option String) : String :=
  match level with
  | none => Vocabulary.value settings.level
  | some "" => Vocabulary.value settings.level
  | some level => level

/-- The number of a level, in any letter case. -/
def numbered (level : String) : Except Failure Nat :=
  match levelNumber? (Text.upper level) with
  | none => .error (.badValue ("Unknown level: " ++ Text.quoted (Text.upper level)))
  | some number => .ok number

/-- Context with a name bound over it, unless the name is missing or empty. -/
def named (key : String) (name : Option String) (context : Labels) : Labels :=
  match name with
  | none => context
  | some "" => context
  | some name => context.insert key name

/-- Fields that can be bound are. -/
theorem runFrom_bind_fields {entries : List (String × Value)} {context : Labels}
    (h : bound s.context (fields entries) = .ok context) :
    (bind (fields entries)).runFrom s = (.ok (), { s with context }) := by
  unfold bind
  rw [Flow.runFrom_ofStep, bindable_fields]
  simp only [Except.bind, h]

/-- What setting logging up does, and how it ends. -/
theorem runFrom_configure (level : String) (format : Format) (service environment : Option String)
    (s : Session σ) : (configure level format service environment).runFrom s =
      match numbered level with
      | .ok number => (.ok (), { s with
          logging := ⟨number, [⟨number, format⟩]⟩
          context := named "environment" environment (named "service" service s.context) })
      | .error f => (.error f, { s with logging := { s.logging with handlers := [] } }) := by
  have hnamed : ∀ (key : String) (name : Option String) (rest : Entries) (context : Labels),
      bound context ((.text key, match name with
        | none => .null
        | some "" => .null
        | some name => .text name) :: rest) = bound (named key name context) rest := by
    intro key name rest context
    unfold named
    split <;> rfl
  unfold configure numbered
  simp only [Flow.runFrom_bind, Flow.runFrom_ofStep]
  cases levelNumber? (Text.upper level) with
  | none => rfl
  | some number =>
    simp only [Flow.runFrom_bind, Flow.runFrom_ofStep]
    exact runFrom_bind_fields ((hnamed ..).trans (hnamed ..))

/-- What logging is to be set up as. -/
structure Plan where
  level : String
  format : Format
  service : Option String
  environment : Option String

/-- Setting logging up as planned. -/
def Plan.flow (p : Plan) : Flow σ Unit := configure p.level p.format p.service p.environment

/-- The context with the names of a plan. -/
def Plan.context (p : Plan) (context : Labels) : Labels :=
  named "environment" p.environment (named "service" p.service context)

/-- What is promised of setting logging up, from one session to another: it succeeds, and then there
is one handler, of the level and the format that are asked for, and the names are bound; or there is
no such level, and then it fails and leaves handlers, level and context as they were. -/
inductive Plan.Atomic (p : Plan) (s t : Session σ) : Except Failure Unit → Prop
  | done (number : Nat) : numbered p.level = .ok number →
    t.logging = ⟨number, [⟨number, p.format⟩]⟩ → t.context = p.context s.context →
    p.Atomic s t (.ok ())
  | refused (f : Failure) : numbered p.level = .error f → t.logging = s.logging →
    t.context = s.context → p.Atomic s t (.error f)

theorem Plan.runFrom_ok {p : Plan} {number : Nat} (h : numbered p.level = .ok number)
    (s : Session σ) : p.flow.runFrom s = (.ok (), { s with
      logging := ⟨number, [⟨number, p.format⟩]⟩
      context := p.context s.context }) := by
  unfold Plan.flow
  rw [runFrom_configure, h]
  rfl

theorem Plan.runFrom_error {p : Plan} {f : Failure} (h : numbered p.level = .error f)
    (s : Session σ) : p.flow.runFrom s =
      (.error f, { s with logging := { s.logging with handlers := [] } }) := by
  unfold Plan.flow
  rw [runFrom_configure, h]

/-- The promise is kept where there is such a level, or no handler to lose. -/
theorem Plan.atomic_iff (p : Plan) (s : Session σ) :
    p.Atomic s (p.flow.runFrom s).2 (p.flow.runFrom s).1 ↔
      (∃ number, numbered p.level = .ok number) ∨ s.logging.handlers = [] := by
  cases h : numbered p.level with
  | ok number =>
    rw [Plan.runFrom_ok h]
    exact iff_of_true (.done number h rfl rfl) (.inl ⟨number, rfl⟩)
  | error f =>
    rw [Plan.runFrom_error h]
    constructor
    · rintro (_ | ⟨_, -, hlogging, -⟩)
      exact .inr (congrArg Setup.handlers hlogging).symm
    · rintro (⟨_, hnumber⟩ | hnone)
      · cases hnumber
      · refine .refused f h ?_ rfl
        rw [← hnone]

/-! ## Calls -/

/-- A call that binds names, forgets them, or sets logging up. -/
inductive Call where
  | bind (values : Entries)
  | clear (keys : List String)
  | configure (level : String) (jsonOutput : Bool) (service environment : Option String)
  | configureFrom (settings : LoggingSettings) (level : Option String)

namespace Call

/-- What a call does. -/
def flow : Call → Flow σ Unit
  | bind values => Log.bind values
  | clear keys => Log.clear keys
  | configure level jsonOutput service environment =>
    Log.configure level (if jsonOutput then .json else .plain) service environment
  | configureFrom settings level => Log.configureFrom settings level

/-- What a call sets logging up as, if it does. -/
def plan? : Call → Option Plan
  | bind _ => none
  | clear _ => none
  | configure level jsonOutput service environment =>
    some ⟨level, if jsonOutput then .json else .plain, service, environment⟩
  | configureFrom settings level =>
    some ⟨chosenLevel settings level, if settings.jsonOutput then .json else .plain,
      some settings.service, some settings.environment⟩

/-- The call sets logging up. -/
def Succeeds (call : Call) : Prop :=
  ∃ p number, call.plan? = some p ∧ numbered p.level = .ok number

/-- The call asks for a level that there is not. -/
def Fails (call : Call) : Prop := ∃ p f, call.plan? = some p ∧ numbered p.level = .error f

variable {call : Call} {p : Plan}

theorem flow_eq (h : call.plan? = some p) : (call.flow : Flow σ Unit) = p.flow := by
  cases call with
  | bind => cases h
  | clear => cases h
  | configure => cases h; rfl
  | configureFrom => cases h; rfl

theorem logging_of_plan?_none (h : call.plan? = none) (s : Session σ) :
    (call.flow.runFrom s).2.logging = s.logging := by
  cases call with
  | bind values =>
    unfold flow Log.bind
    rw [Flow.runFrom_ofStep]
    split <;> rfl
  | clear => rfl
  | configure => cases h
  | configureFrom => cases h

/-- Unless a call sets logging up, it leaves it as it is, or without handlers if it fails. -/
theorem logging_of_not_succeeds (h : ¬ call.Succeeds) (s : Session σ) :
    ¬ call.Fails ∧ (call.flow.runFrom s).2.logging = s.logging ∨
      call.Fails ∧ (call.flow.runFrom s).2.logging.handlers = [] := by
  cases hp : call.plan? with
  | none =>
    refine .inl ⟨?_, logging_of_plan?_none hp s⟩
    rintro ⟨p, f, hsome, -⟩
    cases hp.symm.trans hsome
  | some p =>
    cases hnumber : numbered p.level with
    | ok number => exact absurd ⟨p, number, hp, hnumber⟩ h
    | error f =>
      refine .inr ⟨⟨p, f, hp, hnumber⟩, ?_⟩
      rw [flow_eq hp, Plan.runFrom_error hnumber]

end Call

/-- The session after some calls, whether or not they fail. -/
def after (calls : List Call) (s : Session σ) : Session σ :=
  calls.foldl (fun s call => (call.flow.runFrom s).2) s

theorem after_concat (calls : List Call) (call : Call) (s : Session σ) :
    after (calls ++ [call]) s = (call.flow.runFrom (after calls s)).2 :=
  List.foldl_append ..

theorem after_append (calls later : List Call) (s : Session σ) :
    after (calls ++ later) s = after later (after calls s) :=
  List.foldl_append ..

/-- What is promised of every call of a sequence. -/
def Atomic (calls : List Call) (s : Session σ) : Prop :=
  ∀ before call later p, calls = before ++ call :: later → call.plan? = some p →
    let u := after before s
    p.Atomic u (call.flow.runFrom u).2 (call.flow.runFrom u).1

theorem Atomic.of_concat {calls : List Call} {call : Call} (h : Atomic (calls ++ [call]) s) :
    Atomic calls s := by
  rintro before earlier later p rfl hp
  exact h before earlier (later ++ [call]) p (by rw [List.append_assoc, List.cons_append]) hp

/-- Handlers come from calls that succeed only. -/
theorem handlers_after {calls : List Call} (hnone : s.logging.handlers = [])
    (h : ∀ call ∈ calls, ¬ call.Succeeds) : (after calls s).logging.handlers = [] := by
  induction calls using List.reverseRecOn with
  | nil => exact hnone
  | append_singleton calls call ih =>
    have hbefore := ih fun c hc => h c (List.mem_append_left _ hc)
    rw [after_concat]
    rcases Call.logging_of_not_succeeds (h call (List.mem_append_right _ List.mem_cons_self))
      (after calls s) with ⟨-, hsame⟩ | ⟨-, hlost⟩
    · rw [hsame]
      exact hbefore
    · exact hlost

/-- Where every promise is kept and there is no handler, there has never been one. -/
theorem Atomic.handlers_before {calls : List Call} (h : Atomic calls s)
    (hnone : (after calls s).logging.handlers = []) :
    s.logging.handlers = [] ∧ ∀ call ∈ calls, ¬ call.Succeeds := by
  induction calls using List.reverseRecOn with
  | nil => exact ⟨hnone, List.forall_mem_nil _⟩
  | append_singleton calls call ih =>
    rw [after_concat] at hnone
    have hkept : (after calls s).logging.handlers = [] ∧ ¬ call.Succeeds := by
      cases hp : call.plan? with
      | none =>
        rw [Call.logging_of_plan?_none hp] at hnone
        refine ⟨hnone, ?_⟩
        rintro ⟨p, number, hsome, -⟩
        cases hp.symm.trans hsome
      | some p =>
        have hatomic := h calls call [] p rfl hp
        rw [Call.flow_eq hp] at hnone hatomic
        rcases (p.atomic_iff _).1 hatomic with ⟨number, hnumber⟩ | hbefore
        · rw [Plan.runFrom_ok hnumber] at hnone
          cases hnone
        · refine ⟨hbefore, ?_⟩
          rintro ⟨q, number, hq, hnumber⟩
          cases hp.symm.trans hq
          rw [Plan.runFrom_ok hnumber] at hnone
          cases hnone
    obtain ⟨hfirst, hearlier⟩ := ih h.of_concat hkept.1
    refine ⟨hfirst, fun c hc => ?_⟩
    rcases List.mem_append.1 hc with hc | hc
    · exact hearlier c hc
    · rw [List.mem_singleton.1 hc]
      exact hkept.2

/-- A sequence of calls keeps every promise if no call asks for a level that there is not once there
have been handlers. -/
theorem atomic_iff (calls : List Call) (s : Session σ) :
    Atomic calls s ↔ ∀ before call later, calls = before ++ call :: later → call.Fails →
      s.logging.handlers = [] ∧ ∀ earlier ∈ before, ¬ earlier.Succeeds := by
  constructor
  · rintro h before call later rfl ⟨p, f, hp, hnumber⟩
    have hbefore : Atomic before s := by
      rintro first earlier more q rfl hq
      refine h first earlier (more ++ call :: later) q ?_ hq
      rw [List.append_assoc, List.cons_append]
    refine hbefore.handlers_before ?_
    have hatomic := h before call later p rfl hp
    rw [Call.flow_eq hp] at hatomic
    rcases (p.atomic_iff _).1 hatomic with ⟨_, hnone⟩ | hnone
    · cases hnumber.symm.trans hnone
    · exact hnone
  · intro h before call later p hcalls hp u
    rw [Call.flow_eq hp]
    refine (p.atomic_iff u).2 ?_
    cases hnumber : numbered p.level with
    | ok number => exact .inl ⟨number, rfl⟩
    | error f =>
      obtain ⟨hnone, hearlier⟩ := h before call later hcalls ⟨p, f, hp, hnumber⟩
      exact .inr (handlers_after hnone hearlier)

/-! ## Records -/

/-- The text that a record is written as, if it is. -/
def Record.text? (r : Record) (time : String) : Format → Option String
  | .json => r.jsonLine? time
  | .plain => r.plainText? time
  | .kept => none

/-- What a record is written as, in which formats. -/
def written (time : String) (s : Session σ) (record : Record) : List (Format × String) :=
  (((emit record).runFrom s).2.journal.drop s.journal.length).filterMap fun
    | .line format r => (r.text? time format).map (format, ·)
    | _ => none

variable {time : String} {record : Record}

theorem written_eq (time : String) (s : Session σ) (record : Record) :
    written time s record = match refusal? s record with
      | some _ => []
      | none => (reached s (stamped s record)).filterMap fun h =>
          ((stamped s record).text? time h.format).map (h.format, ·) := by
  unfold written
  rw [runFrom_emit]
  cases refusal? s record with
  | some f => rw [List.drop_length]; rfl
  | none =>
    rw [List.drop_left, List.filterMap_map]
    rfl

/-- A handler that writes needs a record, so nothing that is bound may keep it from being made. -/
theorem refusal?_eq_none_iff {h : Handler} (hmem : h ∈ reached s (stamped s record))
    (hwrites : h.format ≠ .kept) :
    refusal? s record = none ↔ ∀ e ∈ s.context.entries, partFault? e.1 = none := by
  have hall : ¬ (reached s (stamped s record)).all (·.format = .kept) = true := fun hall =>
    hwrites (of_decide_eq_true (List.all_eq_true.1 hall h hmem))
  unfold refusal?
  rw [if_neg hall]
  exact List.findSome?_eq_none_iff

/-- Nothing is written twice by the same handler. -/
theorem length_written_le (time : String) (s : Session σ) (record : Record) :
    (written time s record).length ≤ s.logging.handlers.length := by
  have hreached : (reached s (stamped s record)).length ≤ s.logging.handlers.length := by
    unfold reached
    split
    · exact Nat.zero_le _
    · exact List.length_filter_le _ _
  rw [written_eq]
  split
  · exact Nat.zero_le _
  · exact Nat.le_trans (List.length_filterMap_le _ _) hreached

theorem reached_one {number : Nat} {format : Format}
    (hlogging : s.logging = ⟨number, [⟨number, format⟩]⟩) (hrecord : number ≤ record.level) :
    reached s record = if record.level = 0 then [] else [⟨number, format⟩] := by
  unfold reached
  rw [hlogging]
  by_cases hzero : record.level = 0
  · rw [if_pos (.inl hzero), if_pos hzero]
  · have hlow : ¬ (record.level = 0 ∨ record.level < number) := by omega
    rw [if_neg hlow, if_neg hzero]
    simp [hrecord]

/-- With one handler a record is written once, if it can be. -/
theorem written_one {number : Nat} {format : Format}
    (hlogging : s.logging = ⟨number, [⟨number, format⟩]⟩) (hformat : format ≠ .kept)
    (hrecord : number ≤ record.level) :
    (∃ text, written time s record = [(format, text)]) ↔
      record.level ≠ 0 ∧ (∀ e ∈ s.context.entries, partFault? e.1 = none) ∧
        ((stamped s record).text? time format).isSome := by
  have hreached : reached s (stamped s record) =
      if record.level = 0 then [] else [⟨number, format⟩] := reached_one hlogging hrecord
  rw [written_eq]
  by_cases hzero : record.level = 0
  · rw [hreached, if_pos hzero]
    refine iff_of_false ?_ fun h => h.1 hzero
    rintro ⟨text, h⟩
    cases hrefusal : refusal? s record <;> simp [hrefusal] at h
  rw [if_neg hzero] at hreached
  have hmem : ⟨number, format⟩ ∈ reached s (stamped s record) := by simp [hreached]
  rw [← refusal?_eq_none_iff hmem hformat, hreached]
  cases hrefusal : refusal? s record with
  | some f =>
    refine iff_of_false ?_ nofun
    rintro ⟨text, h⟩
    cases h
  | none =>
    cases htext : (stamped s record).text? time format with
    | none => simp [htext]
    | some text => exact iff_of_true ⟨text, by simp [htext]⟩ ⟨hzero, rfl, rfl⟩

/-- A message without arguments can be written, unless a name is bound that takes the place of what
it is made from. -/
theorem text?_isSome {r : Record} {format : Format} (hformat : format ≠ .kept)
    (hargs : r.arguments = .none)
    (hfree : ∀ name ∈ ["getMessage", "args", "exc_info", "created"], r.context.get? name = none)
    (time : String) : (r.text? time format).isSome := by
  have hmessage : r.filled? = some (r.part "msg" r.message) := by
    unfold Record.filled?
    rw [hfree "getMessage" (by simp), hfree "args" (by simp), hargs]
    rfl
  have hfailure : r.failure? = some r.failure := by
    unfold Record.failure?
    rw [hfree "exc_info" (by simp)]
  cases format with
  | json =>
    unfold Record.text? Record.jsonLine? Record.fields?
    rw [hmessage, hfailure]
    rfl
  | plain =>
    have hbelow : r.below?.isSome := by
      unfold Record.below?
      rw [hfailure]
      dsimp only
      split <;> rfl
    obtain ⟨below, hbelow⟩ := Option.isSome_iff_exists.1 hbelow
    unfold Record.text? Record.plainText?
    rw [hfree "created" (by simp), hmessage, hbelow]
    rfl
  | kept => exact absurd rfl hformat

/-! ## Sequences of calls -/

theorem Call.format_ne_kept {call : Call} {p : Plan} (h : call.plan? = some p) :
    p.format ≠ .kept := by
  cases call with
  | bind => cases h
  | clear => cases h
  | configure _ jsonOutput =>
    cases h
    cases jsonOutput <;> nofun
  | configureFrom settings =>
    cases h
    change (if settings.jsonOutput then Format.json else .plain) ≠ .kept
    split <;> nofun

/-- After the last call that succeeds, logging stays set up as it has been until a call asks for a
level that there is not; then there is no handler. -/
theorem logging_after {later : List Call} (h : ∀ call ∈ later, ¬ call.Succeeds) (s : Session σ) :
    (∀ call ∈ later, ¬ call.Fails) ∧ (after later s).logging = s.logging ∨
      (∃ call ∈ later, call.Fails) ∧ (after later s).logging.handlers = [] := by
  induction later using List.reverseRecOn with
  | nil => exact .inl ⟨List.forall_mem_nil _, rfl⟩
  | append_singleton later call ih =>
    have hlast := h call (List.mem_append_right _ List.mem_cons_self)
    have hkept := ih fun c hc => h c (List.mem_append_left _ hc)
    rw [after_concat]
    rcases Call.logging_of_not_succeeds hlast (after later s) with ⟨hnot, hsame⟩ | ⟨hfails, hlost⟩
    · rw [hsame]
      rcases hkept with ⟨hnone, hlogging⟩ | ⟨⟨c, hc, hfails⟩, hlost⟩
      · refine .inl ⟨fun c hc => ?_, hlogging⟩
        rcases List.mem_append.1 hc with hc | hc
        · exact hnone c hc
        · exact List.mem_singleton.1 hc ▸ hnot
      · exact .inr ⟨⟨c, List.mem_append_left _ hc, hfails⟩, hlost⟩
    · exact .inr ⟨⟨call, List.mem_append_right _ List.mem_cons_self, hfails⟩, hlost⟩

/-- **When setting logging up again is atomic, and what is written then.** Of any calls, in any
session,

- every one that sets logging up does so as asked for if there is such a level, and else fails and
  leaves no handler;
- every one keeps its promise if and only if none asks for a level that there is not after one that
  has succeeded, or where there have been handlers from the start;
- a record at the level of the last one that has succeeded, or above, is written at most once. It is
  written, in the format of that call, if and only if none has failed since, and the record can be
  written at all: it has a level, no name is bound that holds records together, and its message can
  be filled in. -/
theorem configured_iff (calls : List Call) (s : Session σ) :
    (∀ before call later p, calls = before ++ call :: later → call.plan? = some p →
      let u := after before s
      call.flow.runFrom u = match numbered p.level with
        | .ok number => (.ok (), { u with
            logging := ⟨number, [⟨number, p.format⟩]⟩
            context := p.context u.context })
        | .error f => (.error f, { u with logging := { u.logging with handlers := [] } })) ∧
      (Atomic calls s ↔ ∀ before call later, calls = before ++ call :: later → call.Fails →
        s.logging.handlers = [] ∧ ∀ earlier ∈ before, ¬ earlier.Succeeds) ∧
      ∀ before call later p number, calls = before ++ call :: later → call.plan? = some p →
        numbered p.level = .ok number → (∀ c ∈ later, ¬ c.Succeeds) →
        ∀ time record, number ≤ record.level →
          let t := after calls s
          (written time t record).length ≤ 1 ∧
            ((∃ text, written time t record = [(p.format, text)]) ↔
              (∀ c ∈ later, ¬ c.Fails) ∧ record.level ≠ 0 ∧
                (∀ e ∈ t.context.entries, partFault? e.1 = none) ∧
                ((stamped t record).text? time p.format).isSome) := by
  refine ⟨?_, atomic_iff calls s, ?_⟩
  · intro before call later p _ hp u
    rw [Call.flow_eq hp]
    exact runFrom_configure p.level p.format p.service p.environment u
  intro before call later p number hcalls hp hnumber hlater time record hrecord t
  have ht : t = after later ((call.flow.runFrom (after before s)).2) := by
    change after calls s = _
    rw [hcalls, after_append]
    rfl
  have hset : ((call.flow.runFrom (after before s)).2).logging =
      ⟨number, [⟨number, p.format⟩]⟩ := by
    rw [Call.flow_eq hp, Plan.runFrom_ok hnumber]
  rcases logging_after hlater ((call.flow.runFrom (after before s)).2) with
    ⟨hnone, hsame⟩ | ⟨⟨c, hc, hfails⟩, hlost⟩
  · have hlogging : t.logging = ⟨number, [⟨number, p.format⟩]⟩ := by rw [ht, hsame, hset]
    refine ⟨?_, ?_⟩
    · have hle := length_written_le time t record
      rw [hlogging] at hle
      exact hle
    · rw [written_one hlogging (Call.format_ne_kept hp) hrecord]
      exact (and_iff_right hnone).symm
  · have hempty : written time t record = [] := by
      have hle := length_written_le time t record
      rw [ht, hlost] at hle
      rw [ht]
      exact List.length_eq_zero_iff.1 (Nat.le_zero.1 hle)
    rw [hempty]
    refine ⟨Nat.zero_le 1, iff_of_false ?_ fun h => h.1 c hc hfails⟩
    rintro ⟨text, h⟩
    cases h

theorem numbered_of_levelNumber? {level : String} {number : Nat}
    (h : levelNumber? (Text.upper level) = some number) : numbered level = .ok number := by
  unfold numbered
  rw [h]

/-- Logging is set up, set up again as settings say, and a message is written once. -/
theorem configured_iff_again :
    let s : Session Unit := { world := () }
    let first : Call := .configure "debug" false (some "adapter") (some "")
    let last : Call := .configureFrom { level := .warning } none
    let calls := [first, .bind [(.text "container_id", .text "7")], last]
    let record : Record := { logger := "app", level := 30, message := "pool exhausted" }
    first.Succeeds ∧ last.Succeeds ∧ Atomic calls s ∧
      ∃ text, written "now" (after calls s) record = [(.json, text)] := by
  intro s first last calls record
  have hdebug : numbered "debug" = .ok 10 := numbered_of_levelNumber? (by decide +kernel)
  have hwarning : numbered "WARNING" = .ok 30 := numbered_of_levelNumber? (by decide +kernel)
  have hfirst : first.Succeeds := ⟨_, 10, rfl, hdebug⟩
  have hlast : last.Succeeds := ⟨_, 30, rfl, hwarning⟩
  have hnone : ∀ call ∈ calls, ¬ call.Fails := by
    intro call hcall
    simp only [calls, List.mem_cons, List.not_mem_nil, or_false] at hcall
    rcases hcall with rfl | rfl | rfl
    · rintro ⟨p, f, hp, hf⟩
      cases hp
      cases hdebug.symm.trans hf
    · rintro ⟨p, f, hp, -⟩
      cases hp
    · rintro ⟨p, f, hp, hf⟩
      cases hp
      cases hwarning.symm.trans hf
  have hcontext : (after calls s).context.entries =
      [("service", "stowage"), ("container_id", "7"), ("environment", "dev")] := by
    decide +kernel
  obtain ⟨-, hatomic, hrecords⟩ := configured_iff calls s
  refine ⟨hfirst, hlast, hatomic.2 fun before call later hcalls hfails => ?_, ?_⟩
  · refine absurd hfails (hnone call ?_)
    rw [hcalls]
    exact List.mem_append_right _ List.mem_cons_self
  · have hwritten := (hrecords _ last [] _ 30 (List.append_cons [first, _] last []).symm rfl hwarning
      (List.forall_mem_nil _) "now" record (Nat.le_refl 30)).2
    refine hwritten.2 ⟨List.forall_mem_nil _, by decide, ?_, ?_⟩
    · rw [hcontext]
      decide
    · refine text?_isSome (by decide) rfl (fun name hname => ?_) "now"
      change (after calls s).context.entries.lookup name = none
      rw [hcontext]
      revert name
      decide

/-- After a level that there is not the handlers are lost, and with them an error that is logged. -/
theorem not_atomic_unknown :
    let s : Session Unit := { world := () }
    let known : Call := .configure "INFO" true none none
    let unknown : Call := .configure "bogus" true none none
    let record : Record := { logger := "app", level := 40, message := "lost" }
    known.Succeeds ∧ unknown.Fails ∧ ¬ Atomic [known, unknown] s ∧
      (after [known] s).logging = ⟨20, [⟨20, .json⟩]⟩ ∧
      (after [known, unknown] s).logging = ⟨20, []⟩ ∧
      written "now" (after [known, unknown] s) record = [] := by
  intro s known unknown record
  have hknown : known.Succeeds :=
    ⟨_, 20, rfl, numbered_of_levelNumber? (by decide +kernel)⟩
  have hbogus : levelNumber? (Text.upper "bogus") = none := by decide +kernel
  have hrefused : numbered "bogus" =
      .error (.badValue ("Unknown level: " ++ Text.quoted (Text.upper "bogus"))) := by
    unfold numbered
    rw [hbogus]
  have hunknown : unknown.Fails := ⟨_, _, rfl, hrefused⟩
  have hbefore : (after [known] s).logging = ⟨20, [⟨20, .json⟩]⟩ := by decide +kernel
  have hafter : (after [known, unknown] s).logging = ⟨20, []⟩ := by decide +kernel
  refine ⟨hknown, hunknown, fun h => ?_, hbefore, hafter, ?_⟩
  · have hnever := (atomic_iff _ _).1 h [known] unknown [] rfl hunknown
    exact hnever.2 known List.mem_cons_self hknown
  · have hle := length_written_le "now" (after [known, unknown] s) record
    rw [hafter] at hle
    exact List.length_eq_zero_iff.1 (Nat.le_zero.1 hle)

end Stowage.Log
