import Stowage.Instrument.Basic
import Stowage.Log.Logger

/-!
Concerns: observers of public operations.

A concern is told of the beginning and of the end of each call. Three kinds are defined here: one
logs, one traces, one counts and measures. How spans and measurements leave the program is up to the
tracer and the meters; the silent ones drop them.
-/

namespace Stowage.Instrument

variable {σ : Type}

/-- An observer of calls. Either of its hooks may fail. -/
structure Concern (σ : Type) where
  name : String
  onInvocation : Invocation → Flow σ Unit
  onCompletion : Completion → Flow σ Unit

/-! ## Logging -/

/-- The fields of an invocation. What a call refers to comes last and may replace the others. -/
def invocationFields (i : Invocation) : Entries :=
  let own := Log.fields [
    ("event", .text "public_api_invocation"),
    ("component_id", .text i.component),
    ("api_name", .text i.operation)]
  i.references.entries.foldl (fun es (k, v) => es.put (.text k) (.text v)) own

/-- The fields of a completion. -/
def completionFields (c : Completion) : Entries :=
  let errors : Value := match c.errors with
    | [] => .null
    | errors => .list (errors.map .text)
  (Log.fields [
    ("event", .text "public_api_completion"),
    ("success", .bool c.success),
    ("duration_ms", .float c.durationMs),
    ("errors", errors)]).foldl (fun es (k, v) => es.put k v) (invocationFields c.invocation)

/-- The concern that logs. -/
def Concern.logging (logger : String) : Concern σ where
  name := "PublicApiLoggingConcern"
  onInvocation i :=
    Log.within (invocationFields i) (Log.log logger Log.debug "Public API invocation")
  onCompletion c :=
    Log.within (completionFields c)
      (Log.log logger (if c.success then Log.info else Log.warning) "Public API completion")

/-! ## Tracing -/

/-- Where spans go. -/
structure Tracer (σ : Type) where
  start : String → Flow σ Span
  annotate : Span → String → Value → Flow σ Unit
  markFailed : Span → String → Flow σ Unit
  finish : Span → Flow σ Unit

/-- A span with the next number. -/
def openSpan (name : String) : Flow σ Span :=
  Flow.ofStep fun s => (.ok ⟨s.spanCount, name⟩, { s with spanCount := s.spanCount + 1 })

/-- The tracer that drops what it is given. -/
def Tracer.silent : Tracer σ where
  start := openSpan
  annotate _ _ _ := pure ()
  markFailed _ _ := pure ()
  finish _ := pure ()

/-- The tracer that writes into the journal. -/
def Tracer.journal : Tracer σ where
  start name := do
    let span ← openSpan name
    Flow.record (.spanStarted span)
    pure span
  annotate span key value := Flow.record (.spanAttribute span key value)
  markFailed span reason := Flow.record (.spanFailed span reason)
  finish span := Flow.record (.spanEnded span)

/-- The spans that a tracing concern has open, with one more. -/
def pushSpan (concern : Nat) (span : Span) : Flow σ Unit :=
  Flow.ofStep fun s =>
    (.ok (), { s with spans := fun n => if n = concern then span :: s.spans n else s.spans n })

/-- The innermost span that a tracing concern has open, which is open no longer. -/
def popSpan? (concern : Nat) : Flow σ (Option Span) :=
  Flow.ofStep fun s =>
    (.ok (s.spans concern).head?,
      { s with spans := fun n => if n = concern then (s.spans n).tail else s.spans n })

/-- Attributes of a span, one after the other. -/
def annotateAll (tracer : Tracer σ) (span : Span) : List (String × Value) → Flow σ Unit
  | [] => pure ()
  | (key, value) :: r => do
    tracer.annotate span key value
    annotateAll tracer span r

/-- The concern that opens a span for each call; `number` tells tracing concerns apart. A span
counts as open only once all its attributes are set. -/
def Concern.tracing (number : Nat) (tracer : Tracer σ) : Concern σ where
  name := "PublicApiTracingConcern"
  onInvocation i := do
    let span ← tracer.start ("public_api." ++ i.component ++ "." ++ i.operation)
    annotateAll tracer span ([
      ("component_id", .text i.component), ("api_name", .text i.operation)] ++
      i.references.entries.map fun (k, v) => ("reference." ++ k, .text v))
    pushSpan number span
  onCompletion c := do
    match ← popSpan? number with
    | none => pure ()
    | some span =>
      annotateAll tracer span [
        ("success", .bool c.success), ("duration_ms", .float c.durationMs),
        ("outcome", .text c.outcome)]
      if !c.success then tracer.markFailed span (Text.join "; " (c.errors.take 3))
      tracer.finish span

/-! ## Measuring -/

/-- Where measurements go. -/
structure Meters (σ : Type) where
  add : Measure → Labels → Flow σ Unit

/-- The meters that drop what they are given. -/
def Meters.silent : Meters σ := ⟨fun _ _ => pure ()⟩

/-- The meters that write into the journal. -/
def Meters.journal : Meters σ :=
  ⟨fun measure attributes => Flow.record (.measured measure attributes)⟩

/-- One error counted for each category. -/
def countErrors (meters : Meters σ) (i : Invocation) : List String → Flow σ Unit
  | [] => pure ()
  | category :: r => do
    meters.add .errors (Labels.ofList [
      ("component_id", i.component), ("api_name", i.operation), ("error_category", category)])
    countErrors meters i r

/-- The concern that counts calls and errors and measures durations. -/
def Concern.metrics (meters : Meters σ) : Concern σ where
  name := "PublicApiMetricsConcern"
  onInvocation _ := pure ()
  onCompletion c := do
    let i := c.invocation
    let attributes := Labels.ofList [
      ("component_id", i.component), ("api_name", i.operation), ("outcome", c.outcome)]
    meters.add .calls attributes
    meters.add (.duration c.durationMs) attributes
    if !c.success then
      countErrors meters i (if c.categories.isEmpty then ["unspecified"] else c.categories)

/-! ## Telemetry -/

/-- What is announced to the telemetry of the platform before anything is measured. -/
inductive Registration where
  | meter (name : String)
  | tracer (name : String)
  | counter (name unit description : String)
  | histogram (name unit description : String)
  deriving DecidableEq, Repr

/-- What is announced under a set of names. -/
def registrations (names : TelemetryNames) : List Registration := [
  .meter names.meterName,
  .tracer names.tracerName,
  .counter names.callsTotal "1" "Count of public API invocations by method and outcome.",
  .histogram names.durationMs "ms" "Public API invocation latency in milliseconds.",
  .counter names.errorsTotal "1" "Count of public API failures by error category."]

/-- The concerns that pass everything on to the telemetry of the platform. -/
def telemetry (number : Nat) (tracer : Tracer σ) (meters : Meters σ) : List (Concern σ) :=
  [.tracing number tracer, .metrics meters]

end Stowage.Instrument
