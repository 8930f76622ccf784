import Stowage.Validation.Scalar

/-!
The settings of the whole program: logging, observability and the settings of its components.

Components keep their settings in two namespaces, one for services and one for adapters, whose
contents are not looked at here. Keys that belong to no setting are ignored at the top and inside
the groups, but not beside the two namespaces.
-/

namespace Stowage

/-- The levels that logging can be set to. -/
inductive LogLevel where
  | debug | info | warning | error | critical
  deriving DecidableEq, Repr, Inhabited

instance : Vocabulary LogLevel where
  family := "LogLevel"
  all := [.debug, .info, .warning, .error, .critical]
  name := word
  value := word
where
  word : LogLevel → String
    | .debug => "DEBUG"
    | .info => "INFO"
    | .warning => "WARNING"
    | .error => "ERROR"
    | .critical => "CRITICAL"

/-- How the program logs. -/
structure LoggingSettings where
  level : LogLevel := .info
  jsonOutput : Bool := true
  service : String := "stowage"
  environment : String := "dev"
  deriving DecidableEq, Repr, Inhabited

namespace LoggingSettings

/-- Read logging settings off the entries of a mapping. -/
def read (es : Entries) : Checked LoggingSettings :=
  LoggingSettings.mk
    <$> Checked.field es "level" Checked.spelledWord (some .info)
    <*> Checked.field es "json_output" Checked.truth (some true)
    <*> Checked.field es "service" Checked.text (some "stowage")
    <*> Checked.field es "environment" Checked.text (some "dev")

instance : Model LoggingSettings where
  title := "LoggingSettings"
  read := read
  fields s := [
    ("level", .text (Vocabulary.value s.level)),
    ("json_output", .bool s.jsonOutput),
    ("service", .text s.service),
    ("environment", .text s.environment)]

end LoggingSettings

/-- The names under which the public operations are traced and counted. -/
structure TelemetryNames where
  meterName : String := "stowage.public_api"
  tracerName : String := "stowage.public_api"
  callsTotal : String := "stowage_public_api_calls_total"
  durationMs : String := "stowage_public_api_duration_ms"
  errorsTotal : String := "stowage_public_api_errors_total"
  deriving DecidableEq, Repr, Inhabited

namespace TelemetryNames

/-- Read telemetry names off the entries of a mapping. -/
def read (es : Entries) : Checked TelemetryNames :=
  let standard : TelemetryNames := {}
  TelemetryNames.mk
    <$> Checked.field es "meter_name" Checked.text (some standard.meterName)
    <*> Checked.field es "tracer_name" Checked.text (some standard.tracerName)
    <*> Checked.field es "metric_calls_total" Checked.text (some standard.callsTotal)
    <*> Checked.field es "metric_duration_ms" Checked.text (some standard.durationMs)
    <*> Checked.field es "metric_errors_total" Checked.text (some standard.errorsTotal)

instance : Model TelemetryNames where
  title := "PublicApiOtelSettings"
  read := read
  fields s := [
    ("meter_name", .text s.meterName),
    ("tracer_name", .text s.tracerName),
    ("metric_calls_total", .text s.callsTotal),
    ("metric_duration_ms", .text s.durationMs),
    ("metric_errors_total", .text s.errorsTotal)]

end TelemetryNames

/-- What the program shows of itself to observers. -/
structure ObservabilitySettings where
  otel : TelemetryNames := {}
  deriving DecidableEq, Repr, Inhabited

instance : Model ObservabilitySettings where
  title := "ObservabilitySettings"
  read es := ObservabilitySettings.mk <$> Checked.field es "otel" Model.check (some {})
  fields s := [("otel", Model.toValue s.otel)]

/-- The settings of the components of one kind, by name and not yet looked at. -/
structure ComponentNamespace where
  entries : List (String × Value) := []
  deriving Repr, Inhabited

namespace ComponentNamespace

/-- Entries with text keys; other keys are refused. -/
def textEntries : Entries → Checked (List (String × Value))
  | [] => .fits []
  | (k, v) :: r =>
    let key : Checked String := match k.text? with
      | some name => .fits name
      | none => (Checked.fail .invalidKey).within (Checked.place k)
    Checked.both (key.map fun name rest => (name, v) :: rest) (textEntries r)

instance : Model ComponentNamespace where
  title := "ComponentNamespaceSettings"
  read es := (textEntries es).map .mk
  fields s := s.entries

/-- What is set for a component. -/
def get? (s : ComponentNamespace) (name : String) : Option Value := s.entries.lookup name

end ComponentNamespace

/-- The settings of all components. -/
structure ComponentsSettings where
  service : ComponentNamespace := {}
  adapter : ComponentNamespace := {}
  deriving Repr, Inhabited

namespace ComponentsSettings

/-- A key that joins the kind and the name of a component, taken apart. -/
def flatKey? (key : String) : Option (String × String) :=
  let starts (kind : String) : Option (String × String) :=
    (Text.dropStart? (kind.toList ++ ['_']) key.toList).map fun name => (kind, String.ofList name)
  (starts "service").or (starts "adapter")

/-- The first key that names a component without its namespace. -/
def firstFlatKey? : Entries → Option (String × String × String)
  | [] => none
  | (k, _) :: r =>
    match k.text?.bind fun key => (flatKey? key).map (key, ·) with
    | some found => some found
    | none => firstFlatKey? r

/-- Read component settings off the entries of a mapping. -/
def read (es : Entries) : Checked ComponentsSettings :=
  match firstFlatKey? es with
  | some (key, kind, name) =>
    .fail (.refused ("components." ++ key ++ " is invalid; use components." ++ kind ++ "." ++
      name ++ " instead"))
  | none =>
    ComponentsSettings.mk
      <$> Checked.field es "service" Model.check (some {})
      <*> Checked.field es "adapter" Model.check (some {})
      <* Checked.noOthers ["service", "adapter"] es

instance : Model ComponentsSettings where
  title := "ComponentsSettings"
  read := read
  fields s := [("service", Model.toValue s.service), ("adapter", Model.toValue s.adapter)]

end ComponentsSettings

/-- All settings. -/
structure Settings where
  logging : LoggingSettings := {}
  observability : ObservabilitySettings := {}
  components : ComponentsSettings := {}
  deriving Repr, Inhabited

instance : Model Settings where
  title := "StowageSettings"
  read es :=
    Settings.mk
      <$> Checked.field es "logging" Model.check (some {})
      <*> Checked.field es "observability" Model.check (some {})
      <*> Checked.field es "components" Model.check (some {})
  fields s := [
    ("logging", Model.toValue s.logging),
    ("observability", Model.toValue s.observability),
    ("components", Model.toValue s.components)]

end Stowage
