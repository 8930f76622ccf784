import Stowage.Container.Vocabulary
import Stowage.Settings.Basic
import Stowage.Text.Quoted
import Stowage.Validation.Model

/-!
The settings of single components.

A component is known by its kind and its name joined by an underscore, such as
`service_container_operations`. `Settings.component` looks its settings up in the namespace of its
kind and checks them against its model; a component for which nothing is set gets its defaults.
-/

namespace Stowage

namespace Settings

/-- The settings given for a component. -/
def componentValue (settings : Settings) (componentId : String) : Except Failure Value :=
  let unsupported : Except Failure Value :=
    .error (.badValue ("unsupported component id: " ++ Text.quoted componentId))
  match Text.cut '_' componentId.toList with
  | (_, none) => unsupported
  | (kind, some name) =>
    let kind := String.ofList kind
    let name := String.ofList name
    let found? : Option (Option Value) :=
      if kind = "service" then some (settings.components.service.get? name)
      else if kind = "adapter" then some (settings.components.adapter.get? name)
      else none
    match found? with
    | none => unsupported
    | some found =>
      match (found.getD (.mapping [])).dump with
      | .mapping es => .ok (.mapping es)
      | _ => .error (.badType
          ("components." ++ kind ++ "." ++ name ++ " must resolve to an object mapping"))

/-- The settings of a component, checked against its model. -/
def component (settings : Settings) (componentId : String) (α : Type) [Model α] :
    Except Failure α := do
  Model.validate α (← settings.componentValue componentId)

end Settings

/-! ## Container operations -/

/-- The capacity of containers that stands for "not known". -/
def unknownSize : Int := -1

/-- Settings of the container operations service. -/
structure ContainerOperationsSettings where
  containerSizeBytes : Int := unknownSize
  defaultReplicationType : ReplicationType := .standAlone
  defaultReplicationFactor : ReplicationFactor := .one
  deriving DecidableEq, Repr, Inhabited

namespace ContainerOperationsSettings

/-- A capacity: a positive number or the one that stands for "not known". -/
def checkSize (v : Value) : Checked Int :=
  (Checked.integer v).andThen fun i =>
    if i ≠ unknownSize ∧ i ≤ 0 then
      .fail (.refused "container_size_bytes must be positive or -1 when unknown")
    else .fits i

instance : Model ContainerOperationsSettings where
  title := "ContainerOperationsSettings"
  read es :=
    ContainerOperationsSettings.mk
      <$> Checked.field es "container_size_bytes" checkSize (some unknownSize)
      <*> Checked.field es "default_replication_type" Checked.word (some .standAlone)
      <*> Checked.field es "default_replication_factor" Checked.word (some .one)
      <* Checked.noOthers
        ["container_size_bytes", "default_replication_type", "default_replication_factor"] es
  fields s := [
    ("container_size_bytes", .int s.containerSizeBytes),
    ("default_replication_type", .ofMember s.defaultReplicationType),
    ("default_replication_factor", .ofMember s.defaultReplicationFactor)]

/-- The name of the service among the components. -/
def componentId : String := "service_container_operations"

/-- The settings given for the service. -/
def resolve (settings : Settings) : Except Failure ContainerOperationsSettings :=
  settings.component componentId ContainerOperationsSettings

end ContainerOperationsSettings

/-! ## Placement -/

/-- Settings of calls to the placement service. -/
structure PlacementSettings where
  baseUrl : String := "http://scm:9860"
  timeoutSeconds : Double := .ofDecimal false 10 0
  deriving DecidableEq, Repr, Inhabited

namespace PlacementSettings

/-- An endpoint without blanks around it and then without slashes at its end. -/
def normalizeUrl (s : String) : String :=
  String.ofList (Text.trimCharsEnd (· == '/') (Text.trimChars Text.isBlank s.toList))

/-- An endpoint, in normal form and not empty. Bytes that are text are taken as they are. -/
def checkUrl (v : Value) : Checked String :=
  match v.text? with
  | some s =>
    if normalizeUrl s = "" then .fail (.refused "base_url must be non-empty")
    else .fits (normalizeUrl s)
  | none => Checked.text v

instance : Model PlacementSettings where
  title := "PlacementAdapterSettings"
  read es :=
    let standard : PlacementSettings := {}
    PlacementSettings.mk
      <$> Checked.field es "base_url" checkUrl (some standard.baseUrl)
      <*> Checked.field es "timeout_seconds" Checked.positive (some standard.timeoutSeconds)
      <* Checked.noOthers ["base_url", "timeout_seconds"] es
  fields s := [("base_url", .text s.baseUrl), ("timeout_seconds", .float s.timeoutSeconds)]

/-- The name of the placement adapter among the components. -/
def componentId : String := "adapter_placement"

/-- The settings given for the placement adapter. -/
def resolve (settings : Settings) : Except Failure PlacementSettings :=
  settings.component componentId PlacementSettings

end PlacementSettings

/-! ## Datanodes -/

/-- How datanodes are spoken to. -/
inductive Scheme where
  | http | https
  deriving DecidableEq, Repr, Inhabited

instance : Vocabulary Scheme where
  family := "Scheme"
  all := [.http, .https]
  name := word
  value := word
where
  word : Scheme → String
    | .http => "http"
    | .https => "https"

/-- Settings of connections to the leaders of pipelines. -/
structure DatanodeSettings where
  scheme : Scheme := .http
  timeoutSeconds : Double := .ofDecimal false 10 0
  maxIdleHandles : Nat := 8
  deriving DecidableEq, Repr, Inhabited

namespace DatanodeSettings

instance : Model DatanodeSettings where
  title := "DatanodeAdapterSettings"
  read es :=
    let standard : DatanodeSettings := {}
    DatanodeSettings.mk
      <$> Checked.field es "scheme" Checked.spelledWord (some standard.scheme)
      <*> Checked.field es "timeout_seconds" Checked.positive (some standard.timeoutSeconds)
      <*> Checked.field es "max_idle_handles" Checked.natural (some standard.maxIdleHandles)
      <* Checked.noOthers ["scheme", "timeout_seconds", "max_idle_handles"] es
  fields s := [
    ("scheme", .text (Vocabulary.value s.scheme)),
    ("timeout_seconds", .float s.timeoutSeconds),
    ("max_idle_handles", .int s.maxIdleHandles)]

/-- The name of the datanode adapter among the components. -/
def componentId : String := "adapter_datanode"

/-- The settings given for the datanode adapter. -/
def resolve (settings : Settings) : Except Failure DatanodeSettings :=
  settings.component componentId DatanodeSettings

end DatanodeSettings

end Stowage
