import Stowage.Container.Node
import Stowage.Container.Record
import Stowage.Container.Stage
import Stowage.Settings.Component

/-!
All models by name, for callers that learn the model only when they run.
-/

namespace Stowage

/-- A model that is known by its name only: how a value becomes an instance, and whether instances
change. -/
structure Catalog.Entry where
  name : String
  validate : Value → Except Failure Value
  mutability : Model.Mutability

namespace Catalog

/-- The entry of a model. -/
def entry (α : Type) [Model α] (mutability : Model.Mutability) : Entry :=
  ⟨Model.title α, fun v => (Model.validate α v).map Model.toValue, mutability⟩

/-- Every model of the library. -/
def entries : List Entry := [
  entry Pipeline .frozen,
  entry ContainerRecord .frozen,
  entry ContainerData .frozen,
  entry StageEvent .frozen,
  entry NodeInfo .frozen,
  entry NodePool .frozen,
  entry LoggingSettings .declared,
  entry TelemetryNames .declared,
  entry ObservabilitySettings .declared,
  entry ComponentNamespace .anything,
  entry ComponentsSettings .declared,
  entry Settings .declared,
  entry ContainerOperationsSettings .frozen,
  entry PlacementSettings .frozen,
  entry DatanodeSettings .frozen]

/-- The model of a name. -/
def find? (name : String) : Option Entry := entries.find? fun e => e.name == name

end Catalog

/-- The word of a vocabulary, from the name of the vocabulary and the member's value. -/
def Catalog.member? (family value : String) : Option Value :=
  let look (α : Type) [Vocabulary α] : Option Value :=
    if Vocabulary.family α == family then
      (Vocabulary.ofValue? value : Option α).map Value.ofMember
    else none
  (((((((look LifeCycleState).or (look ReplicationType)).or (look ReplicationFactor)).or
    (look NodeState)).or (look QueryScope)).or (look StageSubject)).or (look StageOperation)).or
    ((look StagePhase).or (look ErrorCategory))

end Stowage
