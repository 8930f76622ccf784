/-!
Closed vocabularies: finite types whose members are written as words. Those that describe
containers, pipelines and nodes are given here.

A member has a name, by which the program's own output refers to it, and a value, the word that
goes over the wire. For most vocabularies the two are the same.
-/

namespace Stowage

/-- A finite type of words. `all` lists the members in the order in which messages name them. -/
class Vocabulary (α : Type) where
  family : String
  all : List α
  name : α → String
  value : α → String

namespace Vocabulary

variable {α : Type} [Vocabulary α]

/-- The member that a word stands for. -/
def ofValue? (word : String) : Option α :=
  (all : List α).find? fun a => value a == word

/-- The words of a vocabulary, in order. -/
def values (α : Type) [Vocabulary α] : List String :=
  (all : List α).map value

end Vocabulary

/-! ## Containers, pipelines and nodes -/

/-- Where a container or a pipeline stands in its life. -/
inductive LifeCycleState where
  | allocated | creating | opened | closing | closed | deleting | deleted
  deriving DecidableEq, Repr, Inhabited

instance : Vocabulary LifeCycleState where
  family := "LifeCycleState"
  all := [.allocated, .creating, .opened, .closing, .closed, .deleting, .deleted]
  name := word
  value := word
where
  word : LifeCycleState → String
    | .allocated => "ALLOCATED"
    | .creating => "CREATING"
    | .opened => "OPEN"
    | .closing => "CLOSING"
    | .closed => "CLOSED"
    | .deleting => "DELETING"
    | .deleted => "DELETED"

/-- How the members of a pipeline replicate. -/
inductive ReplicationType where
  | standAlone | ratis | chained
  deriving DecidableEq, Repr, Inhabited

instance : Vocabulary ReplicationType where
  family := "ReplicationType"
  all := [.standAlone, .ratis, .chained]
  name := word
  value := word
where
  word : ReplicationType → String
    | .standAlone => "STAND_ALONE"
    | .ratis => "RATIS"
    | .chained => "CHAINED"

/-- How many copies a pipeline keeps. -/
inductive ReplicationFactor where
  | one | three
  deriving DecidableEq, Repr, Inhabited

instance : Vocabulary ReplicationFactor where
  family := "ReplicationFactor"
  all := [.one, .three]
  name := word
  value := word
where
  word : ReplicationFactor → String
    | .one => "ONE"
    | .three => "THREE"

/-- The number of copies. -/
def ReplicationFactor.replicas : ReplicationFactor → Nat
  | .one => 1
  | .three => 3

/-- What a node query can ask for. -/
inductive NodeState where
  | healthy | stale | dead | decommissioning | decommissioned | raftMember | freeNode | invalid
  deriving DecidableEq, Repr, Inhabited

instance : Vocabulary NodeState where
  family := "NodeState"
  all := [.healthy, .stale, .dead, .decommissioning, .decommissioned, .raftMember, .freeNode,
    .invalid]
  name := word
  value := word
where
  word : NodeState → String
    | .healthy => "HEALTHY"
    | .stale => "STALE"
    | .dead => "DEAD"
    | .decommissioning => "DECOMMISSIONING"
    | .decommissioned => "DECOMMISSIONED"
    | .raftMember => "RAFT_MEMBER"
    | .freeNode => "FREE_NODE"
    | .invalid => "INVALID"

/-- How far a node query reaches. -/
inductive QueryScope where
  | cluster | pool
  deriving DecidableEq, Repr, Inhabited

instance : Vocabulary QueryScope where
  family := "QueryScope"
  all := [.cluster, .pool]
  name := word
  value := word
where
  word : QueryScope → String
    | .cluster => "CLUSTER"
    | .pool => "POOL"

/-- What a stage change is about. -/
inductive StageSubject where
  | container | pipeline
  deriving DecidableEq, Repr, Inhabited

instance : Vocabulary StageSubject where
  family := "StageSubject"
  all := [.container, .pipeline]
  name
    | .container => "CONTAINER"
    | .pipeline => "PIPELINE"
  value
    | .container => "container"
    | .pipeline => "pipeline"

/-- Which operation a stage change brackets. -/
inductive StageOperation where
  | create | close | delete
  deriving DecidableEq, Repr, Inhabited

instance : Vocabulary StageOperation where
  family := "StageOperation"
  all := [.create, .close, .delete]
  name
    | .create => "CREATE"
    | .close => "CLOSE"
    | .delete => "DELETE"
  value
    | .create => "create"
    | .close => "close"
    | .delete => "delete"

/-- The end of an operation that a stage change reports. -/
inductive StagePhase where
  | begun | complete
  deriving DecidableEq, Repr, Inhabited

instance : Vocabulary StagePhase where
  family := "StagePhase"
  all := [.begun, .complete]
  name
    | .begun => "BEGIN"
    | .complete => "COMPLETE"
  value
    | .begun => "begin"
    | .complete => "complete"

end Stowage
