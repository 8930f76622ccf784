import Stowage.Container.Vocabulary
import Stowage.Validation.Scalar

/-!
Pipelines: ordered sets of datanodes that jointly hold the copies of containers.

A leader is one of the members, unless the members are not known; `Pipeline.LeaderKnown` says so
and every pipeline carries a proof of it.
-/

namespace Stowage

/-- A leader that is named is a member, if there are members. -/
def Pipeline.LeaderKnown (members : List String) (leader : String) : Prop :=
  members = [] ∨ leader = "" ∨ leader ∈ members

instance (members : List String) (leader : String) :
    Decidable (Pipeline.LeaderKnown members leader) :=
  inferInstanceAs (Decidable (_ ∨ _))

/-- A pipeline. -/
structure Pipeline where
  name : Option String
  members : List String
  leader : String
  state : LifeCycleState
  replicationType : ReplicationType
  replicationFactor : ReplicationFactor
  leader_known : Pipeline.LeaderKnown members leader
  deriving DecidableEq, Repr

namespace Pipeline

/-- The identity under which connections to the pipeline are kept: its name or, when it has none,
its leader. -/
def key (p : Pipeline) : String :=
  match p.name with
  | some name => if name = "" then p.leader else name
  | none => p.leader

/-- The node that requests to the pipeline go to: its leader, else its first member. -/
def target? (p : Pipeline) : Option String :=
  if p.leader ≠ "" then some p.leader
  else match p.members with
    | m :: _ => if m ≠ "" then some m else none
    | [] => none

def fieldNames : List String :=
  ["name", "members", "leader", "state", "replication_type", "replication_factor"]

/-- Put fields that fit together, unless the leader is not a member. -/
def ofFields (name : Option String) (members : List String) (leader : String)
    (state : LifeCycleState) (replicationType : ReplicationType)
    (replicationFactor : ReplicationFactor) : Checked Pipeline :=
  if h : LeaderKnown members leader then
    .fits ⟨name, members, leader, state, replicationType, replicationFactor, h⟩
  else .fail (.refused ("pipeline leader " ++ Text.quoted leader ++ " is not a member"))

/-- Read a pipeline off the entries of a mapping. -/
def read (es : Entries) : Checked Pipeline :=
  let fields : Checked (Checked Pipeline) :=
    ofFields
      <$> Checked.field es "name" (Checked.nullable Checked.text) (some none)
      <*> Checked.field es "members" (Checked.sequence Checked.text) (some [])
      <*> Checked.field es "leader" Checked.text (some "")
      <*> Checked.field es "state" Checked.word (some .allocated)
      <*> Checked.field es "replication_type" Checked.word (some .standAlone)
      <*> Checked.field es "replication_factor" Checked.word (some .one)
      <* Checked.noOthers fieldNames es
  fields.andThen id

instance : Model Pipeline where
  title := "Pipeline"
  read := read
  fields p := [
    ("name", match p.name with | some name => .text name | none => .null),
    ("members", .tuple (p.members.map .text)),
    ("leader", .text p.leader),
    ("state", .ofMember p.state),
    ("replication_type", .ofMember p.replicationType),
    ("replication_factor", .ofMember p.replicationFactor)]

end Pipeline

end Stowage
