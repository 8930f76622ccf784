import Stowage.Container.Vocabulary

/-!
Commands: what the program can be asked to do with containers, and how it ends.
-/

namespace Stowage

/-- What to do. -/
inductive Command where
  /-- Allocate a container and create it; what is not given is taken from the settings. -/
  | create (owner : String) (type : Option ReplicationType) (factor : Option ReplicationFactor)
  | close (containerId : Nat)
  | delete (containerId : Nat) (force : Bool)
  /-- The record of a container together with a datanode's snapshot of it. -/
  | info (containerId : Nat)
  | list (start count : Int)
  | size (containerId : Nat)
  deriving DecidableEq, Repr

/-- A whole command line. -/
structure CommandLine where
  configPath : Option String := none
  asJson : Bool := false
  logLevel : Option String := none
  command : Command
  deriving DecidableEq, Repr

/-- How the process ends. -/
inductive ExitStatus where
  | success
  /-- A failure that no command tells of. -/
  | crash
  /-- The command line is refused. -/
  | usage
  /-- The command cannot be carried out as things are: bad settings, bad arguments, a container or
  a pipeline that is not ready for it. -/
  | precondition
  /-- The placement service or a datanode failed. -/
  | storage
  deriving DecidableEq, Repr

/-- The number that the process ends with. -/
def ExitStatus.code : ExitStatus → Nat
  | success => 0
  | crash => 1
  | usage => 2
  | precondition => 3
  | storage => 4

end Stowage
