import Stowage.Container.Pipeline

/-!
What is known of a container: the record that the placement service keeps and the snapshot that a
datanode gives of its own copy.
-/

namespace Stowage

/-- The placement service's record of a container. -/
structure ContainerRecord where
  containerId : Nat
  pipeline : Pipeline
  state : LifeCycleState
  allocatedBytes : Nat
  usedBytes : Nat
  numberOfKeys : Nat
  owner : String
  deriving DecidableEq, Repr

namespace ContainerRecord

def fieldNames : List String :=
  ["container_id", "pipeline", "state", "allocated_bytes", "used_bytes", "number_of_keys", "owner"]

/-- Read a record off the entries of a mapping. -/
def read (es : Entries) : Checked ContainerRecord :=
  ContainerRecord.mk
    <$> Checked.field es "container_id" Checked.natural
    <*> Checked.field es "pipeline" Model.check
    <*> Checked.field es "state" Checked.word (some .allocated)
    <*> Checked.field es "allocated_bytes" Checked.natural (some 0)
    <*> Checked.field es "used_bytes" Checked.natural (some 0)
    <*> Checked.field es "number_of_keys" Checked.natural (some 0)
    <*> Checked.field es "owner" Checked.text (some "")
    <* Checked.noOthers fieldNames es

instance : Model ContainerRecord where
  title := "ContainerRecord"
  read := read
  fields r := [
    ("container_id", .int r.containerId),
    ("pipeline", Model.toValue r.pipeline),
    ("state", .ofMember r.state),
    ("allocated_bytes", .int r.allocatedBytes),
    ("used_bytes", .int r.usedBytes),
    ("number_of_keys", .int r.numberOfKeys),
    ("owner", .text r.owner)]

end ContainerRecord

/-- A datanode's snapshot of its copy of a container. -/
structure ContainerData where
  containerId : Nat
  state : LifeCycleState
  sizeBytes : Nat
  bytesUsed : Nat
  keyCount : Nat
  containerPath : String
  dbPath : String
  hash : String
  metadata : Labels
  deriving DecidableEq, Repr

namespace ContainerData

def fieldNames : List String :=
  ["container_id", "state", "size_bytes", "bytes_used", "key_count", "container_path", "db_path",
    "hash", "metadata"]

/-- Read a snapshot off the entries of a mapping. -/
def read (es : Entries) : Checked ContainerData :=
  ContainerData.mk
    <$> Checked.field es "container_id" Checked.natural
    <*> Checked.field es "state" Checked.word (some .opened)
    <*> Checked.field es "size_bytes" Checked.natural (some 0)
    <*> Checked.field es "bytes_used" Checked.natural (some 0)
    <*> Checked.field es "key_count" Checked.natural (some 0)
    <*> Checked.field es "container_path" Checked.text (some "")
    <*> Checked.field es "db_path" Checked.text (some "")
    <*> Checked.field es "hash" Checked.text (some "")
    <*> Checked.field es "metadata" Checked.labels (some {})
    <* Checked.noOthers fieldNames es

instance : Model ContainerData where
  title := "ContainerData"
  read := read
  fields d := [
    ("container_id", .int d.containerId),
    ("state", .ofMember d.state),
    ("size_bytes", .int d.sizeBytes),
    ("bytes_used", .int d.bytesUsed),
    ("key_count", .int d.keyCount),
    ("container_path", .text d.containerPath),
    ("db_path", .text d.dbPath),
    ("hash", .text d.hash),
    ("metadata", .mapping (d.metadata.entries.map fun (k, v) => (.text k, .text v)))]

end ContainerData

end Stowage
