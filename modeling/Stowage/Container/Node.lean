import Stowage.Container.Vocabulary
import Stowage.Validation.Scalar

/-!
Datanodes and pools of them, as node queries report them.
-/

namespace Stowage

/-- A datanode. -/
structure NodeInfo where
  address : String
  state : NodeState
  deriving DecidableEq, Repr

namespace NodeInfo

def fieldNames : List String := ["address", "state"]

/-- Read a datanode off the entries of a mapping. -/
def read (es : Entries) : Checked NodeInfo :=
  NodeInfo.mk
    <$> Checked.field es "address" Checked.text
    <*> Checked.field es "state" Checked.word (some .healthy)
    <* Checked.noOthers fieldNames es

instance : Model NodeInfo where
  title := "NodeInfo"
  read := read
  fields n := [("address", .text n.address), ("state", .ofMember n.state)]

end NodeInfo

/-- A pool of datanodes. -/
structure NodePool where
  name : String
  nodes : List NodeInfo
  deriving DecidableEq, Repr

namespace NodePool

def fieldNames : List String := ["name", "nodes"]

/-- Read a pool off the entries of a mapping. -/
def read (es : Entries) : Checked NodePool :=
  NodePool.mk
    <$> Checked.field es "name" Checked.text (some "")
    <*> Checked.field es "nodes" (Checked.sequence Model.check) (some [])
    <* Checked.noOthers fieldNames es

instance : Model NodePool where
  title := "NodePool"
  read := read
  fields p := [("name", .text p.name), ("nodes", .tuple (p.nodes.map Model.toValue))]

end NodePool

end Stowage
