import Stowage.Failure.Basic
import Stowage.Value.Text

/-!
Laying one configuration over another.

Mappings are merged entry by entry, at every depth; anything else that the upper configuration
holds replaces what the lower one holds at the same path. Keys become text on the way.
-/

namespace Stowage.Config

/-- Entries with text keys; of two entries whose keys have the same text the later counts. -/
def textKeys (es : Entries) : Entries :=
  es.foldl (fun found (k, v) => found.put (.text k.display) v) []

/-- The entries of a value that is a mapping. -/
def entriesOf : Option Value → Entries
  | some (.mapping es) => es
  | _ => []

mutual

/-- What a path holds once `higher` is laid upon what it held before. -/
def overlay (before : Option Value) (higher : Value) : Value :=
  match higher with
  | .mapping es => .mapping (overlayEntries (textKeys (entriesOf before)) es)
  | v => v

/-- Entries laid one by one upon a mapping. -/
def overlayEntries (base : Entries) (higher : List (Value × Value)) : Entries :=
  match higher with
  | [] => base
  | (k, v) :: r =>
    overlayEntries (base.put (.text k.display) (overlay (base.get? k.display) v)) r

end

/-- The configuration `higher` laid upon the configuration `base`. -/
def merge (base higher : Entries) : Entries := overlayEntries (textKeys base) higher

mutual

/-- Whether a mapping has a key, at any depth reached through mappings, whose text would have to
hold an integer that is too long to be written. -/
def hasOverlongKey : Value → Bool
  | .mapping es => anyOverlongKey es
  | _ => false

def anyOverlongKey : List (Value × Value) → Bool
  | [] => false
  | (k, v) :: r => k.isOverlong || hasOverlongKey v || anyOverlongKey r

end

/-- The configuration `higher` laid upon the configuration `base`, unless a key has no text. -/
def merge? (base higher : Entries) : Except Failure Entries :=
  if anyOverlongKey higher then .error .overlongInteger else .ok (merge base higher)

end Stowage.Config
