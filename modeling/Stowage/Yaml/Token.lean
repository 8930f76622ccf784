/-!
The tokens of a YAML text.

Structure that is only visible as indentation has tokens of its own: the beginning of a block
sequence or mapping and the end of either.
-/

namespace Stowage.Yaml

/-- A tag as written: a handle, unless the tag is given in full, and the rest. -/
structure TagName where
  handle : Option String
  suffix : String
  deriving DecidableEq, Repr

/-- A directive before a document. -/
inductive Directive where
  | version (major minor : Nat)
  | tag (handle tagStart : String)
  | other
  deriving DecidableEq, Repr

inductive Token where
  | directive (d : Directive)
  | documentStart
  | documentEnd
  | blockSequence
  | blockMapping
  | blockEnd
  | flowSequence
  | flowSequenceEnd
  | flowMapping
  | flowMappingEnd
  | blockEntry
  | flowEntry
  | key
  | value
  | anchor (name : String)
  | alias (name : String)
  | tag (name : TagName)
  | scalar (text : String) (plain : Bool)
  /-- A scalar in quotes in which a code stands for no character; no tokens come after it. -/
  | badCode (code : Nat)
  deriving DecidableEq, Repr

end Stowage.Yaml
