import Stowage.Config.Environment
import Stowage.Config.Merge
import Stowage.Settings.Basic
import Stowage.Validation.Model
import Stowage.Yaml.Document

/-!
The configuration cascade: a file, over it the environment, over that the command line.

What no source sets keeps the defaults of the models.
-/

namespace Stowage.Config

/-- What there is at the path of a configuration file: nothing, a directory, text to be read, or the
value it holds. -/
inductive File where
  | absent
  | directory
  | text (yaml : String)
  | value (v : Value)

/-- Where configuration comes from: the file and how messages name it, the variables, what the
command line gives, and the start of the names of variables that matter. -/
structure Sources where
  file : File := .absent
  path : String := "~/.config/stowage/stowage.yaml"
  environment : List (String × String) := []
  arguments : Entries := []
  start : String := standardPrefix

/-- The value that a file holds. -/
def File.read (path : String) : File → Except Failure Value
  | .absent => .ok .null
  | .directory => .error (.fault .isADirectoryError (some (.text
      ("[Errno 21] Is a directory: " ++ Text.quoted path))))
  | .text yaml => Yaml.read yaml
  | .value v => .ok v

/-- The mapping that a file holds; an empty file counts as an empty mapping. -/
def ofFile (path : String) (file : File) : Except Failure Entries := do
  match ← file.read path with
  | .null => .ok []
  | .mapping es => merge? [] es
  | _ => .error (.badValue ("Config file must contain a top-level mapping: " ++ path))

/-- The merged mapping of all sources. -/
def load (sources : Sources) : Except Failure Entries := do
  let file ← ofFile sources.path sources.file
  let environment ← ofVariables sources.start sources.environment
  merge? (← merge? file environment) sources.arguments

/-- The settings that all sources give. -/
def loadSettings (sources : Sources) : Except Failure Settings := do
  Model.validate Settings (.mapping (← load sources))

end Stowage.Config
