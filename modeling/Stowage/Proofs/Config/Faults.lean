import Stowage.Config.Load
import Stowage.Proofs.Log.Configured
import Stowage.Proofs.Yaml.Faults
import Stowage.Settings.Component

/-!
How settings fail to be had.

Whatever is wrong with a configuration is a failure for a value, with two exceptions: a file that
cannot be read fails in its own way (`Config.loadSettings_error_iff`), and a component for which
something other than a mapping is set is a failure for a type (`ComponentNamespace.Unmapped`). All
these failures have a text.
-/

namespace Stowage

variable {f : Failure}

/-- Whatever a model refuses is a failure for a value, with a text. -/
theorem Model.validate_error {α : Type} [Model α] {v : Value}
    (h : Model.validate α v = .error f) : f.isA .valueError = true ∧ f.isOverlong = false := by
  unfold Model.validate at h
  split at h
  · cases h
  · cases h
    exact ⟨rfl, rfl⟩

namespace Config

variable {base es : Entries}

/-! ## Sources -/

/-- A file is not understood, or the platform fails to read it. -/
theorem misread_file {path : String} {file : File} (h : file.read path = .error f) :
    Yaml.Misread f := by
  cases file with
  | absent => cases h
  | directory =>
    cases h
    exact .fault rfl
  | text yaml => exact Yaml.reads_read yaml f h
  | value v => cases h

theorem merge?_error (h : merge? base es = .error f) : f = .overlongInteger := by
  unfold merge? at h
  split at h
  · cases h
    rfl
  · cases h

/-- Only a number of too many digits makes the text of a variable unacceptable. -/
theorem coerce_error {raw : String} (h : coerce raw = .error f) :
    ∃ digits, f = .overlongLiteral digits := by
  unfold coerce at h
  dsimp only at h
  split at h
  · cases h
  · split at h
    · split at h
      · cases h
      · cases h
      · cases h
        exact ⟨_, rfl⟩
    · repeat' split at h
      all_goals cases h

theorem setVariable_error {start : String} {entry : String × String}
    (h : setVariable start es entry = .error f) : ∃ digits, f = .overlongLiteral digits := by
  unfold setVariable at h
  split at h
  · cases h
  · cases hcoerce : coerce entry.2 with
    | ok v =>
      rw [hcoerce] at h
      cases h
    | error reason =>
      rw [hcoerce] at h
      cases h
      exact coerce_error hcoerce

theorem ofVariables_error {start : String} {environment : List (String × String)}
    (h : ofVariables start environment = .error f) : ∃ digits, f = .overlongLiteral digits :=
  foldlM_error (fun _ _ _ hstep => setVariable_error hstep) h

/-- A file from which nothing is had cannot be read, or what it holds is not acceptable. -/
theorem ofFile_error {path : String} {file : File} (h : ofFile path file = .error f) :
    file.read path = .error f ∨ f.isA .valueError = true ∧ f.isOverlong = false := by
  rcases bind_eq_error.1 h with h | ⟨v, -, h⟩
  · exact .inl h
  · right
    split at h
    · cases h
    · rw [merge?_error h]
      exact ⟨rfl, rfl⟩
    · cases h
      exact ⟨rfl, rfl⟩

variable {sources : Sources}

theorem load_error (h : load sources = .error f) :
    sources.file.read sources.path = .error f ∨
      f.isA .valueError = true ∧ f.isOverlong = false := by
  rcases bind_eq_error.1 h with h | ⟨file, -, h⟩
  · exact ofFile_error h
  · right
    rcases bind_eq_error.1 h with h | ⟨environment, -, h⟩
    · obtain ⟨digits, rfl⟩ := ofVariables_error h
      exact ⟨rfl, rfl⟩
    · rcases bind_eq_error.1 h with h | ⟨both, -, h⟩
      · rw [merge?_error h]
        exact ⟨rfl, rfl⟩
      · rw [merge?_error h]
        exact ⟨rfl, rfl⟩

theorem loadSettings_error (h : loadSettings sources = .error f) :
    sources.file.read sources.path = .error f ∨
      f.isA .valueError = true ∧ f.isOverlong = false := by
  rcases bind_eq_error.1 h with h | ⟨es, -, h⟩
  · exact load_error h
  · exact .inr (Model.validate_error h)

theorem isOverlong_loadSettings (h : loadSettings sources = .error f) : f.isOverlong = false := by
  rcases loadSettings_error h with h | h
  · exact (misread_file h).isOverlong
  · exact h.2

/-- A file that cannot be read is what ends the loading of settings. -/
theorem loadSettings_of_unread (h : sources.file.read sources.path = .error f) :
    loadSettings sources = .error f := by
  have hfile : ofFile sources.path sources.file = .error f := bind_eq_error.2 (.inl h)
  have hload : load sources = .error f := bind_eq_error.2 (.inl hfile)
  exact bind_eq_error.2 (.inl hload)

/-- **Settings fail to be loaded for a value, or because the file cannot be read.** -/
theorem loadSettings_error_iff (hf : f.isA .valueError = false) :
    loadSettings sources = .error f ↔ sources.file.read sources.path = .error f := by
  refine ⟨fun h => ?_, loadSettings_of_unread⟩
  rcases loadSettings_error h with h | h
  · exact h
  · rw [hf] at h
    cases h.1

end Config

/-! ## Components -/

namespace ComponentNamespace

/-- Something that is no mapping is set for a component. -/
def Unmapped (s : ComponentNamespace) (name : String) : Prop :=
  ∃ v, s.get? name = some v ∧ ∀ es, v.dump ≠ .mapping es

/-- The failure of a component for which no mapping is set. -/
def unmapped (kind name : String) : Failure :=
  .badType ("components." ++ kind ++ "." ++ name ++ " must resolve to an object mapping")

/-- What is set for a component of a kind, as its model is given it. -/
def resolved (s : ComponentNamespace) (kind name : String) : Except Failure Value :=
  match ((s.get? name).getD (.mapping [])).dump with
  | .mapping es => .ok (.mapping es)
  | _ => .error (unmapped kind name)

theorem resolved_error_iff {s : ComponentNamespace} {kind name : String} :
    s.resolved kind name = .error f ↔ s.Unmapped name ∧ f = unmapped kind name := by
  unfold resolved Unmapped
  constructor
  · intro h
    split at h
    · cases h
    · rename_i hdump
      cases h
      refine ⟨?_, rfl⟩
      cases hset : s.get? name with
      | none =>
        rw [hset] at hdump
        exact absurd rfl (hdump [])
      | some v =>
        rw [hset] at hdump
        exact ⟨v, rfl, fun es heq => hdump es heq⟩
  · rintro ⟨⟨v, hv, hdump⟩, rfl⟩
    rw [hv]
    simp only [Option.getD_some]

end ComponentNamespace

namespace Settings

variable {settings : Settings} {α : Type} [Model α]

/-- The name of a component is cut behind its kind. -/
theorem cut_componentId {kind : String} (h : '_' ∉ kind.toList) (name : String) :
    Text.cut '_' (kind ++ "_" ++ name).toList = (kind.toList, some name.toList) := by
  have hcut : ∀ cs : List Char, '_' ∉ cs →
      Text.cut '_' (cs ++ '_' :: name.toList) = (cs, some name.toList) := by
    intro cs hcs
    induction cs with
    | nil => rfl
    | cons c r ih =>
      rw [List.mem_cons, not_or] at hcs
      rw [List.cons_append, Text.cut, if_neg fun heq => hcs.1 heq.symm, ih hcs.2]
  have hlist : (kind ++ "_" ++ name).toList = kind.toList ++ '_' :: name.toList := by
    rw [String.toList_append, String.toList_append, List.append_assoc]
    rfl
  rw [hlist, hcut kind.toList h]

theorem componentValue_service (name : String) :
    settings.componentValue ("service" ++ "_" ++ name) =
      settings.components.service.resolved "service" name := by
  unfold componentValue
  rw [cut_componentId (by decide) name]
  simp only [String.ofList_toList, if_true]
  rfl

theorem componentValue_adapter (name : String) :
    settings.componentValue ("adapter" ++ "_" ++ name) =
      settings.components.adapter.resolved "adapter" name := by
  have hkind : ("adapter" : String) ≠ "service" := by decide
  unfold componentValue
  rw [cut_componentId (by decide) name]
  simp only [String.ofList_toList, if_neg hkind, if_true]
  rfl

/-- The settings of a component are not acceptable to its model, or there are none to be checked. -/
theorem component_error {id : String} {s : ComponentNamespace} {kind name : String}
    (hvalue : settings.componentValue id = s.resolved kind name)
    (hf : f.isA .valueError = false) : settings.component id α = .error f ↔
      s.Unmapped name ∧ f = ComponentNamespace.unmapped kind name := by
  unfold component
  rw [hvalue, ← ComponentNamespace.resolved_error_iff, bind_eq_error]
  refine or_iff_left ?_
  rintro ⟨v, -, h⟩
  rw [(Model.validate_error h).1] at hf
  cases hf

/-- Whatever is wrong with the settings of a component has a text. -/
theorem isOverlong_component {id : String} {s : ComponentNamespace} {kind name : String}
    (hvalue : settings.componentValue id = s.resolved kind name)
    (h : settings.component id α = .error f) : f.isOverlong = false := by
  unfold component at h
  rw [hvalue] at h
  rcases bind_eq_error.1 h with h | ⟨v, -, h⟩
  · rw [(ComponentNamespace.resolved_error_iff.1 h).2]
    rfl
  · exact (Model.validate_error h).2

end Settings

/-! ### The components of a process -/

section Components

variable {settings : Settings}

theorem ContainerOperationsSettings.componentValue_eq : settings.componentValue componentId =
    settings.components.service.resolved "service" "container_operations" := by
  rw [show componentId = "service" ++ "_" ++ "container_operations" by decide]
  exact Settings.componentValue_service _

theorem ContainerOperationsSettings.resolve_error_iff (hf : f.isA .valueError = false) :
    resolve settings = .error f ↔
      settings.components.service.Unmapped "container_operations" ∧
        f = ComponentNamespace.unmapped "service" "container_operations" :=
  Settings.component_error componentValue_eq hf

theorem ContainerOperationsSettings.isOverlong_resolve (h : resolve settings = .error f) :
    f.isOverlong = false := Settings.isOverlong_component componentValue_eq h

theorem PlacementSettings.componentValue_eq : settings.componentValue componentId =
    settings.components.adapter.resolved "adapter" "placement" := by
  rw [show componentId = "adapter" ++ "_" ++ "placement" by decide]
  exact Settings.componentValue_adapter _

theorem PlacementSettings.resolve_error_iff (hf : f.isA .valueError = false) :
    resolve settings = .error f ↔ settings.components.adapter.Unmapped "placement" ∧
      f = ComponentNamespace.unmapped "adapter" "placement" :=
  Settings.component_error componentValue_eq hf

theorem PlacementSettings.isOverlong_resolve (h : resolve settings = .error f) :
    f.isOverlong = false := Settings.isOverlong_component componentValue_eq h

theorem DatanodeSettings.componentValue_eq : settings.componentValue componentId =
    settings.components.adapter.resolved "adapter" "datanode" := by
  rw [show componentId = "adapter" ++ "_" ++ "datanode" by decide]
  exact Settings.componentValue_adapter _

theorem DatanodeSettings.resolve_error_iff (hf : f.isA .valueError = false) :
    resolve settings = .error f ↔ settings.components.adapter.Unmapped "datanode" ∧
      f = ComponentNamespace.unmapped "adapter" "datanode" :=
  Settings.component_error componentValue_eq hf

theorem DatanodeSettings.isOverlong_resolve (h : resolve settings = .error f) :
    f.isOverlong = false := Settings.isOverlong_component componentValue_eq h

end Components

/-! ## Logging -/

namespace Log

variable {σ : Type}

theorem numbered_error {level : String} (h : numbered level = .error f) :
    f.isA .valueError = true ∧ f.isOverlong = false := by
  unfold numbered at h
  split at h
  · cases h
    exact ⟨rfl, rfl⟩
  · cases h

/-- Setting logging up fails if there is no such level, and for nothing else. -/
theorem outcome_configure (level : String) (format : Format) (service environment : Option String)
    (s : Session σ) : ((configure level format service environment).runFrom s).1 =
      (numbered level).map fun _ => () := by
  rw [runFrom_configure]
  cases numbered level <;> rfl

theorem outcome_configureFrom (settings : LoggingSettings) (level : Option String)
    (s : Session σ) : ((configureFrom settings level).runFrom s).1 =
      (numbered (chosenLevel settings level)).map fun _ => () :=
  outcome_configure _ _ _ _ s

end Log

end Stowage
