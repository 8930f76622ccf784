import Stowage.Proofs.Config.Keyed

/-!
Which source decides about a path of the configuration.

A path leads from mapping to mapping (`Value.at?`). What is laid over decides about every path that
it speaks about, which is one at which it holds something or at the start of which it holds a leaf
(`Speaks`); of all other paths it leaves what was there (`Overlaid`). `load_precedence` says so of
the two steps in which the sources are laid over each other, and what follows for the sources
themselves: the highest one that speaks about a path decides.
-/

namespace Stowage

/-- What a path of keys leads to. The empty path leads to the value itself. -/
def Value.at? : Value → List String → Option Value
  | v, [] => some v
  | .mapping es, key :: rest => (Entries.get? es key).bind fun w => w.at? rest
  | _, _ :: _ => none

namespace Value

@[simp] theorem at?_nil (v : Value) : v.at? [] = some v := by
  cases v <;> rfl

theorem at?_append (v : Value) (start rest : List String) :
    v.at? (start ++ rest) = (v.at? start).bind fun w => w.at? rest := by
  induction start generalizing v with
  | nil => simp
  | cons key start ih =>
    cases v with
    | mapping es =>
      change ((Entries.get? es key).bind fun w => w.at? (start ++ rest)) =
        ((Entries.get? es key).bind fun w => w.at? start).bind fun w => w.at? rest
      cases Entries.get? es key with
      | none => rfl
      | some w => exact ih w
    | _ => rfl

/-- Nothing lies below a leaf. -/
theorem at?_cons_of_leaf {v : Value} (h : v.isMapping = false) (key : String)
    (rest : List String) : v.at? (key :: rest) = none := by
  cases v with
  | mapping es => cases h
  | _ => rfl

end Value

namespace Config

/-! ## Speaking about a path -/

/-- A value speaks about a path at which it holds something, or at the start of which it holds a
leaf. -/
def SpeaksIn (v : Value) (path : List String) : Prop :=
  ∃ start, start <+: path ∧ ∃ w, v.at? start = some w ∧ (start = path ∨ w.isMapping = false)

/-- A source speaks about a path. -/
def Speaks (es : Entries) (path : List String) : Prop := SpeaksIn (.mapping es) path

/-- A source holds a leaf at a path: something that is no mapping. -/
def HasLeaf (es : Entries) (path : List String) (v : Value) : Prop :=
  (Value.mapping es).at? path = some v ∧ v.isMapping = false

/-- A source holds a mapping at a path. -/
def HasMapping (es : Entries) (path : List String) : Prop :=
  ∃ inner, (Value.mapping es).at? path = some (.mapping inner)

/-- Where a leaf is held, nothing is held at longer paths. -/
theorem HasLeaf.at?_eq_none {es : Entries} {start path : List String} {v : Value}
    (h : HasLeaf es start v) (hstart : start <+: path) (hne : start ≠ path) :
    (Value.mapping es).at? path = none := by
  obtain ⟨rest, rfl⟩ := hstart
  cases rest with
  | nil => exact absurd (List.append_nil start).symm hne
  | cons key rest =>
    rw [Value.at?_append, h.1]
    exact Value.at?_cons_of_leaf h.2 key rest

theorem isMapping_of_silent {v : Value} {path : List String} (h : ¬ SpeaksIn v path) :
    ∃ es, v = .mapping es := by
  cases v with
  | mapping es => exact ⟨es, rfl⟩
  | _ => exact absurd ⟨[], List.nil_prefix, _, Value.at?_nil _, .inr rfl⟩ h

/-- What is silent about a path is silent about the rest of it from any step on. -/
theorem silent_of_get? {es : Entries} {key : String} {w : Value} {path : List String}
    (h : ¬ SpeaksIn (.mapping es) (key :: path)) (hw : es.get? key = some w) :
    ¬ SpeaksIn w path := by
  rintro ⟨start, hstart, x, hx, hends⟩
  refine h ⟨key :: start, List.cons_prefix_cons.2 ⟨rfl, hstart⟩, x, ?_, ?_⟩
  · change ((es.get? key).bind fun w => w.at? start) = some x
    rw [hw]
    exact hx
  · rcases hends with rfl | hx
    · exact .inl rfl
    · exact .inr hx

/-! ## Laying one value over another -/

/-- A key holds what was there, with what the upper mapping holds there laid over it. -/
theorem get?_overlayEntries {es : Entries} (h : areKeyed es = true) (base : Entries)
    (key : String) : (overlayEntries base es).get? key = match es.get? key with
      | some v => some (overlay (base.get? key) v)
      | none => base.get? key := by
  induction es generalizing base with
  | nil => rfl
  | cons e r ih =>
    obtain ⟨k, v⟩ := e
    obtain ⟨k, rfl, -, hnew, hr⟩ := Entries.areKeyed_cons.1 h
    change (overlayEntries (base.put (.text k) (overlay (base.get? k) v)) r).get? key = _
    rw [ih hr, Entries.get?_cons, Entries.get?_put]
    by_cases hk : key = k
    · subst hk
      simp [hnew]
    · simp [hk]

variable {v : Value} {path : List String}

theorem overlay_of_leaf (h : v.isMapping = false) (before : Option Value) :
    overlay before v = v := by
  cases v with
  | mapping es => cases h
  | _ => rfl

/-- What a step of a path leads to in a mapping that is laid over something. -/
theorem at?_overlay_mapping {before : Option Value}
    (hb : ∀ w, before = some w → w.isKeyed = true) {es : Entries} (h : areKeyed es = true)
    (key : String) (path : List String) :
    (overlay before (.mapping es)).at? (key :: path) =
      (match es.get? key with
        | some v => some (overlay ((entriesOf before).get? key) v)
        | none => (entriesOf before).get? key).bind fun w => w.at? path := by
  have hkeys : textKeys (entriesOf before) = entriesOf before :=
    textKeys_of_keyed (areKeyed_entriesOf hb)
  have hlaid : overlay before (.mapping es) =
      .mapping (overlayEntries (textKeys (entriesOf before)) es) := by rw [overlay]
  rw [hlaid, hkeys, ← get?_overlayEntries h]
  rfl

theorem isKeyed_get?_entriesOf {before : Option Value}
    (hb : ∀ w, before = some w → w.isKeyed = true) (key : String) :
    ∀ w, (entriesOf before).get? key = some w → w.isKeyed = true :=
  fun _ hw => Entries.isKeyed_of_get? (areKeyed_entriesOf hb) hw

/-- A leaf that is laid over something is there afterwards. -/
theorem at?_overlay_of_leaf {before : Option Value}
    (hb : ∀ w, before = some w → w.isKeyed = true) (hv : v.isKeyed = true) {x : Value}
    (hx : v.at? path = some x) (hleaf : x.isMapping = false) :
    (overlay before v).at? path = some x := by
  induction path generalizing before v with
  | nil =>
    rw [Value.at?_nil, Option.some.injEq] at hx
    subst hx
    rw [overlay_of_leaf hleaf, Value.at?_nil]
  | cons key path ih =>
    cases v with
    | mapping es =>
      obtain ⟨w, hw, hx⟩ := Option.bind_eq_some_iff.1 hx
      rw [at?_overlay_mapping hb hv, hw]
      exact ih (isKeyed_get?_entriesOf hb key) (Entries.isKeyed_of_get? hv hw) hx
    | _ => cases hx

/-- Where a mapping is laid over something there is a mapping afterwards. -/
theorem at?_overlay_of_mapping {before : Option Value}
    (hb : ∀ w, before = some w → w.isKeyed = true) (hv : v.isKeyed = true) {inner : Entries}
    (hx : v.at? path = some (.mapping inner)) :
    ∃ after, (overlay before v).at? path = some (.mapping after) := by
  induction path generalizing before v with
  | nil =>
    rw [Value.at?_nil, Option.some.injEq] at hx
    subst hx
    exact ⟨_, Value.at?_nil _⟩
  | cons key path ih =>
    cases v with
    | mapping es =>
      obtain ⟨w, hw, hx⟩ := Option.bind_eq_some_iff.1 hx
      rw [at?_overlay_mapping hb hv, hw]
      exact ih (isKeyed_get?_entriesOf hb key) (Entries.isKeyed_of_get? hv hw) hx
    | _ => cases hx

theorem at?_cons_entriesOf (before : Option Value) (key : String) (path : List String) :
    (((entriesOf before).get? key).bind fun w => w.at? path) =
      before.bind fun w => w.at? (key :: path) := by
  cases before with
  | none => rfl
  | some w => cases w <;> rfl

/-- Where what is laid over is silent, all stays as it was. -/
theorem at?_overlay_of_silent {before : Option Value}
    (hb : ∀ w, before = some w → w.isKeyed = true) (hv : v.isKeyed = true)
    (hsilent : ¬ SpeaksIn v path) :
    (overlay before v).at? path = before.bind fun w => w.at? path := by
  induction path generalizing before v with
  | nil => exact absurd ⟨[], List.nil_prefix, v, Value.at?_nil v, .inl rfl⟩ hsilent
  | cons key path ih =>
    obtain ⟨es, rfl⟩ := isMapping_of_silent hsilent
    rw [at?_overlay_mapping hb hv, ← at?_cons_entriesOf]
    cases hw : Entries.get? es key with
    | none => rfl
    | some w =>
      exact ih (isKeyed_get?_entriesOf hb key) (Entries.isKeyed_of_get? hv hw)
        (silent_of_get? hsilent hw)

/-! ## Laying one source over another -/

/-- One source laid over another, path by path: its leaves and its mappings are there, its leaves
cut off all longer paths, and what it is silent about is as it was. In particular nothing is at a
path that runs through a leaf of the lower source, unless the upper one speaks about it. -/
structure Overlaid (lower higher result : Entries) : Prop where
  leaf {path : List String} {v : Value} : path ≠ [] → HasLeaf higher path v → HasLeaf result path v
  cut {start path : List String} {v : Value} : start <+: path → start ≠ path →
    HasLeaf higher start v → HasLeaf result start v ∧ (Value.mapping result).at? path = none
  mapping {path : List String} : path ≠ [] → HasMapping higher path → HasMapping result path
  kept {path : List String} : path ≠ [] → ¬ Speaks higher path →
    (Value.mapping result).at? path = (Value.mapping lower).at? path
  masked {start path : List String} {v : Value} : start <+: path → start ≠ path →
    HasLeaf lower start v → HasMapping higher start → (Value.mapping higher).at? path = none →
    (Value.mapping result).at? path = none

/-- Merging lays one source over another. -/
theorem overlaid_merge {lower higher : Entries} (hl : areKeyed lower = true)
    (hh : areKeyed higher = true) : Overlaid lower higher (merge lower higher) := by
  have hb : ∀ w, some (Value.mapping lower) = some w → w.isKeyed = true := by
    intro w hw
    cases hw
    exact hl
  have hv : (Value.mapping higher).isKeyed = true := hh
  have hmerge : Value.mapping (merge lower higher) =
      overlay (some (.mapping lower)) (.mapping higher) := by
    unfold merge overlay entriesOf
    rfl
  have hleaf : ∀ {path v}, HasLeaf higher path v → HasLeaf (merge lower higher) path v := by
    intro path v h
    refine ⟨?_, h.2⟩
    rw [hmerge]
    exact at?_overlay_of_leaf hb hv h.1 h.2
  have hkept : ∀ {path}, ¬ Speaks higher path →
      (Value.mapping (merge lower higher)).at? path = (Value.mapping lower).at? path := by
    intro path h
    rw [hmerge, at?_overlay_of_silent hb hv h]
    rfl
  refine ⟨fun _ h => hleaf h, fun hs hne h => ⟨hleaf h, (hleaf h).at?_eq_none hs hne⟩,
    fun _ ⟨inner, h⟩ => ?_, fun _ h => hkept h, ?_⟩
  · unfold HasMapping
    rw [hmerge]
    exact at?_overlay_of_mapping hb hv h
  · intro start path v hs hne hlower _ habsent
    by_cases hspeaks : Speaks higher path
    · -- it holds nothing at the path, so that a leaf of its own cuts the path off
      obtain ⟨before, hbefore, w, hw, hends⟩ := hspeaks
      have hne' : before ≠ path := by
        rintro rfl
        rw [habsent] at hw
        cases hw
      have hcut : HasLeaf higher before w := ⟨hw, hends.resolve_left hne'⟩
      exact (hleaf hcut).at?_eq_none hbefore hne'
    · rw [hkept hspeaks]
      exact hlower.at?_eq_none hs hne

/-- What was laid over by two sources, one after the other, is there unless one of them speaks. -/
theorem Overlaid.highest {file environment arguments both result : Entries}
    (h₁ : Overlaid file environment both) (h₂ : Overlaid both arguments result)
    {path : List String} (hne : path ≠ []) (ha : ¬ Speaks arguments path) :
    (∀ v, HasLeaf environment path v → HasLeaf result path v) ∧
      (¬ Speaks environment path → ∀ v, HasLeaf file path v → HasLeaf result path v) := by
  refine ⟨fun v hv => ⟨?_, hv.2⟩, fun he v hv => ⟨?_, hv.2⟩⟩
  · rw [h₂.kept hne ha]
    exact (h₁.leaf hne hv).1
  · rw [h₂.kept hne ha, h₁.kept hne he]
    exact hv.1

/-- **Precedence, path by path.** Whatever file there is and whatever the variables set, as long as
both can be read, all is loaded: the environment is laid over the file, and the command line over
both. So at every path the leaf of the highest source that speaks about it is loaded, and a leaf is
only lost where a higher source speaks about its path. -/
theorem load_precedence {sources : Sources} {file environment : Entries}
    (hfile : ofFile sources.path sources.file = .ok file)
    (henvironment : ofVariables sources.start sources.environment = .ok environment)
    (harguments : areKeyed sources.arguments = true) :
    (∀ es, sources.file.read sources.path = .ok (.mapping es) → areKeyed es = true → file = es) ∧
    ∃ both result, load sources = .ok result ∧
      Overlaid file environment both ∧ Overlaid both sources.arguments result ∧
      ∀ path ≠ [], ∀ v,
        (HasLeaf sources.arguments path v → HasLeaf result path v) ∧
        (HasLeaf environment path v → ¬ HasLeaf result path v → Speaks sources.arguments path) ∧
        (HasLeaf file path v → ¬ HasLeaf result path v →
          Speaks sources.arguments path ∨ Speaks environment path) := by
  have hf : areKeyed file = true := areKeyed_ofFile hfile
  have he : areKeyed environment = true := areKeyed_ofVariables henvironment
  have hboth : areKeyed (merge file environment) = true := areKeyed_merge hf environment
  have h₁ : Overlaid file environment (merge file environment) := overlaid_merge hf he
  have h₂ : Overlaid (merge file environment) sources.arguments
      (merge (merge file environment) sources.arguments) := overlaid_merge hboth harguments
  refine ⟨fun es hread hes => ?_, _, _, ?_, h₁, h₂, fun path hne v => ⟨h₂.leaf hne,
    fun hv hlost => ?_, fun hv hlost => ?_⟩⟩
  · exact Except.ok.inj (hfile.symm.trans (ofFile_of_keyed hread hes))
  · unfold load
    rw [hfile, henvironment]
    change (merge? file environment >>= fun both => merge? both sources.arguments) = _
    rw [merge?_of_keyed he]
    exact merge?_of_keyed harguments _
  · by_cases ha : Speaks sources.arguments path
    · exact ha
    · exact absurd ((h₁.highest h₂ hne ha).1 v hv) hlost
  · by_cases ha : Speaks sources.arguments path
    · exact .inl ha
    · by_cases hs : Speaks environment path
      · exact .inr hs
      · exact absurd ((h₁.highest h₂ hne ha).2 hs v hv) hlost

/-- A variable takes the place of a mapping in the file, and the command line puts a mapping there
again: its entry is loaded, and what the file held there is lost. -/
theorem load_precedence_masked :
    let file : Entries := [(.text "a", .mapping [(.text "b", .int 1)])]
    let sources : Sources := {
      file := .value (.mapping file)
      environment := [("STOWAGE_A", "7")]
      arguments := [(.text "a", .mapping [(.text "e", .int 9)])] }
    ofFile sources.path sources.file = .ok file ∧
      ofVariables sources.start sources.environment = .ok [(.text "a", .int 7)] ∧
      areKeyed sources.arguments = true ∧
      ∃ result, load sources = .ok result ∧ HasLeaf result ["a", "e"] (.int 9) ∧
        (Value.mapping result).at? ["a", "b"] = none := by
  intro file sources
  have hfile : ofFile sources.path sources.file = .ok file := rfl
  have henvironment : ofVariables standardPrefix [("STOWAGE_A", "7")] =
      .ok [(.text "a", .int 7)] := rfl
  have harguments : areKeyed sources.arguments = true := by decide
  obtain ⟨-, both, result, hload, hboth, hresult, hleaves⟩ :=
    @load_precedence sources _ _ hfile henvironment harguments
  have hgiven : HasLeaf sources.arguments ["a", "e"] (.int 9) := by
    simp [HasLeaf, sources, Value.at?, Entries.get?_cons, Value.isMapping]
  have hvariable : HasLeaf [(.text "a", .int 7)] ["a"] (.int 7) := by
    simp [HasLeaf, Value.at?, Entries.get?_cons, Value.isMapping]
  have hmapping : HasMapping sources.arguments ["a"] := by
    simp [HasMapping, sources, Value.at?, Entries.get?_cons]
  have hsilent : (Value.mapping sources.arguments).at? ["a", "b"] = none := by
    simp [sources, Value.at?, Entries.get?_cons]
  exact ⟨hfile, henvironment, harguments, result, hload,
    (hleaves ["a", "e"] (List.cons_ne_nil _ _) (.int 9)).1 hgiven,
    hresult.masked (List.prefix_append ["a"] ["b"]) (by decide)
      (hboth.leaf (List.cons_ne_nil _ _) hvariable) hmapping hsilent⟩

end Config

end Stowage
