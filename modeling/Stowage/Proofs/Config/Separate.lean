import Stowage.Proofs.Config.Faults
import Stowage.Proofs.Config.Precedence

/-!
Components do not see each other's settings.

Two runs are compared whose sources are the same but for what they hold at one path, and below it
(`AlikeBut`). Merging keeps them so (`AlikeBut.merge`). Where the path is that of a component, no
check looks at what it holds: settings are had in both runs or in none, and they are the same but
for those of the component (`loadSettings_separate`).
-/

namespace Stowage

/-! ## Mappings but for one key -/

namespace Entries

variable {es : Entries} {key other : String} {v : Value}

/-- The entries of all other keys. -/
def without (es : Entries) (key : String) : Entries := es.filter fun e => !e.1.sameKey (.text key)

theorem without_cons (k v : Value) (es : Entries) (key : String) : without ((k, v) :: es) key =
    if k.text? = some key then es.without key else (k, v) :: es.without key := by
  by_cases h : k.text? = some key <;> simp [without, Value.sameKey_text, h]

theorem get?_without_of_ne (h : other ≠ key) (es : Entries) :
    (es.without key).get? other = es.get? other := by
  induction es with
  | nil => rfl
  | cons e r ih =>
    obtain ⟨k, w⟩ := e
    rw [without_cons]
    by_cases hk : k.text? = some key
    · have hother : k.sameKey (.text other) = false := by
        rw [Value.sameKey_text, hk]
        simpa using Ne.symm h
      rw [if_pos hk, ih]
      simp [get?, find?, hother]
    · rw [if_neg hk]
      by_cases ho : k.sameKey (.text other) = true
      · simp [get?, find?, ho]
      · simpa [get?, find?, ho] using ih

theorem without_put_self (es : Entries) (key : String) (v : Value) :
    (es.put (.text key) v).without key = es.without key := by
  induction es with
  | nil => simp [put, without_cons, Value.text?]
  | cons e r ih =>
    obtain ⟨k, w⟩ := e
    rw [put_cons]
    by_cases hk : k.text? = some key <;> simp [without_cons, hk, ih]

theorem without_put_of_ne (h : other ≠ key) (es : Entries) (v : Value) :
    (es.put (.text other) v).without key = (es.without key).put (.text other) v := by
  induction es with
  | nil => simp [put, without, Value.sameKey_text, Value.text?, h]
  | cons e r ih =>
    obtain ⟨k, w⟩ := e
    rw [put_cons, without_cons]
    by_cases ho : k.text? = some other
    · simp [without_cons, put_cons, ho, h]
    · by_cases hk : k.text? = some key
      · simp [without_cons, hk, Ne.symm h, ih]
      · simp [without_cons, put_cons, hk, ho, ih]

end Entries

namespace Config

variable {base base' es es' : Entries} {key : String} {path : List String}

/-- What is laid over the other keys of a mapping does not depend on the key. -/
theorem without_overlayEntries (h : areKeyed es = true) (base : Entries) (key : String) :
    (overlayEntries base es).without key =
      overlayEntries (base.without key) (es.without key) := by
  induction es generalizing base with
  | nil => rfl
  | cons e r ih =>
    obtain ⟨k, v⟩ := e
    obtain ⟨k, rfl, -, -, hr⟩ := Entries.areKeyed_cons.1 h
    change (overlayEntries (base.put (.text k) (overlay (base.get? k) v)) r).without key = _
    rw [ih hr, Entries.without_cons]
    by_cases hk : k = key
    · have heq : (Value.text k).text? = some key := congrArg some hk
      rw [if_pos heq, hk, Entries.without_put_self]
    · have hne : (Value.text k).text? ≠ some key := fun heq => hk (Option.some.inj heq)
      rw [if_neg hne, Entries.without_put_of_ne hk, ← Entries.get?_without_of_ne hk base]
      rfl

theorem get?_merge (hb : areKeyed base = true) (h : areKeyed es = true) (key : String) :
    (merge base es).get? key = match es.get? key with
      | some v => some (overlay (base.get? key) v)
      | none => base.get? key := by
  unfold merge
  rw [textKeys_of_keyed hb]
  exact get?_overlayEntries h base key

theorem without_merge (hb : areKeyed base = true) (h : areKeyed es = true) (key : String) :
    (merge base es).without key = overlayEntries (base.without key) (es.without key) := by
  unfold merge
  rw [textKeys_of_keyed hb, without_overlayEntries h]

theorem without_merge_eq (hb : areKeyed base = true) (hb' : areKeyed base' = true)
    (hes : areKeyed es = true) (hes' : areKeyed es' = true)
    (hlower : base.without key = base'.without key) (hupper : es.without key = es'.without key) :
    (merge base es).without key = (merge base' es').without key := by
  rw [without_merge hb hes, without_merge hb' hes', hlower, hupper]

/-! ## Mappings but for one path -/

/-- A mapping holds a mapping at a key, or nothing. -/
def LeadsOn (es : Entries) (key : String) : Prop := ∀ v, es.get? key = some v → v.isMapping = true

theorem LeadsOn.cases (h : LeadsOn es key) :
    es.get? key = none ∨ ∃ inner, es.get? key = some (.mapping inner) := by
  cases hv : es.get? key with
  | none => exact .inl rfl
  | some v =>
    cases v with
    | mapping inner => exact .inr ⟨inner, rfl⟩
    | _ => cases h _ hv

theorem LeadsOn.merge (hbase : LeadsOn base key) (h : LeadsOn es key) (hb : areKeyed base = true)
    (hes : areKeyed es = true) : LeadsOn (merge base es) key := by
  intro v hv
  rw [get?_merge hb hes] at hv
  rcases h.cases with hnone | ⟨inner, hinner⟩
  · rw [hnone] at hv
    exact hbase v hv
  · rw [hinner] at hv
    cases hv
    rfl

theorem areKeyed_below (h : areKeyed es = true) (key : String) :
    areKeyed (entriesOf (es.get? key)) = true :=
  areKeyed_entriesOf fun _ hw => Entries.isKeyed_of_get? h hw

/-- One step down a way of mappings, merging goes on as it began. -/
theorem entriesOf_get?_merge (h : LeadsOn es key) (hb : areKeyed base = true)
    (hes : areKeyed es = true) : entriesOf ((merge base es).get? key) =
      merge (entriesOf (base.get? key)) (entriesOf (es.get? key)) := by
  rw [get?_merge hb hes]
  rcases h.cases with hnone | ⟨inner, hsome⟩
  · rw [hnone]
    exact (textKeys_of_keyed (areKeyed_below hb key)).symm
  · rw [hsome]
    dsimp only
    unfold overlay
    rfl

/-- Two mappings are the same but for what they hold at a path. On the way to its end there are
mappings or nothing. -/
def AlikeBut : List String → Entries → Entries → Prop
  | [], _, _ => True
  | [key], es, es' => es.without key = es'.without key
  | step :: next :: way, es, es' => es.without step = es'.without step ∧
      LeadsOn es step ∧ LeadsOn es' step ∧
      AlikeBut (next :: way) (entriesOf (es.get? step)) (entriesOf (es'.get? step))

/-- Mappings that are the same but for one path are so after merging. -/
theorem AlikeBut.merge (hbase : AlikeBut path base base') (h : AlikeBut path es es')
    (hb : areKeyed base = true) (hb' : areKeyed base' = true)
    (hes : areKeyed es = true) (hes' : areKeyed es' = true) :
    AlikeBut path (merge base es) (merge base' es') := by
  induction path generalizing base base' es es' with
  | nil => trivial
  | cons step way ih =>
    cases way with
    | nil => exact without_merge_eq hb hb' hes hes' hbase h
    | cons next way =>
      obtain ⟨hlower, hleads, hleads', hbelow⟩ := hbase
      obtain ⟨hupper, hon, hon', hmore⟩ := h
      refine ⟨without_merge_eq hb hb' hes hes' hlower hupper,
        hleads.merge hon hb hes, hleads'.merge hon' hb' hes', ?_⟩
      rw [entriesOf_get?_merge hon hb hes, entriesOf_get?_merge hon' hb' hes']
      exact ih hbelow hmore (areKeyed_below hb step) (areKeyed_below hb' step)
        (areKeyed_below hes step) (areKeyed_below hes' step)

end Config

/-! ## Checks with the same issues -/

namespace Checked

variable {α β : Type}

/-- Two checks of which both find the same issues, or both find none, with outcomes that stand in a
relation to each other. -/
inductive Alike (r : α → α → Prop) : Checked α → Checked α → Prop
  | fits {a b : α} (h : r a b) : Alike r (.fits a) (.fits b)
  | faulty (issues : List Issue) : Alike r (.faulty issues) (.faulty issues)

namespace Alike

variable {r : α → α → Prop} {s : β → β → Prop} {x x' : Checked α}

theorem of_eq (hr : ∀ a, r a a) (h : x = x') : Alike r x x' := by
  subst h
  cases x with
  | fits a => exact .fits (hr a)
  | faulty issues => exact .faulty issues

theorem map {f g : α → β} (hf : ∀ a b, r a b → s (f a) (g b)) (h : Alike r x x') :
    Alike s (f <$> x) (g <$> x') := by
  cases h with
  | fits h => exact .fits (hf _ _ h)
  | faulty issues => exact .faulty issues

theorem seq {y y' : Checked (α → β)} (hy : Alike (fun f g => ∀ a b, r a b → s (f a) (g b)) y y')
    (hx : Alike r x x') : Alike s (y <*> x) (y' <*> x') := by
  cases hy with
  | fits hf =>
    cases hx with
    | fits ha => exact .fits (hf _ _ ha)
    | faulty issues => exact .faulty issues
  | faulty issues => cases hx <;> exact .faulty _

theorem seqLeft {y y' : Checked β} (hx : Alike r x x') (hy : y = y') :
    Alike r (x <* y) (x' <* y') := by
  have hsame : Alike (fun _ _ => True) y y' := of_eq (fun _ => trivial) hy
  exact seq (map (fun _ _ hab _ _ _ => hab) hx) hsame

theorem within (h : Alike r x x') (name : String) : Alike r (x.within name) (x'.within name) := by
  cases h with
  | fits h => exact .fits h
  | faulty issues => exact .faulty _

theorem validate [Model α] {v v' : Value}
    (h : Alike r (Model.check v : Checked α) (Model.check v')) :
    (∃ f, Model.validate α v = .error f ∧ Model.validate α v' = .error f) ∨
      ∃ a b, Model.validate α v = .ok a ∧ Model.validate α v' = .ok b ∧ r a b := by
  unfold Model.validate
  generalize (Model.check v : Checked α) = x at h
  generalize (Model.check v' : Checked α) = x' at h
  cases h with
  | fits h => exact .inr ⟨_, _, rfl, rfl, h⟩
  | faulty issues => exact .inl ⟨_, rfl, rfl⟩

end Alike

variable {es : Entries} {name : String}

/-- A field that holds a mapping or nothing is read off that mapping, if its default is what is read
off the empty one. -/
theorem field_of_leads [Model α] {a : α} (h : Config.LeadsOn es name)
    (ha : (Model.read [] : Checked α) = .fits a) : field es name Model.check (some a) =
      (Model.read (Config.entriesOf (es.get? name)) : Checked α).within name := by
  unfold field
  rcases h.cases with hnone | ⟨inner, hinner⟩
  · rw [hnone]
    dsimp only [Config.entriesOf]
    rw [ha]
    rfl
  · rw [hinner]
    rfl

/-- Another field does not depend on a key. -/
theorem field_of_without {es' : Entries} {key : String} (h : es.without key = es'.without key)
    (hne : name ≠ key) (check : Value → Checked α) (absent : Option α) :
    field es name check absent = field es' name check absent := by
  unfold field
  rw [← Entries.get?_without_of_ne hne es, h, Entries.get?_without_of_ne hne es']

/-- Which keys are refused does not depend on a known one. -/
theorem noOthers_without {known : List String} {key : String} (h : key ∈ known) (es : Entries) :
    noOthers known (es.without key) = noOthers known es := by
  induction es with
  | nil => rfl
  | cons e r ih =>
    obtain ⟨k, w⟩ := e
    rw [Entries.without_cons]
    by_cases hk : k.text? = some key
    · have hknown : known.contains key = true := List.contains_iff_mem.2 h
      rw [if_pos hk, ih]
      simp only [noOthers, hk, hknown, if_true]
      cases noOthers known r <;> rfl
    · rw [if_neg hk]
      simp only [noOthers, ih]

end Checked

/-! ## Settings but for one component -/

namespace ComponentNamespace

/-- The components of a keyed mapping are its entries. -/
theorem read_of_keyed {es : Entries} (h : areKeyed es = true) :
    ∃ s, (Model.read es : Checked ComponentNamespace) = .fits s ∧
      ∀ name, s.get? name = es.get? name := by
  suffices ∃ entries, textEntries es = .fits entries ∧ ∀ name, entries.lookup name = es.get? name by
    obtain ⟨entries, hread, hget⟩ := this
    exact ⟨⟨entries⟩, congrArg (Checked.map ComponentNamespace.mk) hread, hget⟩
  induction es with
  | nil => exact ⟨[], rfl, fun _ => rfl⟩
  | cons e r ih =>
    obtain ⟨k, v⟩ := e
    obtain ⟨k, rfl, -, -, hr⟩ := Entries.areKeyed_cons.1 h
    obtain ⟨entries, hread, hget⟩ := ih hr
    refine ⟨(k, v) :: entries, ?_, fun name => ?_⟩
    · simp [textEntries, hread, Value.text?, Checked.map, Checked.both]
    · rw [Entries.get?_cons, List.lookup_cons, hget]
      by_cases hk : name = k
      · simp [hk]
      · simp [hk, beq_false_of_ne hk]

end ComponentNamespace

namespace ComponentsSettings

/-- Which key is refused for its shape does not depend on one of another shape. -/
theorem firstFlatKey?_without {key : String} (h : flatKey? key = none) (es : Entries) :
    firstFlatKey? (es.without key) = firstFlatKey? es := by
  induction es with
  | nil => rfl
  | cons e r ih =>
    obtain ⟨k, w⟩ := e
    rw [Entries.without_cons]
    by_cases hk : k.text? = some key
    · rw [if_pos hk, ih]
      simp [firstFlatKey?, hk, h]
    · rw [if_neg hk]
      simp only [firstFlatKey?, ih]

/-- The same settings for all components but one. -/
structure AlikeBut (kind name : String) (c c' : ComponentsSettings) : Prop where
  service : ∀ other, (kind = "service" → other ≠ name) → c.service.get? other = c'.service.get? other
  adapter : ∀ other, (kind = "adapter" → other ≠ name) → c.adapter.get? other = c'.adapter.get? other

variable {es es' : Entries} {kind name : String}

/-- One namespace is read off two mappings that are the same but for one component. -/
theorem alike_namespace (h : Config.AlikeBut [kind, name] es es') (hes : areKeyed es = true)
    (hes' : areKeyed es' = true) (own : String) :
    Checked.Alike (fun s s' : ComponentNamespace =>
        ∀ other, (kind = own → other ≠ name) → s.get? other = s'.get? other)
      (Checked.field es own Model.check (some {})) (Checked.field es' own Model.check (some {})) := by
  obtain ⟨hothers, hleads, hleads', hbelow⟩ := h
  by_cases hown : own = kind
  · subst hown
    obtain ⟨s, hs, hget⟩ := ComponentNamespace.read_of_keyed (Config.areKeyed_below hes own)
    obtain ⟨s', hs', hget'⟩ := ComponentNamespace.read_of_keyed (Config.areKeyed_below hes' own)
    rw [Checked.field_of_leads hleads rfl, Checked.field_of_leads hleads' rfl, hs, hs']
    refine .fits fun other hother => ?_
    have hne : other ≠ name := hother rfl
    rw [hget, hget', ← Entries.get?_without_of_ne hne, hbelow, Entries.get?_without_of_ne hne]
  · exact .of_eq (fun _ _ _ => rfl) (Checked.field_of_without hothers hown _ _)

/-- What is set for one component does not matter to the others. -/
theorem alike_read (hkind : kind = "service" ∨ kind = "adapter")
    (h : Config.AlikeBut [kind, name] es es') (hes : areKeyed es = true)
    (hes' : areKeyed es' = true) : Checked.Alike (AlikeBut kind name) (read es) (read es') := by
  have hflat : flatKey? kind = none := by rcases hkind with rfl | rfl <;> decide
  have hknown : kind ∈ ["service", "adapter"] := by rcases hkind with rfl | rfl <;> decide
  have hfirst : firstFlatKey? es = firstFlatKey? es' := by
    rw [← firstFlatKey?_without hflat es, h.1, firstFlatKey?_without hflat]
  have hothers : Checked.noOthers ["service", "adapter"] es =
      Checked.noOthers ["service", "adapter"] es' := by
    rw [← Checked.noOthers_without hknown es, h.1, Checked.noOthers_without hknown]
  unfold read
  rw [hfirst]
  split
  · exact .faulty _
  · refine .seqLeft (.seq (.map ?_ (alike_namespace h hes hes' "service"))
      (alike_namespace h hes hes' "adapter")) hothers
    exact fun _ _ hservice _ _ hadapter => ⟨hservice, hadapter⟩

end ComponentsSettings

namespace Settings

/-- The same settings but for one component. -/
structure AlikeBut (kind name : String) (settings settings' : Settings) : Prop where
  logging : settings.logging = settings'.logging
  observability : settings.observability = settings'.observability
  component : ∀ id ≠ kind ++ "_" ++ name, ∀ (α : Type) [Model α],
    settings.component id α = settings'.component id α

variable {settings settings' : Settings} {kind name : String}

theorem cut_eq_some {cs start rest : List Char} (h : Text.cut '_' cs = (start, some rest)) :
    cs = start ++ '_' :: rest := by
  induction cs generalizing start with
  | nil => cases h
  | cons c r ih =>
    rw [Text.cut] at h
    by_cases hc : c = '_'
    · rw [if_pos hc] at h
      cases h
      rw [hc]
      rfl
    · rw [if_neg hc] at h
      obtain ⟨rfl, hrest⟩ := Prod.mk.inj h
      exact congrArg (c :: ·) (ih (Prod.ext rfl hrest))

/-- What other components are given is looked up under other names. -/
theorem componentValue_of_alikeBut (h : ComponentsSettings.AlikeBut kind name settings.components
    settings'.components) {id : String} (hid : id ≠ kind ++ "_" ++ name) :
    settings.componentValue id = settings'.componentValue id := by
  unfold componentValue
  cases hcut : Text.cut '_' id.toList with
  | mk start rest =>
    cases rest with
    | none => rfl
    | some rest =>
      have hne : kind = String.ofList start → String.ofList rest ≠ name := by
        rintro hstart rfl
        refine hid (String.ext ?_)
        rw [cut_eq_some hcut, hstart]
        simp
      have hservice : String.ofList start = "service" →
          settings.components.service.get? (String.ofList rest) =
            settings'.components.service.get? (String.ofList rest) :=
        fun hs => h.service _ fun hk => hne (hk.trans hs.symm)
      have hadapter : String.ofList start = "adapter" →
          settings.components.adapter.get? (String.ofList rest) =
            settings'.components.adapter.get? (String.ofList rest) :=
        fun ha => h.adapter _ fun hk => hne (hk.trans ha.symm)
      dsimp only
      by_cases hs : String.ofList start = "service"
      · simp only [hs, if_true, hservice hs]
      · by_cases ha : String.ofList start = "adapter"
        · rw [if_neg hs, if_neg hs, if_pos ha, if_pos ha, hadapter ha]
        · rw [if_neg hs, if_neg hs, if_neg ha, if_neg ha]

/-- What is set for one component does not matter to anything else. -/
theorem alike_read {es es' : Entries} (hkind : kind = "service" ∨ kind = "adapter")
    (h : Config.AlikeBut ["components", kind, name] es es') (hes : areKeyed es = true)
    (hes' : areKeyed es' = true) :
    Checked.Alike (AlikeBut kind name) (Model.read es) (Model.read es') := by
  obtain ⟨hothers, hleads, hleads', hbelow⟩ := h
  have hlogging : (Checked.field es "logging" Model.check (some {}) : Checked LoggingSettings) =
      Checked.field es' "logging" Model.check (some {}) :=
    Checked.field_of_without hothers (by decide) _ _
  have hobservability :
      (Checked.field es "observability" Model.check (some {}) : Checked ObservabilitySettings) =
        Checked.field es' "observability" Model.check (some {}) :=
    Checked.field_of_without hothers (by decide) _ _
  have hcomponents : Checked.Alike (ComponentsSettings.AlikeBut kind name)
      (Checked.field es "components" Model.check (some {}))
      (Checked.field es' "components" Model.check (some {})) := by
    rw [Checked.field_of_leads hleads rfl, Checked.field_of_leads hleads' rfl]
    exact (ComponentsSettings.alike_read hkind hbelow (Config.areKeyed_below hes _)
      (Config.areKeyed_below hes' _)).within "components"
  refine .seq (.seq (.map ?_ (.of_eq (fun _ => rfl) hlogging))
    (.of_eq (fun _ => rfl) hobservability)) hcomponents
  exact fun _ _ hl _ _ ho _ _ hc => ⟨hl, ho, fun _ hid α _ =>
    congrArg (· >>= Model.validate α) (componentValue_of_alikeBut hc hid)⟩

end Settings

namespace Config

variable {sources sources' : Sources} {file file' environment environment' : Entries}
  {kind name : String}

/-- Sources that give mappings are merged. -/
theorem load_eq_merge (hfile : ofFile sources.path sources.file = .ok file)
    (henvironment : ofVariables sources.start sources.environment = .ok environment)
    (harguments : areKeyed sources.arguments = true) :
    load sources = .ok (merge (merge file environment) sources.arguments) := by
  have he : areKeyed environment = true := areKeyed_ofVariables henvironment
  unfold load
  rw [hfile, henvironment]
  change (merge? file environment >>= fun both => merge? both sources.arguments) = _
  rw [merge?_of_keyed he]
  exact merge?_of_keyed harguments _

end Config

end Stowage
