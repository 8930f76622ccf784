import Stowage.Proofs.Config.Precedence

/-!
Keys of any kind, and keys that become one as text.

A source may have keys of any kind. Merging makes texts of them, and keys with the same text become
one: what they hold is laid one upon the other in the order of the entries, by the rule by which one
source is laid upon another (`get?_merge_eq_laid`). Laying a source upon what it has been laid upon
before changes nothing (`merge_merge_self`), although the values of one key may undo each other on
the way. The induction for that is on the size of the source: if all values of a key are mappings,
they count as one mapping that has the entries of all of them (`laid_joined`).
-/

namespace Stowage.Config

variable {base es more : Entries} {key : String} {v : Value} {vs : List Value}
  {before : Option Value}

/-! ## Flat mappings -/

theorem Flat.put (h : Flat es) (key : String) (v : Value) : Flat (es.put (.text key) v) := by
  induction h with
  | nil => exact .cons rfl .nil
  | @cons k w r hnew hr ih =>
    rw [Entries.put_cons]
    by_cases hk : k = key
    · rw [if_pos (by simp [Value.text?, hk])]
      exact .cons hnew hr
    · rw [if_neg (by simp [Value.text?, hk])]
      refine .cons ?_ ih
      rw [Entries.get?_put_of_ne hk]
      exact hnew

theorem flat_textKeys (es : Entries) : Flat (textKeys es) := by
  suffices ∀ found, Flat found →
      Flat (es.foldl (fun found e => found.put (.text e.1.display) e.2) found) from
    this [] .nil
  induction es with
  | nil => exact fun _ h => h
  | cons e r ih =>
    intro found h
    exact ih _ (h.put _ _)

theorem Flat.overlayEntries (h : Flat base) (es : Entries) : Flat (overlayEntries base es) := by
  induction es generalizing base with
  | nil => exact h
  | cons e r ih =>
    obtain ⟨k, v⟩ := e
    exact ih (h.put _ _)

/-- Flat mappings with the same keys in the same order are equal if all keys hold the same. -/
theorem Flat.ext {after : Entries} (h : Flat es) (h' : Flat after)
    (hkeys : es.map Prod.fst = after.map Prod.fst)
    (hget : ∀ key, es.get? key = after.get? key) : es = after := by
  induction h generalizing after with
  | nil => exact (List.map_eq_nil_iff.1 hkeys.symm).symm
  | @cons key v r hnew _ ih =>
    cases h' with
    | nil => simp at hkeys
    | @cons key' v' r' hnew' hr' =>
      simp only [List.map_cons, List.cons.injEq, Value.text.injEq] at hkeys
      obtain ⟨rfl, hkeys⟩ := hkeys
      have hv : v = v' := by simpa [Entries.get?_cons] using hget key
      have hr : r = r' := by
        apply ih hr' hkeys
        intro other
        by_cases ho : other = key
        · rw [ho, hnew, hnew']
        · simpa [Entries.get?_cons, ho] using hget other
      rw [hv, hr]

theorem keys_put (h : (es.get? key).isSome = true) (v : Value) :
    (es.put (.text key) v).map Prod.fst = es.map Prod.fst := by
  induction es with
  | nil => simp at h
  | cons e r ih =>
    obtain ⟨k, w⟩ := e
    by_cases hk : k.sameKey (.text key) = true
    · simp [Entries.put, hk]
    · simp only [Entries.get?, Entries.find?, hk, Bool.false_eq_true, if_false] at h
      simp [Entries.put, hk, ih h]

/-- Keys that are there already keep their places. -/
theorem keys_overlayEntries (h : ∀ e ∈ es, (base.get? e.1.display).isSome = true) :
    (overlayEntries base es).map Prod.fst = base.map Prod.fst := by
  induction es generalizing base with
  | nil => rfl
  | cons e r ih =>
    obtain ⟨k, v⟩ := e
    obtain ⟨hk, hr⟩ := List.forall_mem_cons.1 h
    unfold overlayEntries
    rw [ih, keys_put hk]
    intro e he
    rw [Entries.get?_put]
    split
    · rfl
    · exact hr e he

/-! ## What is laid upon a key -/

/-- The rule of two sources: two mappings are merged, all else is replaced. A mapping that takes the
place of something else gets text keys. -/
def combine : Option Value → Value → Value
  | some (.mapping lower), .mapping higher => .mapping (merge lower higher)
  | _, .mapping higher => .mapping (merge [] higher)
  | _, v => v

theorem overlay_eq_combine (before : Option Value) (v : Value) :
    overlay before v = combine before v := by
  cases v with
  | mapping es =>
    unfold overlay
    cases before with
    | none => rfl
    | some w => cases w <;> rfl
  | _ => cases before with
    | none => rfl
    | some w => cases w <;> rfl

/-- What a key holds after values have been laid upon it one after the other. -/
def laid (before : Option Value) (vs : List Value) : Option Value :=
  vs.foldl (fun before v => some (combine before v)) before

/-- The values of the entries whose keys have a text, in order. -/
def valuesOf (key : String) (es : Entries) : List Value :=
  es.filterMap fun e => if e.1.display = key then some e.2 else none

@[simp] theorem laid_nil (before : Option Value) : laid before [] = before := rfl

@[simp] theorem laid_cons (before : Option Value) (v : Value) (vs : List Value) :
    laid before (v :: vs) = laid (some (overlay before v)) vs := by
  rw [overlay_eq_combine]
  rfl

theorem laid_append (before : Option Value) (vs ws : List Value) :
    laid before (vs ++ ws) = laid (laid before vs) ws := List.foldl_append

theorem isSome_laid (h : before.isSome = true) (vs : List Value) :
    (laid before vs).isSome = true := by
  induction vs generalizing before with
  | nil => exact h
  | cons v vs ih =>
    rw [laid_cons]
    exact ih rfl

@[simp] theorem valuesOf_cons (key : String) (k v : Value) (r : Entries) :
    valuesOf key ((k, v) :: r) = if k.display = key then v :: valuesOf key r else valuesOf key r := by
  unfold valuesOf
  by_cases h : k.display = key <;> simp [h]

theorem valuesOf_ne_nil {e : Value × Value} (h : e ∈ es) : valuesOf e.1.display es ≠ [] := by
  apply List.ne_nil_of_mem (a := e.2)
  exact List.mem_filterMap.2 ⟨e, h, if_pos rfl⟩

/-- A key holds what the entries with its text lay, one after the other, upon what was there. -/
theorem get?_overlayEntries_eq_laid (base es : Entries) (key : String) :
    (overlayEntries base es).get? key = laid (base.get? key) (valuesOf key es) := by
  induction es generalizing base with
  | nil => rfl
  | cons e r ih =>
    obtain ⟨k, v⟩ := e
    unfold overlayEntries
    rw [ih, Entries.get?_put, valuesOf_cons]
    by_cases hk : k.display = key
    · simp [hk]
    · simp [hk, Ne.symm hk]

theorem get?_merge_eq_laid (h : areKeyed base = true) (es : Entries) (key : String) :
    (merge base es).get? key = laid (base.get? key) (valuesOf key es) := by
  unfold merge
  rw [textKeys_of_keyed h]
  exact get?_overlayEntries_eq_laid base es key

/-! ## Laying the same again -/

theorem overlayEntries_append (base es more : Entries) :
    overlayEntries base (es ++ more) = overlayEntries (overlayEntries base es) more := by
  induction es generalizing base with
  | nil => rfl
  | cons e r ih =>
    obtain ⟨k, v⟩ := e
    exact ih _

/-- One source is laid like two, its first entries and after them the others. -/
theorem merge_append (base es more : Entries) :
    merge base (es ++ more) = merge (merge base es) more := by
  have hflat : Flat (merge base es) := (flat_textKeys base).overlayEntries es
  have houter : merge (merge base es) more = overlayEntries (merge base es) more := by
    unfold merge at hflat ⊢
    rw [hflat.textKeys_eq]
  rw [houter]
  exact overlayEntries_append (textKeys base) es more

/-- Two mappings laid one after the other are laid as one. -/
theorem overlay_overlay (before : Option Value) (es more : Entries) :
    overlay (some (overlay before (.mapping es))) (.mapping more) =
      overlay before (.mapping (es ++ more)) := by
  have hmerge : ∀ before es, overlay before (.mapping es) =
      .mapping (merge (entriesOf before) es) := by
    intro before es
    unfold overlay
    rfl
  rw [hmerge, hmerge, hmerge, merge_append]
  rfl

/-- The entries of all mappings among some values. -/
def joined (vs : List Value) : Entries := vs.flatMap fun v => entriesOf (some v)

theorem laid_joined (hne : vs ≠ []) (h : ∀ v ∈ vs, v.isMapping = true) :
    laid before vs = some (overlay before (.mapping (joined vs))) := by
  induction vs generalizing before with
  | nil => exact absurd rfl hne
  | cons v vs ih =>
    obtain ⟨hv, hvs⟩ := List.forall_mem_cons.1 h
    cases v with
    | mapping es =>
      rw [laid_cons]
      by_cases hnil : vs = []
      · subst hnil
        simp [joined, entriesOf]
      · rw [ih hnil hvs, overlay_overlay]
        rfl
    | _ => cases hv

/-- A value that is no mapping hides all that was there before. -/
theorem laid_of_leaf (h : ∃ v ∈ vs, v.isMapping = false) (before other : Option Value) :
    laid before vs = laid other vs := by
  induction vs generalizing before other with
  | nil =>
    obtain ⟨v, hv, -⟩ := h
    exact absurd hv List.not_mem_nil
  | cons v vs ih =>
    rw [laid_cons, laid_cons]
    by_cases hvs : ∃ w ∈ vs, w.isMapping = false
    · exact ih hvs _ _
    · obtain ⟨w, hw, hleaf⟩ := h
      rcases List.mem_cons.1 hw with rfl | hw
      · rw [overlay_of_leaf hleaf, overlay_of_leaf hleaf]
      · exact absurd ⟨w, hw, hleaf⟩ hvs

/-- The mappings that one key of a source holds are smaller than the source. -/
theorem sizeOf_joined (key : String) (es : Entries) :
    sizeOf (joined (valuesOf key es)) + es.length ≤ sizeOf es := by
  induction es with
  | nil => simp [valuesOf, joined]
  | cons e r ih =>
    obtain ⟨k, v⟩ := e
    have hv : sizeOf (entriesOf (some v)) ≤ sizeOf v := by
      cases v <;> simp [entriesOf] <;> omega
    have hsum : ∀ as bs : Entries, sizeOf (as ++ bs) + 1 = sizeOf as + sizeOf bs := by
      intro as bs
      induction as with
      | nil => simp; omega
      | cons a as ih => simp; omega
    have happ := hsum (entriesOf (some v)) (joined (valuesOf key r))
    have hcons : joined (v :: valuesOf key r) =
        entriesOf (some v) ++ joined (valuesOf key r) := rfl
    rw [valuesOf_cons]
    split
    · rw [hcons]
      simp
      omega
    · simp
      omega

/-- Laying a mapping upon what it has been laid upon changes nothing. -/
theorem overlay_overlay_self (es : Entries) (before : Option Value) :
    overlay (some (overlay before (.mapping es))) (.mapping es) = overlay before (.mapping es) := by
  have hmapping : overlay before (.mapping es) =
      .mapping (overlayEntries (textKeys (entriesOf before)) es) := by rw [overlay]
  have hflat := (flat_textKeys (entriesOf before)).overlayEntries es
  have hget := get?_overlayEntries_eq_laid (textKeys (entriesOf before)) es
  rw [hmapping]
  generalize overlayEntries (textKeys (entriesOf before)) es = after at hflat hget ⊢
  generalize textKeys (entriesOf before) = start at hget
  have hagain : overlay (some (.mapping after)) (.mapping es) =
      .mapping (overlayEntries after es) := by
    unfold overlay entriesOf
    rw [hflat.textKeys_eq]
  rw [hagain, Value.mapping.injEq]
  apply (hflat.overlayEntries es).ext hflat
  · apply keys_overlayEntries
    intro e he
    rw [hget]
    cases hvs : valuesOf e.1.display es with
    | nil => exact absurd hvs (valuesOf_ne_nil he)
    | cons v vs =>
      rw [laid_cons]
      exact isSome_laid rfl vs
  · intro key
    rw [get?_overlayEntries_eq_laid, hget]
    by_cases hleaf : ∃ v ∈ valuesOf key es, v.isMapping = false
    · exact laid_of_leaf hleaf _ _
    · by_cases hnil : valuesOf key es = []
      · rw [hnil]
        rfl
      · have hall : ∀ v ∈ valuesOf key es, v.isMapping = true := by
          intro v hv
          cases hb : v.isMapping with
          | true => rfl
          | false => exact absurd ⟨v, hv, hb⟩ hleaf
        have hsmaller : sizeOf (joined (valuesOf key es)) < sizeOf es := by
          have hsize := sizeOf_joined key es
          have hlength : 0 < es.length := by
            apply List.length_pos_iff.2
            rintro rfl
            exact hnil rfl
          omega
        rw [laid_joined hnil hall, laid_joined hnil hall, overlay_overlay_self]
termination_by sizeOf es

/-- **Merging is idempotent**, whatever keys there are. -/
theorem merge_merge_self (base higher : Entries) :
    merge (merge base higher) higher = merge base higher := by
  have hself := overlay_overlay_self higher (some (.mapping base))
  unfold overlay at hself
  exact Value.mapping.inj hself

/-! ## Where keys come from -/

/-- Keys lead from a source, through mappings, to something that it holds. -/
inductive Leads : Entries → List Value → Prop
  | here {es : Entries} {k v : Value} : (k, v) ∈ es → Leads es [k]
  | within {es inner : Entries} {k : Value} {keys : List Value} : (k, .mapping inner) ∈ es →
    Leads inner keys → Leads es (k :: keys)

theorem Leads.cons {e : Value × Value} {keys : List Value} (h : Leads es keys) :
    Leads (e :: es) keys := by
  cases h with
  | here h => exact .here (List.mem_cons_of_mem _ h)
  | within h hinner => exact .within (List.mem_cons_of_mem _ h) hinner

/-- A path is spelled by keys that lead from a source to something. -/
def Spelled (es : Entries) (path : List String) : Prop :=
  ∃ keys, Leads es keys ∧ keys.map Value.display = path

theorem Spelled.cons {e : Value × Value} {path : List String} (h : Spelled es path) :
    Spelled (e :: es) path := by
  obtain ⟨keys, hkeys, hpath⟩ := h
  exact ⟨keys, hkeys.cons, hpath⟩

mutual

/-- Whatever is found where a mapping has been laid was there before, or the keys of the mapping
lead there. -/
theorem spelled_of_overlay (v : Value) {held : Option Value}
    (hb : ∀ w, held = some w → w.isKeyed = true) {step : String}
    {path : List String} (h : (overlay held v).at? (step :: path) ≠ none) :
    (∃ es, v = .mapping es ∧ Spelled es (step :: path)) ∨
      (held.bind fun w => w.at? (step :: path)) ≠ none := by
  cases v with
  | mapping es =>
    have hbase : areKeyed (entriesOf held) = true := areKeyed_entriesOf hb
    unfold overlay at h
    rw [textKeys_of_keyed hbase] at h
    rcases spelled_of_overlayEntries es hbase h with h | h
    · exact .inl ⟨es, rfl, h⟩
    · right
      rw [← at?_cons_entriesOf]
      exact h
  | _ => exact absurd rfl h

theorem spelled_of_overlayEntries (es : List (Value × Value)) {base : Entries}
    (hb : areKeyed base = true) {step : String} {path : List String}
    (h : (Value.mapping (overlayEntries base es)).at? (step :: path) ≠ none) :
    Spelled es (step :: path) ∨ (Value.mapping base).at? (step :: path) ≠ none := by
  cases es with
  | nil => exact .inr h
  | cons e r =>
    obtain ⟨k, v⟩ := e
    have hheld : ∀ w, Entries.get? base k.display = some w → w.isKeyed = true :=
      fun w hw => Entries.isKeyed_of_get? hb hw
    have hput := Entries.areKeyed_put hb k.display (isKeyed_overlay v hheld)
    rcases spelled_of_overlayEntries r hput h with hr | hbase
    · exact .inl hr.cons
    · change ((Entries.put (.text k.display) _ base).get? step).bind _ ≠ none at hbase
      rw [Entries.get?_put] at hbase
      by_cases hstep : step = k.display
      · rw [if_pos hstep, Option.bind_some] at hbase
        cases path with
        | nil => exact .inl ⟨[k], .here List.mem_cons_self, by rw [hstep]; rfl⟩
        | cons next path =>
          rcases spelled_of_overlay v hheld hbase with ⟨inner, rfl, keys, hkeys, hpath⟩ | hold
          · left
            refine ⟨k :: keys, .within List.mem_cons_self hkeys, ?_⟩
            rw [List.map_cons, hpath, hstep]
          · right
            rw [hstep]
            exact hold
      · rw [if_neg hstep] at hbase
        exact .inr hbase

end

theorem spelled_of_merge (hb : areKeyed base = true) {step : String} {path : List String}
    (h : (Value.mapping (merge base es)).at? (step :: path) ≠ none) :
    Spelled es (step :: path) ∨ (Value.mapping base).at? (step :: path) ≠ none := by
  unfold merge at h
  rw [textKeys_of_keyed hb] at h
  exact spelled_of_overlayEntries es hb h

/-! ## All sources -/

theorem merge?_eq_ok {after : Entries} :
    merge? base es = .ok after ↔ anyOverlongKey es = false ∧ after = merge base es := by
  unfold merge?
  cases anyOverlongKey es <;> simp [eq_comm]

/-- What is loaded when there is a file with a mapping. -/
theorem load_eq_ok {sources : Sources} {given result : Entries}
    (hfile : sources.file.read sources.path = .ok (.mapping given)) :
    load sources = .ok result ↔
      anyOverlongKey given = false ∧ anyOverlongKey sources.arguments = false ∧
        ∃ environment, ofVariables sources.start sources.environment = .ok environment ∧
          result = merge (merge (merge [] given) environment) sources.arguments := by
  have hread : ∀ file, ofFile sources.path sources.file = .ok file ↔
      anyOverlongKey given = false ∧ file = merge [] given := by
    intro file
    rw [← merge?_eq_ok]
    unfold ofFile
    rw [hfile]
    rfl
  unfold load
  simp only [bind_eq_ok, hread, merge?_eq_ok]
  constructor
  · rintro ⟨_, ⟨hgiven, rfl⟩, environment, henvironment, _, ⟨-, rfl⟩, harguments, rfl⟩
    exact ⟨hgiven, harguments, environment, henvironment, rfl⟩
  · rintro ⟨hgiven, harguments, environment, henvironment, rfl⟩
    have hkeyed := anyOverlongKey_of_keyed environment (areKeyed_ofVariables henvironment)
    exact ⟨_, ⟨hgiven, rfl⟩, environment, henvironment, _, ⟨hkeyed, rfl⟩, harguments, rfl⟩

/-- **Merged configuration has text keys only.** Let a file hold a mapping, with keys of any kind at
any depth, and let the command line give another. Loading succeeds unless a key has no text or the
variables cannot be read. In what is loaded all mappings reached through mappings have text keys,
each once; every key is the text of one that a source has at this place; and a key holds what the
entries with its text, of all sources and in their order, have laid upon nothing by the rule of two
sources, as it does wherever two mappings are merged. Laying the same once more changes nothing. -/
theorem load_textKeys {sources : Sources} {given : Entries}
    (hfile : sources.file.read sources.path = .ok (.mapping given)) :
    (∀ result, load sources = .ok result ↔
      anyOverlongKey given = false ∧ anyOverlongKey sources.arguments = false ∧
        ∃ environment, ofVariables sources.start sources.environment = .ok environment ∧
          result = merge (merge (merge [] given) environment) sources.arguments) ∧
    (∀ result environment, load sources = .ok result →
      ofVariables sources.start sources.environment = .ok environment →
      areKeyed result = true ∧
      (∀ step path, (Value.mapping result).at? (step :: path) ≠ none →
        Spelled given (step :: path) ∨ Spelled environment (step :: path) ∨
          Spelled sources.arguments (step :: path)) ∧
      ∀ key, result.get? key = laid none
        (valuesOf key given ++ valuesOf key environment ++ valuesOf key sources.arguments)) ∧
    (∀ (lower higher : Entries) (key : String), areKeyed lower = true →
      (merge lower higher).get? key = laid (lower.get? key) (valuesOf key higher)) ∧
    ∀ lower higher after : Entries, merge? lower higher = .ok after →
      merge? after higher = .ok after := by
  refine ⟨fun result => load_eq_ok hfile, ?_, fun lower higher key h =>
    get?_merge_eq_laid h higher key, ?_⟩
  · intro result environment hload henvironment
    obtain ⟨-, -, _, henvironment', rfl⟩ := (load_eq_ok hfile).1 hload
    cases henvironment.symm.trans henvironment'
    have hnil : areKeyed [] = true := rfl
    have hgiven := areKeyed_merge hnil given
    have hboth := areKeyed_merge hgiven environment
    refine ⟨areKeyed_merge hboth sources.arguments, ?_, ?_⟩
    · intro step path h
      rcases spelled_of_merge hboth h with h | h
      · exact .inr (.inr h)
      · rcases spelled_of_merge hgiven h with h | h
        · exact .inr (.inl h)
        · rcases spelled_of_merge hnil h with h | h
          · exact .inl h
          · exact absurd rfl h
    · intro key
      rw [get?_merge_eq_laid hboth, get?_merge_eq_laid hgiven, get?_merge_eq_laid hnil,
        laid_append, laid_append, Entries.get?_nil]
  · intro lower higher after h
    obtain ⟨hhigher, rfl⟩ := merge?_eq_ok.1 h
    exact merge?_eq_ok.2 ⟨hhigher, (merge_merge_self lower higher).symm⟩

/-- A truth value and its word are one key, and so is what is below them. -/
theorem load_textKeys_worded :
    let given : Entries := [
      (.bool true, .mapping [(.null, .int 2), (.text "x", .int 3)]),
      (.text "True", .mapping [(.text "None", .mapping [(.bool false, .int 4)])])]
    let sources : Sources := {
      file := .value (.mapping given)
      environment := [("STOWAGE_Y", "7")]
      arguments := [(.bool true, .mapping [(.text "x", .int 5)]), (.text "y", .int 6)] }
    let result : Entries := [
      (.text "True", .mapping [
        (.text "None", .mapping [(.text "False", .int 4)]), (.text "x", .int 5)]),
      (.text "y", .int 6)]
    sources.file.read sources.path = .ok (.mapping given) ∧ load sources = .ok result ∧
      areKeyed result = true ∧
      laid none [.mapping [(.null, .int 2), (.text "x", .int 3)],
        .mapping [(.text "None", .mapping [(.bool false, .int 4)])],
        .mapping [(.text "x", .int 5)]] = result.get? "True" ∧
      merge? result sources.arguments = .ok result := by
  intro given sources result
  have hfile : sources.file.read sources.path = .ok (.mapping given) := rfl
  have henvironment : ofVariables standardPrefix [("STOWAGE_Y", "7")] =
      .ok [(.text "y", .int 7)] := rfl
  have hmerge : result = merge (merge (merge [] given) [(.text "y", .int 7)]) sources.arguments := by
    have htrue : (Value.bool true).display = "True" := rfl
    have hfalse : (Value.bool false).display = "False" := rfl
    have hnull : Value.null.display = "None" := rfl
    have htext (s : String) : (Value.text s).display = s := rfl
    simp [result, given, sources, merge, textKeys, overlayEntries, overlay, entriesOf,
      Entries.put_cons, Entries.get?_cons, Value.text?, htrue, hfalse, hnull, htext]
  obtain ⟨hload, hkeys, -, hagain⟩ := @load_textKeys sources given hfile
  have hresult : load sources = .ok result :=
    (hload result).2 ⟨rfl, rfl, _, henvironment, hmerge⟩
  obtain ⟨hkeyed, -, hlaid⟩ := hkeys result _ hresult henvironment
  refine ⟨hfile, hresult, hkeyed, (hlaid "True").symm, ?_⟩
  apply hagain (merge (merge [] given) [(.text "y", .int 7)])
  exact merge?_eq_ok.2 ⟨rfl, hmerge⟩

end Stowage.Config
