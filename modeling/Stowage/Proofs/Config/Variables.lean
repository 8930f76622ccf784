import Stowage.Proofs.Config.Precedence

/-!
What environment variables set, and how far their order matters.

A variable sets one path. Afterwards the path holds the value of the variable, the paths that lead
to it hold mappings, and all paths apart from it hold what they held before (`at?_setPath_append`,
`at?_setPath_of_lt`, `at?_setPath_of_apart`). So the last variable to set a path decides about it,
and where no two variables meet on one path, their order shows in nothing but the order of keys:
`ofVariables_order`.
-/

namespace Stowage.Config

variable {es : Entries} {v : Value} {path other : List String} {start : String}

/-! ## Paths -/

/-- Neither path leads on from the other. -/
def Apart (path other : List String) : Prop := ¬ path <+: other ∧ ¬ other <+: path

theorem Apart.symm (h : Apart path other) : Apart other path := ⟨h.2, h.1⟩

theorem Apart.of_cons {step : String} (h : Apart (step :: path) (step :: other)) :
    Apart path other :=
  ⟨fun hp => h.1 (List.cons_prefix_cons.2 ⟨rfl, hp⟩),
    fun hp => h.2 (List.cons_prefix_cons.2 ⟨rfl, hp⟩)⟩

/-- Paths apart from each other stay so when one of them leads on. -/
theorem Apart.of_prefix {longer : List String} (h : Apart path other) (hp : other <+: longer) :
    Apart path longer := by
  refine ⟨fun hlonger => ?_, fun hlonger => h.2 (hp.trans hlonger)⟩
  rcases List.prefix_or_prefix_of_prefix hlonger hp with hle | hle
  · exact h.1 hle
  · exact h.2 hle

/-! ## Setting one path -/

/-- What the first step of a path that is set leads to. -/
def placed (v : Value) (before : Option Value) : List String → Value
  | [] => v
  | path => .mapping (setPath v (entriesOf before) path)

theorem setPath_cons (v : Value) (es : Entries) (step : String) (path : List String) :
    setPath v es (step :: path) = es.put (.text step) (placed v (es.get? step) path) := by
  cases path <;> rfl

/-- What a path leads to once another one is set. -/
theorem at?_setPath_cons (v : Value) (es : Entries) (step key : String) (path rest : List String) :
    (Value.mapping (setPath v es (step :: path))).at? (key :: rest) =
      if key = step then (placed v (es.get? step) path).at? rest
      else (Value.mapping es).at? (key :: rest) := by
  change ((setPath v es (step :: path)).get? key).bind _ = _
  rw [setPath_cons, Entries.get?_put]
  by_cases hkey : key = step
  · rw [if_pos hkey, if_pos hkey]
    rfl
  · rw [if_neg hkey, if_neg hkey]
    rfl

/-- At the path that is set, and below it, is the value. -/
theorem at?_setPath_append (hne : path ≠ []) (v : Value) (es : Entries) (rest : List String) :
    (Value.mapping (setPath v es path)).at? (path ++ rest) = v.at? rest := by
  induction path generalizing es with
  | nil => exact absurd rfl hne
  | cons step path ih =>
    rw [List.cons_append, at?_setPath_cons, if_pos rfl]
    cases path with
    | nil => rfl
    | cons next path => exact ih (List.cons_ne_nil next path) _

/-- The paths that lead to the one that is set hold mappings. -/
theorem at?_setPath_of_lt (v : Value) (es : Entries) (hp : other <+: path) (hne : other ≠ path) :
    ∃ inner, (Value.mapping (setPath v es path)).at? other = some (.mapping inner) := by
  induction path generalizing es other with
  | nil => exact absurd (List.prefix_nil.1 hp) hne
  | cons step path ih =>
    cases other with
    | nil => exact ⟨_, Value.at?_nil _⟩
    | cons key rest =>
      obtain ⟨rfl, hrest⟩ := List.cons_prefix_cons.1 hp
      have hlt : rest ≠ path := fun heq => hne (congrArg (key :: ·) heq)
      rw [at?_setPath_cons, if_pos rfl]
      cases path with
      | nil => exact absurd (List.prefix_nil.1 hrest) hlt
      | cons next path => exact ih _ hrest hlt

/-- Paths apart from the one that is set hold what they held before. -/
theorem at?_setPath_of_apart (v : Value) (es : Entries) (h : Apart path other) :
    (Value.mapping (setPath v es path)).at? other = (Value.mapping es).at? other := by
  induction path generalizing es other with
  | nil => exact absurd List.nil_prefix h.1
  | cons step path ih =>
    cases other with
    | nil => exact absurd List.nil_prefix h.2
    | cons key rest =>
      rw [at?_setPath_cons]
      by_cases hkey : key = step
      · subst hkey
        have hrest : Apart path rest := h.of_cons
        rw [if_pos rfl]
        cases path with
        | nil => exact absurd List.nil_prefix hrest.1
        | cons next path =>
          change (Value.mapping (setPath v (entriesOf (es.get? key)) (next :: path))).at? rest = _
          rw [ih _ hrest]
          -- what is no mapping gives way to one, but leads to nothing either
          cases rest with
          | nil => exact absurd List.nil_prefix hrest.2
          | cons last rest => exact at?_cons_entriesOf (es.get? key) last rest
      · rw [if_neg hkey]

theorem at?_singleton (es : Entries) (key : String) :
    (Value.mapping es).at? [key] = es.get? key := by
  change (es.get? key).bind (fun w => w.at? []) = es.get? key
  simp

/-- What a path holds once another one is set depends on nothing but what it held before. -/
theorem at?_setPath_congr (v : Value) (path : List String) {es' : Entries}
    (h : (Value.mapping es).at? other = (Value.mapping es').at? other) :
    (Value.mapping (setPath v es path)).at? other =
      (Value.mapping (setPath v es' path)).at? other := by
  induction path generalizing es es' other with
  | nil => exact h
  | cons step path ih =>
    cases other with
    | nil =>
      rw [Value.at?_nil, Value.at?_nil] at h
      cases h
      rfl
    | cons key rest =>
      rw [at?_setPath_cons, at?_setPath_cons]
      by_cases hkey : key = step
      · subst hkey
        rw [if_pos rfl, if_pos rfl]
        cases path with
        | nil => rfl
        | cons next path =>
          change (Value.mapping (setPath v (entriesOf (es.get? key)) (next :: path))).at? rest =
            (Value.mapping (setPath v (entriesOf (es'.get? key)) (next :: path))).at? rest
          apply ih
          cases rest with
          | nil =>
            rw [at?_singleton, at?_singleton] at h
            rw [h]
          | cons last rest =>
            have hbelow : ∀ es : Entries,
                (Value.mapping (entriesOf (es.get? key))).at? (last :: rest) =
                  (Value.mapping es).at? (key :: last :: rest) :=
              fun es => at?_cons_entriesOf (es.get? key) last rest
            rw [hbelow, hbelow, h]
      · rw [if_neg hkey, if_neg hkey, h]

/-! ## Setting one path after the other -/

/-- The path and the value that a variable sets, if it matters and its text has a value. -/
def setting? (start : String) (entry : String × String) : Option (List String × Value) :=
  (variablePath? start entry.1).bind fun path => (coerce entry.2).toOption.map (path, ·)

theorem setting?_eq_some {entry : String × String} : setting? start entry = some (path, v) ↔
    variablePath? start entry.1 = some path ∧ coerce entry.2 = .ok v := by
  unfold setting?
  cases variablePath? start entry.1 with
  | none => simp
  | some p => cases coerce entry.2 <;> simp [Except.toOption]

/-- The path of a variable has a step. -/
theorem ne_nil_of_variablePath? {name : String} (h : variablePath? start name = some path) :
    path ≠ [] := by
  unfold variablePath? at h
  split at h
  · cases h
  · split at h
    · cases h
    · rename_i hne
      cases h
      exact hne

/-- A variable that can be set is one that does not matter, or sets its path. -/
theorem setVariable_eq_ok {entry : String × String} {after : Entries} :
    setVariable start es entry = .ok after ↔
      variablePath? start entry.1 = none ∧ after = es ∨
        ∃ path v, setting? start entry = some (path, v) ∧ after = setPath v es path := by
  simp only [setting?_eq_some]
  unfold setVariable
  cases variablePath? start entry.1 with
  | none => simp [eq_comm]
  | some path =>
    cases coerce entry.2 with
    | error f => simp [Except.map]
    | ok v =>
      simp only [Except.map, Except.ok.injEq, Option.some.injEq, reduceCtorEq, false_and, false_or]
      constructor
      · rintro rfl
        exact ⟨path, v, ⟨rfl, rfl⟩, rfl⟩
      · rintro ⟨_, _, ⟨rfl, rfl⟩, rfl⟩
        rfl

/-- Variables can be set unless the text of one that matters has no value. -/
theorem foldlM_setVariable_isOk (environment : List (String × String)) (es : Entries) :
    (∃ after, environment.foldlM (setVariable start) es = .ok after) ↔
      ∀ entry ∈ environment, ∀ path, variablePath? start entry.1 = some path →
        ∃ v, coerce entry.2 = .ok v := by
  induction environment generalizing es with
  | nil => exact iff_of_true ⟨es, rfl⟩ (List.forall_mem_nil _)
  | cons entry r ih =>
    rw [List.forall_mem_cons, List.foldlM_cons]
    constructor
    · rintro ⟨after, hafter⟩
      obtain ⟨first, hfirst, hr⟩ := bind_eq_ok.1 hafter
      refine ⟨fun path hpath => ?_, (ih first).1 ⟨after, hr⟩⟩
      rcases setVariable_eq_ok.1 hfirst with ⟨hnone, -⟩ | ⟨_, v, hset, -⟩
      · cases hnone.symm.trans hpath
      · exact ⟨v, (setting?_eq_some.1 hset).2⟩
    · rintro ⟨hentry, hr⟩
      have hfirst : ∃ first, setVariable start es entry = .ok first := by
        cases hpath : variablePath? start entry.1 with
        | none => exact ⟨es, setVariable_eq_ok.2 (.inl ⟨hpath, rfl⟩)⟩
        | some path =>
          obtain ⟨v, hv⟩ := hentry path hpath
          exact ⟨_, setVariable_eq_ok.2 (.inr ⟨path, v, setting?_eq_some.2 ⟨hpath, hv⟩, rfl⟩)⟩
      obtain ⟨first, hfirst⟩ := hfirst
      obtain ⟨after, hafter⟩ := (ih first).2 hr
      exact ⟨after, bind_eq_ok.2 ⟨first, hfirst, hafter⟩⟩

/-- Variables that do not matter may as well not be there. -/
theorem foldlM_setVariable_filter (environment : List (String × String)) (es : Entries) :
    (environment.filter fun entry => (variablePath? start entry.1).isSome).foldlM
      (setVariable start) es = environment.foldlM (setVariable start) es := by
  induction environment generalizing es with
  | nil => rfl
  | cons entry r ih =>
    cases hpath : variablePath? start entry.1 with
    | none =>
      have hsame : setVariable start es entry = .ok es := setVariable_eq_ok.2 (.inl ⟨hpath, rfl⟩)
      rw [List.filter_cons_of_neg (by simp [hpath]), List.foldlM_cons, hsame, ih]
      rfl
    | some path =>
      rw [List.filter_cons_of_pos (by simp [hpath]), List.foldlM_cons, List.foldlM_cons]
      exact congrArg _ (funext ih)

/-- A path stays as it is while variables are set that are apart from it. -/
theorem at?_of_apart {later : List (String × String)} {after : Entries}
    (hset : later.foldlM (setVariable start) es = .ok after)
    (h : ∀ entry ∈ later, ∀ other, variablePath? start entry.1 = some other → Apart path other) :
    (Value.mapping after).at? path = (Value.mapping es).at? path := by
  induction later generalizing es with
  | nil =>
    cases hset
    rfl
  | cons entry r ih =>
    obtain ⟨hentry, hr⟩ := List.forall_mem_cons.1 h
    rw [List.foldlM_cons] at hset
    obtain ⟨first, hfirst, hlater⟩ := bind_eq_ok.1 hset
    rw [ih hlater hr]
    rcases setVariable_eq_ok.1 hfirst with ⟨-, rfl⟩ | ⟨other, v, hother, rfl⟩
    · rfl
    · exact at?_setPath_of_apart v es (hentry other (setting?_eq_some.1 hother).1).symm

/-- What a path holds after variables are set depends on nothing but what it held before. -/
theorem at?_foldlM_congr {later : List (String × String)} {es' after after' : Entries}
    (hset : later.foldlM (setVariable start) es = .ok after)
    (hset' : later.foldlM (setVariable start) es' = .ok after')
    (h : (Value.mapping es).at? other = (Value.mapping es').at? other) :
    (Value.mapping after).at? other = (Value.mapping after').at? other := by
  induction later generalizing es es' with
  | nil =>
    cases hset
    cases hset'
    exact h
  | cons entry r ih =>
    rw [List.foldlM_cons] at hset hset'
    obtain ⟨first, hfirst, hr⟩ := bind_eq_ok.1 hset
    obtain ⟨first', hfirst', hr'⟩ := bind_eq_ok.1 hset'
    refine ih hr hr' ?_
    rcases setVariable_eq_ok.1 hfirst with ⟨hnone, rfl⟩ | ⟨path, v, hsome, rfl⟩
    · rcases setVariable_eq_ok.1 hfirst' with ⟨-, rfl⟩ | ⟨path, v, hsome, -⟩
      · exact h
      · cases hnone.symm.trans (setting?_eq_some.1 hsome).1
    · rcases setVariable_eq_ok.1 hfirst' with ⟨hnone, -⟩ | ⟨path', v', hsome', rfl⟩
      · cases hnone.symm.trans (setting?_eq_some.1 hsome).1
      · cases hsome.symm.trans hsome'
        exact at?_setPath_congr v path h

/-- A variable's path holds its value if all variables after it are apart from it. -/
theorem at?_ofVariables {before later : List (String × String)} {entry : String × String}
    (hes : ofVariables start (before ++ entry :: later) = .ok es)
    (hpath : variablePath? start entry.1 = some path)
    (h : ∀ e ∈ later, ∀ other, variablePath? start e.1 = some other → Apart path other) :
    ∃ v, coerce entry.2 = .ok v ∧ (Value.mapping es).at? path = some v := by
  unfold ofVariables at hes
  rw [List.foldlM_append] at hes
  obtain ⟨earlier, -, hes⟩ := bind_eq_ok.1 hes
  rw [List.foldlM_cons] at hes
  obtain ⟨first, hfirst, hes⟩ := bind_eq_ok.1 hes
  rcases setVariable_eq_ok.1 hfirst with ⟨hnone, -⟩ | ⟨other, v, hset, rfl⟩
  · cases hnone.symm.trans hpath
  · obtain ⟨hother, hv⟩ := setting?_eq_some.1 hset
    cases hother.symm.trans hpath
    have hplaced := at?_setPath_append (ne_nil_of_variablePath? hpath) v earlier []
    rw [List.append_nil, Value.at?_nil] at hplaced
    exact ⟨v, hv, (at?_of_apart hes h).trans hplaced⟩

/-- A variable makes no difference to paths apart from its own. -/
theorem at?_ofVariables_of_apart {before later : List (String × String)} {entry : String × String}
    (hes : ofVariables start (before ++ entry :: later) = .ok es)
    (hpath : variablePath? start entry.1 = some path) :
    ∃ without, ofVariables start (before ++ later) = .ok without ∧ ∀ other, Apart path other →
      (Value.mapping es).at? other = (Value.mapping without).at? other := by
  unfold ofVariables at hes ⊢
  rw [List.foldlM_append] at hes ⊢
  obtain ⟨earlier, hearlier, hes⟩ := bind_eq_ok.1 hes
  rw [List.foldlM_cons] at hes
  obtain ⟨first, hfirst, hes⟩ := bind_eq_ok.1 hes
  have hvalues := (foldlM_setVariable_isOk later first).1 ⟨es, hes⟩
  obtain ⟨without, hwithout⟩ := (foldlM_setVariable_isOk later earlier).2 hvalues
  refine ⟨without, bind_eq_ok.2 ⟨earlier, hearlier, hwithout⟩, fun other hother => ?_⟩
  refine at?_foldlM_congr hes hwithout ?_
  rcases setVariable_eq_ok.1 hfirst with ⟨-, rfl⟩ | ⟨set, v, hset, rfl⟩
  · rfl
  · cases hpath.symm.trans (setting?_eq_some.1 hset).1
    exact at?_setPath_of_apart v earlier hother

/-! ## Paths that are apart from each other -/

/-- A mapping holds what is set, the mappings that lead there, and nothing else. -/
structure Holds (es : Entries) (settings : List (List String × Value)) : Prop where
  set {path : List String} {v : Value} : (path, v) ∈ settings → ∀ rest,
    (Value.mapping es).at? (path ++ rest) = v.at? rest
  between {path other : List String} {v : Value} : (path, v) ∈ settings → other <+: path →
    other ≠ path → ∃ inner, (Value.mapping es).at? other = some (.mapping inner)
  only {other : List String} : other ≠ [] → (Value.mapping es).at? other ≠ none →
    ∃ path v, (path, v) ∈ settings ∧ (path <+: other ∨ other <+: path)

namespace Holds

variable {settings more : List (List String × Value)}

theorem nil : Holds [] [] where
  set h := (List.not_mem_nil h).elim
  between h := (List.not_mem_nil h).elim
  only {other} hne hsome := by
    cases other with
    | nil => exact absurd rfl hne
    | cons key rest => exact absurd rfl hsome

/-- What is set counts, not in which order. -/
theorem of_perm (h : Holds es settings) (hp : settings.Perm more) : Holds es more where
  set hmem := h.set (hp.mem_iff.2 hmem)
  between hmem := h.between (hp.mem_iff.2 hmem)
  only hne hsome := by
    obtain ⟨path, v, hmem, hends⟩ := h.only hne hsome
    exact ⟨path, v, hp.mem_iff.1 hmem, hends⟩

/-- One more path is set, apart from all others. -/
theorem setPath (h : Holds es settings) (hne : path ≠ [])
    (hapart : ∀ s ∈ settings, Apart s.1 path) (v : Value) :
    Holds (setPath v es path) (settings ++ [(path, v)]) where
  set {other w} hmem rest := by
    rcases List.mem_append.1 hmem with hmem | hmem
    · have hother : Apart path (other ++ rest) :=
        (hapart _ hmem).symm.of_prefix (List.prefix_append other rest)
      rw [at?_setPath_of_apart v es hother]
      exact h.set hmem rest
    · cases List.mem_singleton.1 hmem
      exact at?_setPath_append hne v es rest
  between {other first w} hmem hp hlt := by
    rcases List.mem_append.1 hmem with hold | hmem
    · by_cases hfirst : first <+: path
      · -- it leads to the new path too
        refine at?_setPath_of_lt v es hfirst ?_
        rintro rfl
        exact (hapart (other, w) hold).2 hp
      · have hother : Apart path first :=
          ⟨fun hpath => (hapart (other, w) hold).2 (hpath.trans hp), hfirst⟩
        rw [at?_setPath_of_apart v es hother]
        exact h.between hold hp hlt
    · cases List.mem_singleton.1 hmem
      exact at?_setPath_of_lt v es hp hlt
  only {other} hother hsome := by
    have hnew : (path, v) ∈ settings ++ [(path, v)] :=
      List.mem_append_right _ List.mem_cons_self
    by_cases hends : path <+: other ∨ other <+: path
    · exact ⟨path, v, hnew, hends⟩
    · rw [at?_setPath_of_apart v es (not_or.1 hends)] at hsome
      obtain ⟨p, w, hmem, hends⟩ := h.only hother hsome
      exact ⟨p, w, List.mem_append_left _ hmem, hends⟩

/-- Variables that are apart from each other, and from what is set already, are set. -/
theorem foldlM {environment : List (String × String)} {after : Entries} (h : Holds es settings)
    (hset : environment.foldlM (setVariable start) es = .ok after)
    (hnew : ∀ s ∈ settings, ∀ t ∈ environment.filterMap (setting? start), Apart s.1 t.1)
    (hapart : (environment.filterMap (setting? start)).Pairwise fun s t => Apart s.1 t.1) :
    Holds after (settings ++ environment.filterMap (setting? start)) := by
  induction environment generalizing es settings with
  | nil =>
    cases hset
    rw [List.filterMap_nil, List.append_nil]
    exact h
  | cons entry r ih =>
    rw [List.foldlM_cons] at hset
    obtain ⟨first, hfirst, hr⟩ := bind_eq_ok.1 hset
    rcases setVariable_eq_ok.1 hfirst with ⟨hnone, rfl⟩ | ⟨path, v, hsome, rfl⟩
    · have hskip : setting? start entry = none := by
        unfold setting?
        rw [hnone]
        rfl
      rw [List.filterMap_cons_none hskip] at hnew hapart ⊢
      exact ih h hr hnew hapart
    · rw [List.filterMap_cons_some hsome] at hnew hapart ⊢
      obtain ⟨hhead, htail⟩ := List.pairwise_cons.1 hapart
      have hpath : path ≠ [] := ne_nil_of_variablePath? (setting?_eq_some.1 hsome).1
      have hone : Holds (Config.setPath v es path) (settings ++ [(path, v)]) :=
        h.setPath hpath (fun s hs => hnew s hs _ List.mem_cons_self) v
      rw [List.append_cons]
      refine ih hone hr (fun s hs t ht => ?_) htail
      rcases List.mem_append.1 hs with hs | hs
      · exact hnew s hs t (List.mem_cons_of_mem _ ht)
      · cases List.mem_singleton.1 hs
        exact hhead t ht

end Holds

/-- The value, unless it is a mapping. -/
def leaf? (v : Value) : Option Value := if v.isMapping then none else some v

/-- The same mapping but for the order of keys: every path leads to the same leaf in both, to a
mapping in both, or to nothing in both. -/
def Alike (es after : Entries) : Prop :=
  ∀ path, ((Value.mapping es).at? path).map leaf? = ((Value.mapping after).at? path).map leaf?

/-- Mappings that hold what is set and nothing else are the same. -/
theorem Holds.alike {after : Entries} {settings : List (List String × Value)}
    (h : Holds es settings) (hafter : Holds after settings) : Alike es after := by
  intro other
  by_cases hroot : other = []
  · subst hroot
    rw [Value.at?_nil, Value.at?_nil]
    rfl
  by_cases hends : ∃ path v, (path, v) ∈ settings ∧ (path <+: other ∨ other <+: path)
  · obtain ⟨path, v, hmem, hends⟩ := hends
    by_cases hbelow : path <+: other
    · obtain ⟨rest, rfl⟩ := hbelow
      rw [h.set hmem, hafter.set hmem]
    · have hp : other <+: path := hends.resolve_left hbelow
      have hlt : other ≠ path := by
        rintro rfl
        exact hbelow (List.prefix_refl _)
      obtain ⟨inner, hinner⟩ := h.between hmem hp hlt
      obtain ⟨inner', hinner'⟩ := hafter.between hmem hp hlt
      rw [hinner, hinner']
      rfl
  · have hnone : ∀ {es}, Holds es settings → (Value.mapping es).at? other = none :=
      fun hes => Decidable.not_not.1 fun hsome => hends (hes.only hroot hsome)
    rw [hnone h, hnone hafter]

/-! ## The main statement -/

/-- Variables whose paths, where they matter, are apart from each other. -/
def AllApart (start : String) (environment : List (String × String)) : Prop :=
  environment.Pairwise fun entry entry' => ∀ path path', variablePath? start entry.1 = some path →
    variablePath? start entry'.1 = some path' → Apart path path'

theorem AllApart.settings {environment : List (String × String)} (h : AllApart start environment) :
    (environment.filterMap (setting? start)).Pairwise fun s t => Apart s.1 t.1 := by
  rw [List.pairwise_filterMap]
  refine h.imp fun {entry entry'} hapart s hs t ht => ?_
  exact hapart s.1 t.1 (setting?_eq_some.1 hs).1 (setting?_eq_some.1 ht).1

/-- **The last variable to set a path decides, and otherwise order does not matter.** Of any
variables, in any order, those that set no path do not count, and all can be set unless the text of
one that counts has no value. Then all keys are text, each there once, so that paths reach
everything, and

- a path holds exactly the value of the variable that sets it, unless a later one sets the same path,
  one that leads on from it, or one that leads to it;
- if no two variables meet in this way, the paths they set hold their values, and there is nothing
  else but the mappings that lead there; and in any other order they set the same, but for the order
  of keys. -/
theorem ofVariables_order (start : String) (environment : List (String × String)) :
    ofVariables start environment = ofVariables start
        (environment.filter fun entry => (variablePath? start entry.1).isSome) ∧
      ((∃ es, ofVariables start environment = .ok es) ↔ ∀ entry ∈ environment, ∀ path,
        variablePath? start entry.1 = some path → ∃ v, coerce entry.2 = .ok v) ∧
      ∀ es, ofVariables start environment = .ok es → areKeyed es = true ∧
        (∀ before entry later path, environment = before ++ entry :: later →
          variablePath? start entry.1 = some path →
          (∀ e ∈ later, ∀ other, variablePath? start e.1 = some other → Apart path other) →
          ∃ v, coerce entry.2 = .ok v ∧ (Value.mapping es).at? path = some v) ∧
        (AllApart start environment →
          Holds es (environment.filterMap (setting? start)) ∧
          ∀ reordered, environment.Perm reordered →
            ∃ es', ofVariables start reordered = .ok es' ∧ Alike es es') := by
  refine ⟨(foldlM_setVariable_filter environment []).symm, foldlM_setVariable_isOk environment [],
    fun es hes => ⟨areKeyed_ofVariables hes, ?_, fun hapart => ?_⟩⟩
  · rintro before entry later path rfl hpath hlater
    exact at?_ofVariables hes hpath hlater
  · have hholds {environment : List (String × String)} {es : Entries}
        (hapart : AllApart start environment) (hes : ofVariables start environment = .ok es) :
        Holds es (environment.filterMap (setting? start)) :=
      Holds.nil.foldlM hes (List.forall_mem_nil _) hapart.settings
    refine ⟨hholds hapart hes, fun reordered hp => ?_⟩
    have hvalues : ∀ entry ∈ reordered, ∀ path, variablePath? start entry.1 = some path →
        ∃ v, coerce entry.2 = .ok v := fun entry hmem =>
      (foldlM_setVariable_isOk environment []).1 ⟨es, hes⟩ entry (hp.mem_iff.2 hmem)
    obtain ⟨es', hes'⟩ := (foldlM_setVariable_isOk reordered []).2 hvalues
    have hapart' : AllApart start reordered :=
      hp.pairwise hapart fun {entry entry'} h path path' hpath hpath' =>
        (h path' path hpath' hpath).symm
    exact ⟨es', hes', ((hholds hapart hes).of_perm (hp.filterMap _)).alike (hholds hapart' hes')⟩

/-- A variable adds to the document that another one has set, and two variables below one path set
the same in either order. -/
theorem ofVariables_order_nested :
    let nested := [
      ("STOWAGE_A", "\x7b\"x\": 1\x7d"), ("PATH", "9"), ("STOWAGE_A__B", "2"), ("STOWAGE_C", "")]
    let beside := [("STOWAGE_A__B", "\x7b\"x\": 1\x7d"), ("STOWAGE_A__C", "7")]
    (∃ es, ofVariables standardPrefix nested = .ok es ∧
      (Value.mapping es).at? ["a", "b"] = some (.int 2)) ∧
    AllApart standardPrefix beside ∧
    ∃ es es', ofVariables standardPrefix beside = .ok es ∧
      ofVariables standardPrefix beside.reverse = .ok es' ∧ Alike es es' := by
  intro nested beside
  have hread : (coerce "\x7b\"x\": 1\x7d").toOption.isSome = true := by decide +kernel
  obtain ⟨object, hobject⟩ := Option.isSome_iff_exists.1 hread
  have hb : variablePath? standardPrefix "STOWAGE_A__B" = some ["a", "b"] := by decide
  obtain ⟨-, hset, horder⟩ := ofVariables_order standardPrefix nested
  obtain ⟨-, hset', horder'⟩ := ofVariables_order standardPrefix beside
  have hapart : AllApart standardPrefix beside := by
    refine List.pairwise_pair.2 fun path path' hpath hpath' => ?_
    have hc : variablePath? standardPrefix "STOWAGE_A__C" = some ["a", "c"] := by decide
    cases hb.symm.trans hpath
    cases hc.symm.trans hpath'
    exact ⟨by decide, by decide⟩
  have hlater : ∀ e ∈ [("STOWAGE_C", "")], ∀ other,
      variablePath? standardPrefix e.1 = some other → Apart ["a", "b"] other := by
    refine List.forall_mem_singleton.2 fun other hother => ?_
    have hc : variablePath? standardPrefix "STOWAGE_C" = some ["c"] := by decide
    cases hc.symm.trans hother
    exact ⟨by decide, by decide⟩
  have hvalues : ∀ e ∈ nested, ∃ v, coerce e.2 = .ok v := by
    simp only [nested, List.forall_mem_cons]
    exact ⟨⟨object, eq_ok_of_toOption hobject⟩, ⟨.int 9, rfl⟩, ⟨.int 2, rfl⟩, ⟨.text "", rfl⟩,
      List.forall_mem_nil _⟩
  have hvalues' : ∀ e ∈ beside, ∃ v, coerce e.2 = .ok v :=
    List.forall_mem_cons.2 ⟨⟨object, eq_ok_of_toOption hobject⟩,
      List.forall_mem_singleton.2 ⟨.int 7, rfl⟩⟩
  obtain ⟨es, hes⟩ := hset.2 fun e he _ _ => hvalues e he
  obtain ⟨es', hes'⟩ := hset'.2 fun e he _ _ => hvalues' e he
  refine ⟨⟨es, hes, ?_⟩, hapart, es', ?_⟩
  · obtain ⟨v, hv, hat⟩ :=
      (horder es hes).2.1 [_, _] ("STOWAGE_A__B", "2") _ ["a", "b"] rfl hb hlater
    have htwo : coerce "2" = .ok (.int 2) := rfl
    cases htwo.symm.trans hv
    exact hat
  · obtain ⟨es'', hes'', halike⟩ :=
      ((horder' es' hes').2.2 hapart).2 beside.reverse (List.reverse_perm beside).symm
    exact ⟨es'', hes', hes'', halike⟩

end Stowage.Config
