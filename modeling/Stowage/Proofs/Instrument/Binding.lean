import Stowage.Instrument.Rehearsal
import Stowage.Proofs.Instrument.Transparent
import Stowage.Proofs.Value.Labels

/-!
What a call gives to the parameters of a function, and what it refers to.

A parameter is given a value at its place or by its name (`Signature.Gives`). What a call refers to
depends on the values that are given and not on how they are, and where the arguments do not match
the parameters it refers to nothing (`Signature.references_iff_given`).
-/

namespace Stowage.Instrument

variable {σ α : Type}

theorem lookup_eq_some_iff_mem {supplied : List (String × Value)}
    (hn : (supplied.map Prod.fst).Nodup) {name : String} {v : Value} :
    supplied.lookup name = some v ↔ (name, v) ∈ supplied := by
  refine ⟨mem_of_lookup, ?_⟩
  induction supplied with
  | nil =>
    intro h
    cases h
  | cons e r ih =>
    obtain ⟨k, w⟩ := e
    rw [List.map_cons, List.nodup_cons] at hn
    intro h
    rcases List.mem_cons.1 h with heq | hr
    · cases heq
      exact List.lookup_cons_self
    · have hne : name ≠ k := by
        rintro rfl
        exact hn.1 (List.mem_map.2 ⟨_, hr, rfl⟩)
      rw [List.lookup_cons, beq_false_of_ne hne]
      exact ih hn.2 hr

/-! ## References -/

/-- The value that a field is supplied with, if it is worth referring to. -/
def worth? (supplied : List (String × Value)) (name : String) : Option Value :=
  (supplied.lookup name).filter isReference

theorem isReference_iff {v : Value} : isReference v = true ↔ v ≠ .null ∧ v.text? ≠ some "" := by
  cases v <;> simp [isReference, Value.text?]

theorem worth?_eq_some {supplied : List (String × Value)} {name : String} {v : Value} :
    worth? supplied name = some v ↔
      supplied.lookup name = some v ∧ v ≠ .null ∧ v.text? ≠ some "" := by
  rw [worth?, Option.filter_eq_some_iff, isReference_iff]

/-- Refer to one more field. -/
def refer (supplied : List (String × Value)) (found : Labels) (name : String) :
    Except Failure Labels :=
  match worth? supplied name with
  | none => .ok found
  | some v => if v.isOverlong then .error .overlongInteger else .ok (found.insert name v.display)

theorem references_eq_foldlM (names : List String) (supplied : List (String × Value)) :
    references names supplied = names.foldlM (refer supplied) {} := by
  have hstep : refer supplied = fun found name =>
      match supplied.lookup name with
      | none => .ok found
      | some v =>
        if !isReference v then .ok found
        else if v.isOverlong then .error .overlongInteger
        else .ok (found.insert name v.display) := by
    funext found name
    unfold refer worth?
    cases supplied.lookup name with
    | none => rfl
    | some v => by_cases hr : isReference v = true <;> simp [Option.filter_some, hr]
  rw [hstep]
  rfl

section

variable {supplied supplied' : List (String × Value)} {found labels : Labels}

/-- What is referred to depends only on what is supplied by each name. -/
theorem references_congr (h : ∀ name, supplied.lookup name = supplied'.lookup name)
    (names : List String) : references names supplied = references names supplied' := by
  unfold references
  simp only [h]

theorem get?_refer {name : String} (h : refer supplied found name = .ok labels) (key : String) :
    labels.get? key =
      if key = name then ((worth? supplied name).map Value.display).or (found.get? name)
      else found.get? key := by
  unfold refer at h
  cases hw : worth? supplied name with
  | none =>
    rw [hw] at h
    cases h
    split
    · next heq => simp [heq]
    · rfl
  | some v =>
    simp only [hw] at h
    split at h
    · cases h
    · cases h
      rw [Labels.get?_insert]
      split <;> rfl

/-- Every field among the names is referred to by the text of the value that it is supplied with. -/
theorem get?_references {names : List String} (h : references names supplied = .ok labels)
    (key : String) :
    labels.get? key = if key ∈ names then (worth? supplied key).map Value.display else none := by
  have hall : ∀ found, names.foldlM (refer supplied) found = .ok labels → labels.get? key =
      (if key ∈ names then (worth? supplied key).map Value.display else none).or
        (found.get? key) := by
    clear h
    induction names with
    | nil =>
      intro found h
      cases h
      simp
    | cons name r ih =>
      intro found h
      rw [List.foldlM_cons] at h
      obtain ⟨after, hfirst, hrest⟩ := bind_eq_ok.1 h
      rw [ih after hrest, get?_refer hfirst]
      by_cases heq : key = name
      · subst heq
        cases worth? supplied key <;> by_cases hr : key ∈ r <;> simp [hr]
      · simp [heq]
  rw [references_eq_foldlM] at h
  rw [hall {} h]
  simp

/-- References can only fail where an integer is too long to be written. -/
theorem references_ok_iff {names : List String} :
    (∃ labels, references names supplied = .ok labels) ↔
      ∀ name ∈ names, ∀ v, worth? supplied name = some v → v.isOverlong = false := by
  have hall : ∀ found, (∃ labels, names.foldlM (refer supplied) found = .ok labels) ↔
      ∀ name ∈ names, ∀ v, worth? supplied name = some v → v.isOverlong = false := by
    induction names with
    | nil =>
      intro found
      simp [pure, Except.pure]
    | cons name r ih =>
      intro found
      have hstep : (∃ after, refer supplied found name = .ok after) ↔
          ∀ v, worth? supplied name = some v → v.isOverlong = false := by
        unfold refer
        cases worth? supplied name with
        | none => simp
        | some v => by_cases ho : v.isOverlong = true <;> simp [ho]
      simp only [List.foldlM_cons, bind_eq_ok, List.forall_mem_cons, ← hstep]
      constructor
      · rintro ⟨labels, after, hfirst, hrest⟩
        exact ⟨⟨after, hfirst⟩, (ih after).1 ⟨labels, hrest⟩⟩
      · rintro ⟨⟨after, hfirst⟩, hrest⟩
        obtain ⟨labels, hlabels⟩ := (ih after).2 hrest
        exact ⟨labels, after, hfirst, hlabels⟩
  rw [references_eq_foldlM]
  exact hall {}

end

/-! ## Binding -/

namespace Signature

variable {sig : Signature} {call : Arguments} {name : String} {v : Value}

/-- A call gives a parameter a value, at its place or by its name. -/
inductive Gives (sig : Signature) (call : Arguments) : String → Value → Prop where
  | place {i : Nat} {p : Parameter} {v : Value} (hp : sig.positional[i]? = some p)
      (hv : call.positional[i]? = some v) : Gives sig call p.name v
  | keyword {p : Parameter} {v : Value} (hp : p ∈ sig.named)
      (hv : (p.name, v) ∈ call.keywords) : Gives sig call p.name v

/-- The arguments of a call match the parameters as far as they go: there is a parameter at every
place and for every keyword, and none that is given at its place is given by its name again. -/
structure Matches (sig : Signature) (call : Arguments) : Prop where
  places : call.positional.length ≤ sig.positional.length
  keywords : ∀ e ∈ call.keywords, ∃ p ∈ sig.named, p.name = e.1
  once : ∀ i p, i < call.positional.length → sig.positional[i]? = some p →
    ∀ e ∈ call.keywords, e.1 ≠ p.name

theorem getElem?_filled (sig : Signature) (call : Arguments) (i : Nat) :
    (sig.filled call)[i]? =
      if i < call.positional.length then sig.positional[i]?.map Parameter.name else none := by
  rw [filled, List.getElem?_map, List.getElem?_take]
  split <;> rfl

theorem mem_filled : name ∈ sig.filled call ↔
    ∃ i p, i < call.positional.length ∧ sig.positional[i]? = some p ∧ p.name = name := by
  rw [List.mem_iff_getElem?]
  simp only [getElem?_filled]
  constructor
  · rintro ⟨i, hi⟩
    split at hi
    · next hlt =>
      obtain ⟨p, hp, hname⟩ := Option.map_eq_some_iff.1 hi
      exact ⟨i, p, hlt, hp, hname⟩
    · cases hi
  · rintro ⟨i, p, hlt, hp, hname⟩
    refine ⟨i, ?_⟩
    simp [hlt, hp, hname]

/-- The values that are given at their places. -/
def byPlace (sig : Signature) (call : Arguments) : List (String × Value) :=
  (sig.filled call).zip call.positional

/-- The values that are given by their names. -/
def byName (sig : Signature) (call : Arguments) : List (String × Value) :=
  sig.named.filterMap fun p => (call.keywords.lookup p.name).map (p.name, ·)

theorem bindPartial?_eq_some {supplied : List (String × Value)} :
    sig.bindPartial? call = some supplied ↔
      sig.Matches call ∧ supplied = sig.byPlace call ++ sig.byName call := by
  have hfits : (call.positional.length ≤ sig.positional.length ∧ ∀ e ∈ call.keywords,
      (∃ p ∈ sig.named, p.name = e.1) ∧ e.1 ∉ sig.filled call) ↔ sig.Matches call := by
    constructor
    · rintro ⟨hplaces, hkeys⟩
      refine ⟨hplaces, fun e he => (hkeys e he).1, ?_⟩
      rintro i p hlt hp e he heq
      exact (hkeys e he).2 (mem_filled.2 ⟨i, p, hlt, hp, heq.symm⟩)
    · intro h
      refine ⟨h.places, fun e he => ⟨h.keywords e he, ?_⟩⟩
      intro hfilled
      obtain ⟨i, p, hlt, hp, hname⟩ := mem_filled.1 hfilled
      exact h.once i p hlt hp e he hname.symm
  rw [← hfits]
  unfold bindPartial?
  simp only [Option.ite_none_right_eq_some, Option.some.injEq, Bool.and_eq_true, decide_eq_true_eq,
    List.all_eq_true, List.any_eq_true, beq_iff_eq, Bool.not_eq_true', List.contains_eq_mem,
    decide_eq_false_iff_not]
  rw [eq_comm (b := supplied)]
  rfl

theorem mem_byPlace : (name, v) ∈ sig.byPlace call ↔
    ∃ (i : Nat) (p : Parameter),
      sig.positional[i]? = some p ∧ call.positional[i]? = some v ∧ p.name = name := by
  rw [byPlace, List.mem_iff_getElem?]
  simp only [List.getElem?_zip_eq_some, getElem?_filled]
  constructor
  · rintro ⟨i, hi, hv⟩
    split at hi
    · obtain ⟨p, hp, hname⟩ := Option.map_eq_some_iff.1 hi
      exact ⟨i, p, hp, hv, hname⟩
    · cases hi
  · rintro ⟨i, p, hp, hv, hname⟩
    obtain ⟨hlt, -⟩ := List.getElem?_eq_some_iff.1 hv
    refine ⟨i, ?_, hv⟩
    simp [hlt, hp, hname]

theorem mem_byName (hcall : (call.keywords.map Prod.fst).Nodup) : (name, v) ∈ sig.byName call ↔
    ∃ p ∈ sig.named, p.name = name ∧ (name, v) ∈ call.keywords := by
  simp only [byName, List.mem_filterMap, Option.map_eq_some_iff, Prod.mk.injEq]
  constructor
  · rintro ⟨p, hp, w, hw, rfl, rfl⟩
    exact ⟨p, hp, rfl, mem_of_lookup hw⟩
  · rintro ⟨p, hp, rfl, hv⟩
    exact ⟨p, hp, v, (lookup_eq_some_iff_mem hcall).2 hv, rfl, rfl⟩

theorem keys_byPlace (h : call.positional.length ≤ sig.positional.length) :
    (sig.byPlace call).map Prod.fst = sig.filled call := by
  apply List.map_fst_zip
  simp [filled, h]

theorem keys_byName (sig : Signature) (call : Arguments) :
    ((sig.byName call).map Prod.fst).Sublist (sig.named.map Parameter.name) := by
  unfold byName
  induction sig.named with
  | nil => exact .slnil
  | cons p r ih =>
    rw [List.filterMap_cons]
    cases call.keywords.lookup p.name with
    | none => exact ih.cons _
    | some v => exact ih.cons_cons _

/-- No parameter is supplied twice. -/
theorem nodup_supplied (hsig : (sig.parameters.map Parameter.name).Nodup)
    (hcall : (call.keywords.map Prod.fst).Nodup) (h : sig.Matches call) :
    ((sig.byPlace call ++ sig.byName call).map Prod.fst).Nodup := by
  rw [List.map_append, List.nodup_append, keys_byPlace h.places]
  refine ⟨?_, ?_, ?_⟩
  · refine List.Sublist.nodup ?_ hsig
    apply List.Sublist.map
    exact (List.take_sublist _ _).trans List.filter_sublist
  · refine List.Sublist.nodup ?_ hsig
    exact (keys_byName sig call).trans (List.filter_sublist.map _)
  · rintro key hplace _ hname rfl
    obtain ⟨i, p, hlt, hp, rfl⟩ := mem_filled.1 hplace
    obtain ⟨⟨_, v⟩, hv, rfl⟩ := List.mem_map.1 hname
    obtain ⟨-, -, -, hgiven⟩ := (mem_byName hcall).1 hv
    exact h.once i p hlt hp _ hgiven rfl

/-- A call supplies what it gives. -/
theorem lookup_supplied (hsig : (sig.parameters.map Parameter.name).Nodup)
    (hcall : (call.keywords.map Prod.fst).Nodup) (h : sig.Matches call) :
    (sig.byPlace call ++ sig.byName call).lookup name = some v ↔ sig.Gives call name v := by
  rw [lookup_eq_some_iff_mem (nodup_supplied hsig hcall h), List.mem_append, mem_byPlace,
    mem_byName hcall]
  constructor
  · rintro (⟨i, p, hp, hv, rfl⟩ | ⟨p, hp, rfl, hv⟩)
    · exact .place hp hv
    · exact .keyword hp hv
  · rintro (⟨hp, hv⟩ | ⟨hp, hv⟩)
    · exact .inl ⟨_, _, hp, hv, rfl⟩
    · exact .inr ⟨_, hp, rfl, hv⟩

theorem matches_iff : sig.Matches call ↔ (sig.bindPartial? call).isSome = true := by
  rw [Option.isSome_iff_exists]
  constructor
  · intro h
    exact ⟨_, bindPartial?_eq_some.2 ⟨h, rfl⟩⟩
  · rintro ⟨supplied, h⟩
    exact (bindPartial?_eq_some.1 h).1

instance : Decidable (sig.Matches call) := decidable_of_iff _ matches_iff.symm

theorem references_of_matches (h : sig.Matches call) (idFields : List String) :
    sig.references idFields call =
      Instrument.references idFields (sig.byPlace call ++ sig.byName call) := by
  rw [references, bindPartial?_eq_some.2 ⟨h, rfl⟩]

theorem references_of_not_matches (h : ¬sig.Matches call) (idFields : List String) :
    sig.references idFields call = .ok {} := by
  rw [matches_iff, Option.not_isSome_iff_eq_none] at h
  rw [references, h]

end Signature

/-- A call whose arguments do not match is made all the same, and comes to what the function makes of
it. -/
theorem Operation.wrapped_of_not_matches {sig : Signature} {call : Arguments}
    (hcall : ¬sig.Matches call) (op : Operation σ) (idFields : List String)
    (function : Arguments → Flow σ α) :
    op.wrapped sig idFields function call = op.run (.ok {}) (function call) := by
  rw [wrapped, Signature.references_of_not_matches hcall]

theorem Operation.exists_run_eq {op : Operation σ} (hop : ∀ c ∈ op.concerns, c.Discreet)
    (labels : Labels) (body : Flow σ α) {s : Session σ} (hs : Log.Writable s) :
    ∃ s₁, s.Alike s₁ ∧ (body.runFrom s₁).2.Alike ((op.run (.ok labels) body).runFrom s).2 ∧
      (Log.Writable (body.runFrom s₁).2 →
        ((op.run (.ok labels) body).runFrom s).1 = (body.runFrom s₁).1) := by
  rcases op.run_transparent hop labels body s with ⟨hn, -⟩ | ⟨s₁, ha, hleft, hout⟩
  · exact absurd hs hn
  · refine ⟨s₁, ha, hleft, ?_⟩
    intro hw
    rcases hout with hout | ⟨hn, -⟩
    · exact hout
    · exact absurd hw hn

theorem worth?_of_isOverlong {supplied : List (String × Value)} {name : String} {v : Value}
    (hv : supplied.lookup name = some v) (h : v.isOverlong = true) :
    worth? supplied name = some v := by
  rw [worth?_eq_some]
  refine ⟨hv, ?_⟩
  cases v <;> simp_all [Value.isOverlong, Value.text?]

/-- **References do not depend on how values are given.** Where the arguments of a call match the
parameters, it refers to the fields that it gives a value other than null and the empty text, each
by the text of its value, and fails just where such a text cannot be written; a call that gives the
same values in another way refers to the same. A call whose arguments do not match refers to
nothing, and the function is called with them all the same. -/
theorem Signature.references_iff_given {sig : Signature}
    (hsig : (sig.parameters.map Parameter.name).Nodup) (idFields : List String)
    {call : Arguments} (hcall : (call.keywords.map Prod.fst).Nodup) :
    (sig.Matches call →
      (∀ labels, sig.references idFields call = .ok labels → ∀ name text,
        labels.get? name = some text ↔ name ∈ idFields ∧
          ∃ v, sig.Gives call name v ∧ v ≠ .null ∧ v.text? ≠ some "" ∧ v.display = text) ∧
      ((∃ labels, sig.references idFields call = .ok labels) ↔
        ∀ name ∈ idFields, ∀ v, sig.Gives call name v → v.isOverlong = false) ∧
      ∀ other : Arguments, (other.keywords.map Prod.fst).Nodup → sig.Matches other →
        (∀ name v, sig.Gives other name v ↔ sig.Gives call name v) →
        sig.references idFields other = sig.references idFields call) ∧
    (¬sig.Matches call → sig.references idFields call = .ok {} ∧
      ∀ (σ α : Type) (op : Operation σ) (function : Arguments → Flow σ α),
        op.wrapped sig idFields function call = op.run (.ok {}) (function call) ∧
        ∀ s, (∀ c ∈ op.concerns, c.Discreet) → Log.Writable s → ∃ s₁, s.Alike s₁ ∧
          ((function call).runFrom s₁).2.Alike
            ((op.wrapped sig idFields function call).runFrom s).2 ∧
          (Log.Writable ((function call).runFrom s₁).2 →
            ((op.wrapped sig idFields function call).runFrom s).1 =
              ((function call).runFrom s₁).1)) := by
  constructor
  · intro hm
    have hgiven : ∀ name v, (sig.byPlace call ++ sig.byName call).lookup name = some v ↔
        sig.Gives call name v := fun name v => lookup_supplied hsig hcall hm
    rw [references_of_matches hm]
    refine ⟨?_, ?_, ?_⟩
    · intro labels hlabels name text
      rw [get?_references hlabels]
      simp only [Option.ite_none_right_eq_some, Option.map_eq_some_iff, worth?_eq_some, hgiven,
        and_assoc]
    · rw [references_ok_iff]
      constructor
      · intro h name hname v hv
        cases ho : v.isOverlong with
        | false => rfl
        | true =>
          have hworth := worth?_of_isOverlong ((hgiven name v).2 hv) ho
          rw [h name hname v hworth] at ho
          cases ho
      · intro h name hname v hv
        exact h name hname v ((hgiven name v).1 (worth?_eq_some.1 hv).1)
    · intro other hother hmother hsame
      rw [references_of_matches hmother]
      apply references_congr
      intro name
      apply Option.ext
      intro v
      rw [lookup_supplied hsig hother hmother, hsame, hgiven]
  · intro hm
    refine ⟨references_of_not_matches hm idFields, ?_⟩
    intro σ α op function
    have hrun := op.wrapped_of_not_matches hm idFields function
    refine ⟨hrun, ?_⟩
    intro s hop hs
    rw [hrun]
    exact Operation.exists_run_eq hop {} (function call) hs

/-- The owner is given at its place or by its name, a field that is null is not referred to, and a
surplus argument leaves no references. -/
theorem Signature.references_iff_given_owner :
    let idFields := ["container_id", "owner", "tag"]
    let call : Arguments := ⟨[.int 7, .text "ann"], [("tag", .null)]⟩
    let named : Arguments := ⟨[], [("tag", .null), ("owner", .text "ann"), ("container_id", .int 7)]⟩
    let surplus : Arguments := ⟨[.int 7, .text "ann", .text "more"], []⟩
    rehearsed.references idFields named = rehearsed.references idFields call ∧
      (∃ labels, rehearsed.references idFields call = .ok labels ∧
        labels.get? "owner" = some "ann" ∧ labels.get? "tag" = none) ∧
      rehearsed.references idFields surplus = .ok {} := by
  intro idFields call named surplus
  have hsig : (rehearsed.parameters.map Parameter.name).Nodup := by decide
  have hcall : (call.keywords.map Prod.fst).Nodup := by decide
  have hnamed : (named.keywords.map Prod.fst).Nodup := by decide
  have hm : rehearsed.Matches call := by decide
  have hmnamed : rehearsed.Matches named := by decide
  obtain ⟨hgiven, hok, hsame⟩ := (rehearsed.references_iff_given hsig idFields hcall).1 hm
  have hgives : ∀ name v, rehearsed.Gives call name v ↔
      [("container_id", Value.int 7), ("owner", .text "ann"), ("tag", .null)].lookup name = some v :=
    fun name v => (lookup_supplied hsig hcall hm).symm
  refine ⟨hsame named hnamed hmnamed ?_, ?_, ?_⟩
  · intro name v
    rw [hgives, ← lookup_supplied hsig hnamed hmnamed]
    rfl
  · have hfits : ∀ name ∈ idFields, ∀ v, rehearsed.Gives call name v → v.isOverlong = false := by
      intro name hname v hv
      rw [hgives] at hv
      simp only [idFields, List.mem_cons, List.not_mem_nil, or_false] at hname
      rcases hname with rfl | rfl | rfl <;> cases hv <;> decide +kernel
    obtain ⟨labels, hlabels⟩ := hok.2 hfits
    refine ⟨labels, hlabels, ?_, ?_⟩
    · rw [hgiven labels hlabels]
      exact ⟨by decide, _, (hgives _ _).2 rfl, by simp, by decide, rfl⟩
    · rw [Option.eq_none_iff_forall_ne_some]
      intro text htext
      obtain ⟨-, v, hv, hworth, -⟩ := (hgiven labels hlabels "tag" text).1 htext
      rw [hgives] at hv
      cases hv
      exact hworth rfl
  · have hsurplus : (surplus.keywords.map Prod.fst).Nodup := by decide
    exact ((rehearsed.references_iff_given hsig idFields hsurplus).2 (by decide)).1

end Stowage.Instrument
