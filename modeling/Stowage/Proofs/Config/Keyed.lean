import Stowage.Config.Load
import Stowage.Proofs.Json.Reading
import Stowage.Proofs.Value.Entries

/-!
The sources of configuration have text keys.

Whatever is laid upon a keyed mapping, the result is keyed (`isKeyed_overlay`), so that what a file
gives is keyed (`areKeyed_ofFile`) whatever keys the file has. What variables set is keyed because
JSON documents are (`areKeyed_ofVariables`). No key of a keyed mapping is too long to be written, and
merging cannot fail then (`merge?_of_keyed`).
-/

namespace Stowage.Config

variable {base es : Entries} {v : Value}

/-! ## Merging -/

/-- Entries whose keys are new to others are still so after the first of them has joined these. -/
theorem get?_snoc_of_new {found r : Entries} {key : String} {w : Value}
    (habsent : r.get? key = none)
    (hnew : ∀ other, (Entries.get? ((.text key, w) :: r) other).isSome = true →
      found.get? other = none) :
    ∀ other, (r.get? other).isSome = true →
      Entries.get? (found ++ [(.text key, w)]) other = none := by
  intro other hother
  have hne : other ≠ key := by
    rintro rfl
    rw [habsent] at hother
    cases hother
  have hold : found.get? other = none := hnew other (by simp [Entries.get?_cons, hne, hother])
  simp [Entries.get?_append, Entries.get?_cons, hold, hne]

/-- The keys of a mapping are texts, each of them once. What they hold may be anything. -/
inductive Flat : Entries → Prop
  | nil : Flat []
  | cons {key : String} {v : Value} {r : Entries} : r.get? key = none → Flat r →
    Flat ((.text key, v) :: r)

theorem flat_of_keyed (h : areKeyed es = true) : Flat es := by
  induction es with
  | nil => exact .nil
  | cons e r ih =>
    obtain ⟨k, v⟩ := e
    obtain ⟨key, rfl, -, hnew, hr⟩ := Entries.areKeyed_cons.1 h
    exact .cons hnew (ih hr)

/-- Entries with distinct text keys can be put one after the other behind entries with other keys. -/
theorem Flat.foldl_put {found : Entries} (h : Flat es)
    (hnew : ∀ key, (es.get? key).isSome = true → found.get? key = none) :
    es.foldl (fun found (k, v) => found.put (.text k.display) v) found = found ++ es := by
  induction h generalizing found with
  | nil => exact (List.append_nil found).symm
  | @cons key v r habsent _ ih =>
    have hfound : found.get? key = none := hnew key (by simp [Entries.get?_cons])
    have hput : found.put (.text (Value.text key).display) v = found ++ [(.text key, v)] :=
      Entries.put_of_get?_none hfound v
    simp only [List.foldl_cons]
    rw [hput, ih, List.append_assoc]
    · rfl
    · exact get?_snoc_of_new habsent hnew

theorem Flat.textKeys_eq (h : Flat es) : textKeys es = es :=
  have hnone : ∀ key, (es.get? key).isSome = true → Entries.get? [] key = none := fun _ _ => rfl
  h.foldl_put hnone

theorem textKeys_of_keyed (h : areKeyed es = true) : textKeys es = es := (flat_of_keyed h).textKeys_eq

theorem areKeyed_entriesOf {before : Option Value} (h : ∀ w, before = some w → w.isKeyed = true) :
    areKeyed (entriesOf before) = true := by
  unfold entriesOf
  split
  · exact h _ rfl
  · rfl

mutual

/-- What is laid upon something keyed gives something keyed. -/
theorem isKeyed_overlay (v : Value) {before : Option Value}
    (h : ∀ w, before = some w → w.isKeyed = true) : (overlay before v).isKeyed = true := by
  cases v with
  | mapping es =>
    have hbase : areKeyed (entriesOf before) = true := areKeyed_entriesOf h
    unfold overlay
    rw [textKeys_of_keyed hbase]
    exact areKeyed_overlayEntries es hbase
  | _ => rfl

theorem areKeyed_overlayEntries (es : List (Value × Value)) {base : Entries}
    (h : areKeyed base = true) : areKeyed (overlayEntries base es) = true := by
  cases es with
  | nil => exact h
  | cons e r =>
    obtain ⟨k, v⟩ := e
    have hv : (overlay (base.get? k.display) v).isKeyed = true :=
      isKeyed_overlay v fun w hw => Entries.isKeyed_of_get? h hw
    exact areKeyed_overlayEntries r (Entries.areKeyed_put h k.display hv)

end

theorem areKeyed_merge (h : areKeyed base = true) (higher : Entries) :
    areKeyed (merge base higher) = true := by
  unfold merge
  rw [textKeys_of_keyed h]
  exact areKeyed_overlayEntries higher h

mutual

theorem hasOverlongKey_of_keyed (v : Value) (h : v.isKeyed = true) : hasOverlongKey v = false := by
  cases v with
  | mapping es => exact anyOverlongKey_of_keyed es h
  | _ => rfl

theorem anyOverlongKey_of_keyed (es : List (Value × Value)) (h : areKeyed es = true) :
    anyOverlongKey es = false := by
  cases es with
  | nil => rfl
  | cons e r =>
    obtain ⟨k, v⟩ := e
    obtain ⟨key, rfl, hv, -, hr⟩ := Entries.areKeyed_cons.1 h
    simp [anyOverlongKey, Value.isOverlong, hasOverlongKey_of_keyed v hv,
      anyOverlongKey_of_keyed r hr]

end

/-- A keyed mapping can be laid upon any other. -/
theorem merge?_of_keyed (h : areKeyed es = true) (base : Entries) :
    merge? base es = .ok (merge base es) := by
  unfold merge?
  rw [anyOverlongKey_of_keyed es h]
  rfl

mutual

/-- What is laid upon nothing is as it is. -/
theorem overlay_none_of_keyed (v : Value) (h : v.isKeyed = true) : overlay none v = v := by
  cases v with
  | mapping es =>
    unfold overlay
    exact congrArg Value.mapping (overlayEntries_of_keyed es h fun _ _ => rfl)
  | _ => rfl

theorem overlayEntries_of_keyed (es : List (Value × Value)) (h : areKeyed es = true)
    {base : Entries} (hnew : ∀ key, (Entries.get? es key).isSome = true → base.get? key = none) :
    overlayEntries base es = base ++ es := by
  cases es with
  | nil => exact (List.append_nil base).symm
  | cons e r =>
    obtain ⟨k, v⟩ := e
    obtain ⟨key, rfl, hv, habsent, hr⟩ := Entries.areKeyed_cons.1 h
    have hbase : base.get? key = none := hnew key (by simp [Entries.get?_cons])
    change overlayEntries (base.put (.text key) (overlay (base.get? key) v)) r = _
    rw [hbase, overlay_none_of_keyed v hv, Entries.put_of_get?_none hbase,
      overlayEntries_of_keyed r hr, List.append_assoc]
    · rfl
    · exact get?_snoc_of_new habsent hnew

end

/-! ## Files -/

/-- What a file gives is keyed, whatever keys there are in it. -/
theorem areKeyed_ofFile {path : String} {file : File} (h : ofFile path file = .ok es) :
    areKeyed es = true := by
  obtain ⟨v, -, hv⟩ := bind_eq_ok.1 h
  split at hv
  · cases hv
    rfl
  · unfold merge? at hv
    split at hv
    · cases hv
    · cases hv
      exact areKeyed_merge rfl _
  · cases hv

/-- A file with text keys gives what it holds. -/
theorem ofFile_of_keyed {path : String} {file : File} (h : file.read path = .ok (.mapping es))
    (hkeyed : areKeyed es = true) : ofFile path file = .ok es := by
  have hmerge : merge [] es = es := overlayEntries_of_keyed es hkeyed fun _ _ => rfl
  unfold ofFile
  rw [h]
  exact (merge?_of_keyed hkeyed []).trans (congrArg Except.ok hmerge)

/-! ## Variables -/

theorem toEntries_put (key : String) (j : Json) (members : List (String × Json)) :
    Json.toEntries (Json.put key j members) =
      Entries.put (.text key) j.toValue (Json.toEntries members) := by
  induction members with
  | nil => rfl
  | cons m r ih =>
    obtain ⟨k, w⟩ := m
    unfold Json.put Json.toEntries Entries.put
    rw [Value.sameKey_text]
    by_cases hk : k = key
    · simp [Value.text?, hk]
    · simp [Value.text?, hk, ih]

/-- An object is keyed if its members are. -/
theorem isKeyed_ofPairs {pairs : List (String × Json)}
    (h : ∀ m ∈ pairs, m.2.toValue.isKeyed = true) : (Json.ofPairs pairs).toValue.isKeyed = true := by
  suffices ∀ members, areKeyed (Json.toEntries members) = true →
      areKeyed (Json.toEntries (pairs.foldl (fun ms m => Json.put m.1 m.2 ms) members)) = true from
    this [] rfl
  induction pairs with
  | nil => exact fun _ hm => hm
  | cons m r ih =>
    intro members hm
    obtain ⟨hj, hr⟩ := List.forall_mem_cons.1 h
    refine ih hr _ ?_
    rw [toEntries_put]
    exact Entries.areKeyed_put hm _ hj

theorem isKeyed_of_made {j : Json} (h : j.Made) : j.toValue.isKeyed = true := by
  induction h with
  | atom h => cases h <;> rfl
  | text s => rfl
  | list _ _ => rfl
  | ofPairs _ ih => exact isKeyed_ofPairs ih

theorem isKeyed_coerce {raw : String} (h : coerce raw = .ok v) : v.isKeyed = true := by
  unfold coerce at h
  dsimp only at h
  split at h
  · rename_i hword
    unfold wordValue? at hword
    repeat' split at hword
    all_goals first | cases hword; cases h; rfl | cases hword
  · split at h
    · split at h
      · rename_i j hread
        cases h
        exact isKeyed_of_made (Json.made_of_readList hread)
      · cases h
        rfl
      · cases h
    · repeat' split at h
      all_goals cases h; rfl

theorem areKeyed_setPath (hv : v.isKeyed = true) (path : List String) (h : areKeyed es = true) :
    areKeyed (setPath v es path) = true := by
  induction path generalizing es with
  | nil => exact h
  | cons step path ih =>
    cases path with
    | nil => exact Entries.areKeyed_put h step hv
    | cons next path =>
      refine Entries.areKeyed_put h step (ih ?_)
      split
      · rename_i inner hinner
        exact Entries.isKeyed_of_get? h hinner
      · rfl

theorem areKeyed_setVariable {start : String} {entry : String × String} {after : Entries}
    (h : areKeyed es = true) (hset : setVariable start es entry = .ok after) :
    areKeyed after = true := by
  unfold setVariable at hset
  split at hset
  · cases hset
    exact h
  · rename_i path _
    cases hv : coerce entry.2 with
    | error f =>
      rw [hv] at hset
      cases hset
    | ok v =>
      rw [hv] at hset
      cases hset
      exact areKeyed_setPath (isKeyed_coerce hv) path h

theorem areKeyed_setVariables {start : String} {environment : List (String × String)}
    (hb : areKeyed base = true) (h : environment.foldlM (setVariable start) base = .ok es) :
    areKeyed es = true := by
  induction environment generalizing base with
  | nil =>
    cases h
    exact hb
  | cons entry r ih =>
    rw [List.foldlM_cons] at h
    obtain ⟨after, ha, h⟩ := bind_eq_ok.1 h
    exact ih (areKeyed_setVariable hb ha) h

/-- What variables set is keyed. -/
theorem areKeyed_ofVariables {start : String} {environment : List (String × String)}
    (h : ofVariables start environment = .ok es) : areKeyed es = true :=
  have hnone : areKeyed [] = true := rfl
  areKeyed_setVariables hnone h

end Stowage.Config
