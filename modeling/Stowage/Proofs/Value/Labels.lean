import Stowage.Labels

/-!
Labels, looked up by key.

Each operation on labels is read off what a key holds afterwards. Of labels that are inserted over
others, those that are new decide (`Labels.get?_insertAll`).
-/

namespace Stowage.Labels

theorem lookup_cons (k v : String) (es : List (String × String)) (key : String) :
    ((k, v) :: es).lookup key = if key = k then some v else es.lookup key := by
  rw [List.lookup_cons]
  by_cases h : key = k
  · simp [h]
  · rw [beq_false_of_ne h, if_neg h]

theorem lookup_putEntry (key value other : String) (es : List (String × String)) :
    (putEntry key value es).lookup other = if other = key then some value else es.lookup other := by
  induction es with
  | nil => exact lookup_cons key value [] other
  | cons e r ih =>
    obtain ⟨k, v⟩ := e
    unfold putEntry
    by_cases hk : k = key
    · subst hk
      rw [if_pos rfl, lookup_cons, lookup_cons]
      split <;> rfl
    · rw [if_neg hk, lookup_cons, lookup_cons, ih]
      by_cases h : other = k
      · subst h
        rw [if_pos rfl, if_neg hk, if_pos rfl]
      · rw [if_neg h, if_neg h]

theorem lookup_filter_ne (key other : String) (es : List (String × String)) :
    (es.filter fun e => e.1 != key).lookup other =
      if other = key then none else es.lookup other := by
  induction es with
  | nil => simp
  | cons e r ih =>
    obtain ⟨k, v⟩ := e
    by_cases hk : k = key
    · subst hk
      rw [List.filter_cons_of_neg (by simp), ih, lookup_cons]
      split <;> rfl
    · rw [List.filter_cons_of_pos (by simpa using hk), lookup_cons, lookup_cons, ih]
      by_cases h : other = k
      · subst h
        rw [if_pos rfl, if_neg hk, if_pos rfl]
      · rw [if_neg h, if_neg h]

@[simp] theorem get?_empty (key : String) : (∅ : Labels).get? key = none := rfl

theorem get?_insert (labels : Labels) (key value other : String) :
    (labels.insert key value).get? other = if other = key then some value else labels.get? other :=
  lookup_putEntry key value other labels.entries

theorem get?_erase (labels : Labels) (key other : String) :
    (labels.erase key).get? other = if other = key then none else labels.get? other :=
  lookup_filter_ne key other labels.entries

/-- Of labels that are inserted over others the new ones decide. -/
theorem get?_insertAll (labels more : Labels) (key : String) :
    (labels.insertAll more).get? key = (more.get? key).or (labels.get? key) := by
  obtain ⟨es, hnodup⟩ := more
  change (es.foldl (fun l e => l.insert e.1 e.2) labels).get? key =
    (es.lookup key).or (labels.get? key)
  induction es generalizing labels with
  | nil => rfl
  | cons e r ih =>
    obtain ⟨k, v⟩ := e
    rw [List.map_cons, List.nodup_cons] at hnodup
    rw [List.foldl_cons, ih (labels.insert k v) hnodup.2, get?_insert, lookup_cons]
    by_cases h : key = k
    · subst h
      have hnone : r.lookup key = none := by
        refine List.lookup_eq_none_iff.2 fun e he => bne_iff_ne.2 ?_
        rintro rfl
        exact hnodup.1 (List.mem_map.2 ⟨e, he, rfl⟩)
      rw [if_pos rfl, if_pos rfl, hnone]
      rfl
    · rw [if_neg h, if_neg h]

end Stowage.Labels
