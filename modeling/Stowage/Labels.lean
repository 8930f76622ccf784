/-!
Ordered maps from text to text: the bound logging context, error metadata, references of a call.

A key keeps the place where it was first inserted. No key occurs twice, and the type says so.
-/

namespace Stowage

/-- An ordered map from text to text. -/
structure Labels where
  entries : List (String × String)
  nodup : (entries.map Prod.fst).Nodup
  deriving DecidableEq

namespace Labels

/-- Give `key` the value, at its old place or at the end. -/
def putEntry (key value : String) : List (String × String) → List (String × String)
  | [] => [(key, value)]
  | (k, v) :: r => if k = key then (k, value) :: r else (k, v) :: putEntry key value r

theorem mem_keys_putEntry {key value k : String} {es : List (String × String)} :
    k ∈ (putEntry key value es).map Prod.fst ↔ k = key ∨ k ∈ es.map Prod.fst := by
  induction es with
  | nil => simp [putEntry]
  | cons e r ih =>
    obtain ⟨k', v'⟩ := e
    by_cases h : k' = key
    · simp [putEntry, h]
    · simp only [putEntry, h, if_false, List.map_cons, List.mem_cons, ih]
      constructor <;> (rintro (h | h | h) <;> simp [h])

theorem nodup_putEntry {key value : String} {es : List (String × String)}
    (h : (es.map Prod.fst).Nodup) : ((putEntry key value es).map Prod.fst).Nodup := by
  induction es with
  | nil => simp [putEntry]
  | cons e r ih =>
    obtain ⟨k', v'⟩ := e
    simp only [List.map_cons, List.nodup_cons] at h
    by_cases hk : k' = key
    · simp only [putEntry, hk, if_true, List.map_cons, List.nodup_cons]
      exact ⟨hk ▸ h.1, h.2⟩
    · simp only [putEntry, hk, if_false, List.map_cons, List.nodup_cons]
      refine ⟨?_, ih h.2⟩
      rw [mem_keys_putEntry]
      rintro (h' | h')
      · exact hk h'
      · exact h.1 h'

/-- The map without entries. -/
def empty : Labels := ⟨[], List.nodup_nil⟩

instance : EmptyCollection Labels := ⟨empty⟩
instance : Inhabited Labels := ⟨empty⟩

instance : Repr Labels := ⟨fun l => reprPrec l.entries⟩

/-- Give `key` a value. -/
def insert (key value : String) (labels : Labels) : Labels :=
  ⟨putEntry key value labels.entries, nodup_putEntry labels.nodup⟩

/-- The value of a key. -/
def get? (labels : Labels) (key : String) : Option String := labels.entries.lookup key

/-- Remove a key. -/
def erase (labels : Labels) (key : String) : Labels :=
  ⟨labels.entries.filter fun e => e.1 != key,
    labels.nodup.sublist (List.Sublist.map _ List.filter_sublist)⟩

/-- Insert all entries of `more`, in order. -/
def insertAll (labels more : Labels) : Labels :=
  more.entries.foldl (fun l (k, v) => l.insert k v) labels

/-- The map of a list of entries; of two values for a key the later counts. -/
def ofList (entries : List (String × String)) : Labels :=
  entries.foldl (fun l (k, v) => l.insert k v) empty

def isEmpty (labels : Labels) : Bool := labels.entries.isEmpty

end Labels

end Stowage
