import Stowage.Proofs.Json.Reading

/-!
Documents that are read hold no integers that are too long to be written.
-/

namespace Stowage

namespace Json

theorem anyMemberOverlong_put {key : String} {j : Json} (hj : j.isOverlong = false)
    {members : List (String × Json)} (h : anyMemberOverlong members = false) :
    anyMemberOverlong (put key j members) = false := by
  induction members with
  | nil => simp [put, anyMemberOverlong, hj]
  | cons m r ih =>
    obtain ⟨k, v⟩ := m
    rw [anyMemberOverlong, Bool.or_eq_false_iff] at h
    unfold put
    split
    · rw [anyMemberOverlong, hj, h.2, Bool.or_self]
    · rw [anyMemberOverlong, h.1, ih h.2, Bool.or_self]

theorem isOverlong_ofPairs {pairs : List (String × Json)}
    (h : ∀ m ∈ pairs, m.2.isOverlong = false) : (ofPairs pairs).isOverlong = false := by
  suffices ∀ members, anyMemberOverlong members = false →
      anyMemberOverlong (pairs.foldl (fun ms m => put m.1 m.2 ms) members) = false from
    this [] rfl
  induction pairs with
  | nil => exact fun _ hm => hm
  | cons m r ih =>
    intro members hm
    obtain ⟨hj, hr⟩ := List.forall_mem_cons.1 h
    exact ih hr _ (anyMemberOverlong_put hj hm)

theorem anyOverlong_eq_false {items : List Json} :
    anyOverlong items = false ↔ ∀ j ∈ items, j.isOverlong = false := by
  induction items with
  | nil => simp [anyOverlong]
  | cons j r ih => simp [anyOverlong, ih]

theorem Made.isOverlong {j : Json} (h : Made j) : j.isOverlong = false := by
  induction h with
  | atom h =>
    cases h with
    | int h => exact h
    | _ => rfl
  | text s => rfl
  | list _ ih => exact anyOverlong_eq_false.2 ih
  | ofPairs _ ih => exact isOverlong_ofPairs ih

/-- A document that is read holds no integers that are too long to be written. -/
theorem isOverlong_readList {cs : List Char} {j : Json} (h : readList cs = .ok j) :
    j.isOverlong = false := (made_of_readList h).isOverlong

theorem isOverlong_of_lookup {members : List (String × Json)} {key : String} {j : Json}
    (h : anyMemberOverlong members = false) (hj : members.lookup key = some j) :
    j.isOverlong = false := by
  induction members with
  | nil => cases hj
  | cons m r ih =>
    obtain ⟨k, v⟩ := m
    rw [anyMemberOverlong, Bool.or_eq_false_iff] at h
    rw [List.lookup_cons] at hj
    split at hj
    · cases hj
      exact h.1
    · exact ih h.2 hj

end Json

end Stowage
