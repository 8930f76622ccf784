import Mathlib.Data.List.Nodup
import Mathlib.Data.List.Perm.Subperm
import Stowage.Pool.Basic

/-!
The representation invariant of pools.

`Pool.WF` says that every handle that there has been is in exactly one of the three lists of a pool,
and that no two cached handles share a key. An operation that opens nothing moves handles between
the lists (`Pool.Moves`), which keeps the invariant; what it does to the number of holders is said
by `Pool.holdings`.
-/

namespace Stowage

variable {κ : Type}

namespace Handle

/-- A handle apart from its holders. -/
def identity (h : Handle κ) : Nat × Pipeline × κ := (h.number, h.pipeline, h.client)

@[simp] theorem identity_hold (h : Handle κ) : h.hold.identity = h.identity := rfl

@[simp] theorem identity_letGo (h : Handle κ) : h.letGo.identity = h.identity := rfl

end Handle

/-! ## Lists without duplicates -/

/-- An element of a list in which a feature distinguishes the elements can be taken out or replaced
by looking for its feature. -/
theorem exists_split_of_nodup {α φ : Type} [DecidableEq φ] {f : α → φ} {l : List α}
    (hn : (l.map f).Nodup) {a : α} (ha : a ∈ l) :
    ∃ before after, l = before ++ a :: after ∧
      (l.filter fun b => f b != f a) = before ++ after ∧
      ∀ a', (l.map fun b => if f b == f a then a' else b) = before ++ a' :: after := by
  obtain ⟨before, after, rfl⟩ := List.append_of_mem ha
  rw [List.map_append, List.map_cons, List.nodup_middle, List.nodup_cons, ← List.map_append] at hn
  have hne : ∀ b ∈ before ++ after, f b ≠ f a :=
    fun b hb heq => hn.1 (heq ▸ List.mem_map_of_mem hb)
  have hbefore : ∀ b ∈ before, f b ≠ f a := fun b hb => hne b (List.mem_append_left _ hb)
  have hafter : ∀ b ∈ after, f b ≠ f a := fun b hb => hne b (List.mem_append_right _ hb)
  refine ⟨before, after, rfl, ?_, fun a' => ?_⟩
  · rw [List.filter_append, List.filter_cons_of_neg (by simp)]
    congr 1
    · exact List.filter_eq_self.2 fun b hb => by simpa using hbefore b hb
    · exact List.filter_eq_self.2 fun b hb => by simpa using hafter b hb
  · have hsame : ∀ r : List α, (∀ b ∈ r, f b ≠ f a) →
        (r.map fun b => if f b == f a then a' else b) = r := by
      intro r hr
      refine (List.map_congr_left fun b hb => ?_).trans (List.map_id r)
      simp [hr b hb]
    rw [List.map_append, List.map_cons, hsame before hbefore, hsame after hafter]
    simp

namespace Pool

/-- The handles that a pool keeps. -/
def tracked (pool : Pool κ) : List (Handle κ) := pool.cached ++ pool.retired

/-- Every handle that there has been is in exactly one place, and no two cached handles share a
key. -/
structure WF (pool : Pool κ) : Prop where
  numbers : (pool.handles.map Handle.number).Perm (List.range pool.opened)
  keys : (pool.cached.map Handle.key).Nodup

/-- What an operation that opens nothing does to a pool: the handles stay what they are, none comes
into the cache, and those that are gone have been dropped. -/
structure Moves (before after : Pool κ) (gone : List (Handle κ)) : Prop where
  identities : (after.handles.map Handle.identity).Perm (before.handles.map Handle.identity)
  cached : (after.cached.map Handle.identity).Subperm (before.cached.map Handle.identity)
  dropped : after.dropped = before.dropped ++ gone
  opened : after.opened = before.opened

/-! ## The invariant -/

theorem wf_empty : ({} : Pool κ).WF := ⟨List.Perm.refl _, List.nodup_nil⟩

theorem numbers_of_identities {l l' : List (Handle κ)}
    (h : (l.map Handle.identity).Perm (l'.map Handle.identity)) :
    (l.map Handle.number).Perm (l'.map Handle.number) := by
  have hp := h.map Prod.fst
  rw [List.map_map, List.map_map] at hp
  exact hp

theorem keys_of_identities (l : List (Handle κ)) :
    l.map Handle.key = (l.map Handle.identity).map fun i => i.2.1.key := by
  rw [List.map_map]
  rfl

namespace WF

variable {pool after : Pool κ} {gone : List (Handle κ)}

/-- Moving handles about keeps the invariant. -/
theorem moves (h : pool.WF) (hm : Moves pool after gone) : after.WF where
  numbers := by
    rw [hm.opened]
    exact (numbers_of_identities hm.identities).trans h.numbers
  keys := by
    have hk := h.keys
    rw [keys_of_identities] at hk ⊢
    obtain ⟨l, hl, hsub⟩ := hm.cached
    exact (hl.map _).nodup_iff.1 (hk.sublist (hsub.map _))

theorem nodup_numbers (h : pool.WF) : (pool.handles.map Handle.number).Nodup :=
  h.numbers.nodup_iff.2 List.nodup_range

theorem nodup_cached (h : pool.WF) : (pool.cached.map Handle.number).Nodup := by
  have hn := h.nodup_numbers
  unfold handles at hn
  rw [List.append_assoc, List.map_append] at hn
  exact (List.nodup_append.1 hn).1

theorem nodup_retired (h : pool.WF) : (pool.retired.map Handle.number).Nodup := by
  have hn := h.nodup_numbers
  unfold handles at hn
  rw [List.append_assoc, List.map_append, List.map_append] at hn
  exact (List.nodup_append.1 (List.nodup_append.1 hn).2.1).1

/-- A handle has a number below the one that comes next. -/
theorem number_lt (h : pool.WF) {a : Handle κ} (ha : a ∈ pool.handles) : a.number < pool.opened :=
  List.mem_range.1 (h.numbers.mem_iff.1 (List.mem_map_of_mem ha))

/-- Handles with the same number are the same handle. -/
theorem eq_of_number (h : pool.WF) {a b : Handle κ} (ha : a ∈ pool.handles) (hb : b ∈ pool.handles)
    (hab : a.number = b.number) : a = b :=
  List.inj_on_of_nodup_map h.nodup_numbers ha hb hab

end WF

/-! ## Holdings -/

/-- How often the handle with a number is held, for the handles of a list. -/
def heldIn : List (Handle κ) → Nat → Nat
  | [], _ => 0
  | h :: r, number => (if h.number = number then h.holders else 0) + heldIn r number

@[simp] theorem heldIn_nil (number : Nat) : heldIn ([] : List (Handle κ)) number = 0 := rfl

@[simp] theorem heldIn_cons (h : Handle κ) (l : List (Handle κ)) (number : Nat) :
    heldIn (h :: l) number = (if h.number = number then h.holders else 0) + heldIn l number := rfl

@[simp] theorem heldIn_append (l l' : List (Handle κ)) (number : Nat) :
    heldIn (l ++ l') number = heldIn l number + heldIn l' number := by
  induction l with
  | nil => rw [List.nil_append, heldIn_nil, Nat.zero_add]
  | cons h r ih => rw [List.cons_append, heldIn_cons, heldIn_cons, ih, Nat.add_assoc]

theorem heldIn_perm {l l' : List (Handle κ)} (h : l.Perm l') (number : Nat) :
    heldIn l number = heldIn l' number := by
  induction h with
  | nil => rfl
  | cons a _ ih => rw [heldIn_cons, heldIn_cons, ih]
  | swap a b r =>
    simp only [heldIn_cons]
    omega
  | trans _ _ ih ih' => exact ih.trans ih'

theorem heldIn_eq_zero {l : List (Handle κ)} {number : Nat}
    (h : ∀ a ∈ l, a.number = number → a.holders = 0) : heldIn l number = 0 := by
  induction l with
  | nil => rfl
  | cons a r ih =>
    rw [heldIn_cons, ih fun b hb => h b (List.mem_cons_of_mem _ hb)]
    split
    · exact h a List.mem_cons_self ‹_›
    · rfl

/-- Idle handles are not held. -/
theorem heldIn_idle {l : List (Handle κ)} (h : ∀ a ∈ l, a.isIdle = true) (number : Nat) :
    heldIn l number = 0 :=
  heldIn_eq_zero fun a ha _ => beq_iff_eq.1 (h a ha)

/-- What is held is in the list. -/
theorem exists_of_heldIn_pos {l : List (Handle κ)} {number : Nat} (h : 0 < heldIn l number) :
    ∃ a ∈ l, a.number = number := by
  induction l with
  | nil => exact absurd h (Nat.lt_irrefl 0)
  | cons a r ih =>
    by_cases ha : a.number = number
    · exact ⟨a, List.mem_cons_self, ha⟩
    · rw [heldIn_cons, if_neg ha, Nat.zero_add] at h
      obtain ⟨b, hb, hn⟩ := ih h
      exact ⟨b, List.mem_cons_of_mem _ hb, hn⟩

/-- How often the handle with a number is held. -/
def holdings (pool : Pool κ) (number : Nat) : Nat := heldIn pool.tracked number

end Pool

end Stowage
