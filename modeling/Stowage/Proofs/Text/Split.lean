import Stowage.Text.Split

/-!
Cutting text and joining it.

Cutting at doubled separators undoes joining with them, but not for all pieces: a separator may also
stand alone inside a piece, so that `a___b` can be joined from several lists of pieces. The one that
is found has no doubled separator in any piece and no separator at the end of any but the last
(`splitAtDouble_eq_iff`).
-/

namespace Stowage.Text

variable {sep c : Char} {cs r piece : List Char} {pieces : List (List Char)}

theorem toList_join (sep : String) (pieces : List String) :
    (join sep pieces).toList = sep.toList.intercalate (pieces.map String.toList) := by
  induction pieces with
  | nil => rfl
  | cons s r ih =>
    cases r with
    | nil => simp [join]
    | cons t r =>
      rw [join, String.toList_append, String.toList_append, ih]
      · simp
      · exact List.cons_ne_nil t r

theorem dropStart?_append (start cs : List Char) : dropStart? start (start ++ cs) = some cs := by
  induction start with
  | nil => cases cs <;> rfl
  | cons c start ih => simpa [dropStart?] using ih

/-! ## Pieces that can be kept apart -/

/-- Nowhere in the text do two separators stand side by side. -/
def Undoubled (sep : Char) (cs : List Char) : Prop := ¬ [sep, sep] <:+: cs

instance (sep : Char) (cs : List Char) : Decidable (Undoubled sep cs) :=
  inferInstanceAs (Decidable (¬ [sep, sep] <:+: cs))

theorem undoubled_nil (sep : Char) : Undoubled sep [] := by
  intro h
  cases List.infix_nil.1 h

theorem undoubled_cons :
    Undoubled sep (c :: r) ↔ (c = sep → r.head? ≠ some sep) ∧ Undoubled sep r := by
  have hstart : [sep, sep] <+: c :: r ↔ c = sep ∧ r.head? = some sep := by
    rw [List.cons_prefix_cons, List.head?_eq_some_iff, eq_comm]
    exact and_congr_right fun _ => exists_congr fun _ => eq_comm
  unfold Undoubled
  rw [List.infix_cons_iff, hstart, not_or, not_and]

/-- A list of texts that joining with the doubled separator keeps apart. -/
structure Separable (sep : Char) (pieces : List (List Char)) : Prop where
  nonempty : pieces ≠ []
  undoubled : ∀ piece ∈ pieces, Undoubled sep piece
  ends : ∀ piece ∈ pieces.dropLast, piece.getLast? ≠ some sep

theorem Separable.singleton (h : Undoubled sep piece) : Separable sep [piece] where
  nonempty := List.cons_ne_nil _ _
  undoubled := List.forall_mem_singleton.2 h
  ends := List.forall_mem_nil _

/-- An empty piece in front is kept apart as well. -/
theorem Separable.cons_nil (h : Separable sep pieces) : Separable sep ([] :: pieces) where
  nonempty := List.cons_ne_nil _ _
  undoubled := List.forall_mem_cons.2 ⟨undoubled_nil sep, h.undoubled⟩
  ends := by
    rw [List.dropLast_cons_of_ne_nil h.nonempty]
    exact List.forall_mem_cons.2 ⟨nofun, h.ends⟩

/-- So is a first piece with one more character, if that does not begin a doubled separator. -/
theorem Separable.cons_cons {rest : List (List Char)} (h : Separable sep (piece :: rest))
    (hc : c = sep → ([sep, sep].intercalate (piece :: rest)).head? ≠ some sep) :
    Separable sep ((c :: piece) :: rest) where
  nonempty := List.cons_ne_nil _ _
  undoubled := by
    obtain ⟨hpiece, hrest⟩ := List.forall_mem_cons.1 h.undoubled
    refine List.forall_mem_cons.2 ⟨undoubled_cons.2 ⟨fun heq hhead => hc heq ?_, hpiece⟩, hrest⟩
    obtain ⟨piece, rfl⟩ := List.head?_eq_some_iff.1 hhead
    cases rest <;> simp
  ends := by
    cases rest with
    | nil => exact List.forall_mem_nil _
    | cons next rest =>
      have hends := h.ends
      rw [List.dropLast_cons_cons] at hends ⊢
      obtain ⟨hlast, hlater⟩ := List.forall_mem_cons.1 hends
      refine List.forall_mem_cons.2 ⟨fun heq => ?_, hlater⟩
      cases piece with
      | nil => exact hc (Option.some.inj heq) (by simp)
      | cons d piece => exact hlast (by simpa using heq)

/-! ## Cutting at doubled separators -/

theorem splitAtDouble_ne_nil (sep : Char) (cs : List Char) : splitAtDouble sep cs ≠ [] := by
  fun_cases splitAtDouble sep cs <;> simp

theorem splitAtDouble_doubled (sep : Char) (r : List Char) :
    splitAtDouble sep (sep :: sep :: r) = [] :: splitAtDouble sep r := by
  simp [splitAtDouble]

/-- A character that does not begin a doubled separator joins the first piece. -/
theorem splitAtDouble_cons (h : c = sep → r.head? ≠ some sep) :
    splitAtDouble sep (c :: r) = (splitAtDouble sep r).modifyHead (c :: ·) := by
  cases r with
  | nil => rfl
  | cons d r =>
    have hnot : ¬(c = sep ∧ d = sep) := fun hboth => h hboth.1 (congrArg some hboth.2)
    rw [splitAtDouble, if_neg hnot]
    cases hsplit : splitAtDouble sep (d :: r) with
    | nil => exact absurd hsplit (splitAtDouble_ne_nil sep (d :: r))
    | cons first rest => rfl

/-- A text without doubled separators joins the first piece of what follows, unless a doubled
separator arises where they meet. -/
theorem splitAtDouble_append (h : Undoubled sep piece)
    (hmeet : piece.getLast? = some sep → r.head? ≠ some sep) :
    splitAtDouble sep (piece ++ r) = (splitAtDouble sep r).modifyHead (piece ++ ·) := by
  induction piece with
  | nil =>
    change _ = (splitAtDouble sep r).modifyHead id
    rw [List.modifyHead_id]
    rfl
  | cons c piece ih =>
    obtain ⟨hc, hpiece⟩ := undoubled_cons.1 h
    have hfirst : c = sep → (piece ++ r).head? ≠ some sep := by
      intro heq
      cases piece with
      | nil => exact hmeet (congrArg some heq)
      | cons d piece => exact hc heq
    have hlater : piece.getLast? = some sep → r.head? ≠ some sep := by
      intro hlast
      apply hmeet
      rw [List.getLast?_cons, hlast]
      rfl
    rw [List.cons_append, splitAtDouble_cons hfirst, ih hpiece hlater, List.modifyHead_modifyHead]
    rfl

/-- Pieces that can be kept apart are found again. -/
theorem Separable.splitAtDouble_eq (h : Separable sep pieces) :
    splitAtDouble sep ([sep, sep].intercalate pieces) = pieces := by
  obtain ⟨hne, hundoubled, hends⟩ := h
  induction pieces with
  | nil => exact absurd rfl hne
  | cons piece rest ih =>
    obtain ⟨hpiece, hrest⟩ := List.forall_mem_cons.1 hundoubled
    cases rest with
    | nil =>
      have hmeet : piece.getLast? = some sep → [].head? ≠ some sep := fun _ => nofun
      rw [List.intercalate_singleton, ← List.append_nil piece, splitAtDouble_append hpiece hmeet]
      simp [splitAtDouble]
    | cons next rest =>
      rw [List.dropLast_cons_cons] at hends
      obtain ⟨hlast, hlater⟩ := List.forall_mem_cons.1 hends
      rw [List.intercalate_cons_cons, List.append_assoc,
        splitAtDouble_append hpiece (fun hsep => absurd hsep hlast), List.cons_append,
        List.cons_append, List.nil_append, splitAtDouble_doubled,
        ih (List.cons_ne_nil next rest) hrest hlater, List.modifyHead_cons, List.append_nil]

/-- The pieces of a text are kept apart, and no character but the separators between them is
lost. -/
theorem separable_splitAtDouble (sep : Char) (cs : List Char) :
    Separable sep (splitAtDouble sep cs) ∧
      [sep, sep].intercalate (splitAtDouble sep cs) = cs := by
  fun_induction splitAtDouble sep cs with
  | case1 => exact ⟨.singleton (undoubled_nil sep), List.intercalate_singleton⟩
  | case2 c => exact ⟨.singleton (undoubled_cons.2 ⟨fun _ => nofun, undoubled_nil sep⟩), rfl⟩
  | case3 c d r hboth ih =>
    obtain ⟨rfl, rfl⟩ := hboth
    refine ⟨ih.1.cons_nil, ?_⟩
    rw [List.intercalate_cons_of_ne_nil ih.1.nonempty, ih.2]
    rfl
  | case4 c d r _ hnone => exact absurd hnone (splitAtDouble_ne_nil sep (d :: r))
  | case5 c d r hnot piece rest hsplit ih =>
    rw [hsplit] at ih
    have hc : c = sep → ([sep, sep].intercalate (piece :: rest)).head? ≠ some sep := by
      rw [ih.2]
      exact fun heq hhead => hnot ⟨heq, Option.some.inj hhead⟩
    refine ⟨ih.1.cons_cons hc, ?_⟩
    rw [← ih.2]
    cases rest <;> simp

/-- **The pieces of a text** are those texts that give it when they are joined, have no doubled
separator in them and, but for the last, do not end with a separator. -/
theorem splitAtDouble_eq_iff : splitAtDouble sep cs = pieces ↔
    Separable sep pieces ∧ [sep, sep].intercalate pieces = cs := by
  constructor
  · rintro rfl
    exact separable_splitAtDouble sep cs
  · rintro ⟨h, rfl⟩
    exact h.splitAtDouble_eq

end Stowage.Text
