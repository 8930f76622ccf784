import Stowage.Text.Blank

/-!
Trimmed text.

Trimming takes off what stands around a text whose own ends are not blank (`trimChars_enclosed`),
and what it leaves is such a text.
-/

namespace Stowage.Text

/-- A text whose ends, if it has any, are no characters of a class. -/
def Trimmed (p : Char → Bool) (cs : List Char) : Prop :=
  (∀ c, cs.head? = some c → p c = false) ∧ ∀ c, cs.getLast? = some c → p c = false

variable {p q : Char → Bool} {cs left right : List Char}

theorem dropWhile_append_of_head (hleft : ∀ c ∈ left, p c = true)
    (h : ∀ c, cs.head? = some c → p c = false) : (left ++ cs).dropWhile p = cs := by
  rw [List.dropWhile_append_of_pos hleft]
  cases cs with
  | nil => rfl
  | cons c r => simp [h c rfl]

theorem dropWhile_of_head (h : ∀ c, cs.head? = some c → p c = false) : cs.dropWhile p = cs :=
  dropWhile_append_of_head (List.forall_mem_nil _) h

theorem trimChars_enclosed (h : Trimmed p cs) (hleft : ∀ c ∈ left, p c = true)
    (hright : ∀ c ∈ right, p c = true) : trimChars p (left ++ cs ++ right) = cs := by
  have hreverse : ∀ c ∈ right.reverse, p c = true := fun c hc => hright c (List.mem_reverse.1 hc)
  unfold trimChars
  rw [List.append_assoc]
  cases cs with
  | nil =>
    have hboth : ∀ c ∈ left ++ right, p c = true := List.forall_mem_append.2 ⟨hleft, hright⟩
    have hnone : (left ++ right).dropWhile p = [] := by
      rw [← List.append_nil (left ++ right)]
      exact dropWhile_append_of_head hboth (by simp)
    rw [List.nil_append, hnone]
    rfl
  | cons c r =>
    rw [dropWhile_append_of_head hleft (by simpa using h.1 c rfl), List.reverse_append,
      dropWhile_append_of_head hreverse, List.reverse_reverse]
    intro c hc
    rw [List.head?_reverse] at hc
    exact h.2 c hc

theorem Trimmed.trimChars_eq (h : Trimmed p cs) : trimChars p cs = cs := by
  have henclosed := trimChars_enclosed h (List.forall_mem_nil _) (List.forall_mem_nil _)
  rwa [List.nil_append, List.append_nil] at henclosed

/-- Trimming leaves a start of what is left without the blanks in front. -/
theorem trimChars_leading (p : Char → Bool) (cs : List Char) :
    trimChars p cs <+: cs.dropWhile p := by
  have hend : (cs.dropWhile p).reverse.dropWhile p <:+ (cs.dropWhile p).reverse :=
    List.dropWhile_suffix p
  simpa [trimChars] using List.reverse_prefix.2 hend

theorem trimChars_infix (p : Char → Bool) (cs : List Char) : trimChars p cs <:+: cs :=
  (trimChars_leading p cs).isInfix.trans (List.dropWhile_suffix p).isInfix

theorem trimmed_trimChars (p : Char → Bool) (cs : List Char) : Trimmed p (trimChars p cs) := by
  have hhead : ∀ (l : List Char) c, (l.dropWhile p).head? = some c → p c = false := by
    intro l c hc
    have hnot := List.head?_dropWhile_not p l
    rw [hc] at hnot
    exact hnot
  constructor
  · intro c hc
    apply hhead cs c
    obtain ⟨rest, hrest⟩ := trimChars_leading p cs
    rw [← hrest, List.head?_append, hc]
    rfl
  · intro c hc
    unfold trimChars at hc
    rw [List.getLast?_reverse] at hc
    exact hhead _ c hc

theorem trim_eq_self_iff {s : String} : trim s = s ↔ Trimmed isBlank s.toList := by
  have hchars : trim s = s ↔ trimChars isBlank s.toList = s.toList := by
    unfold trim
    rw [← String.toList_inj, String.toList_ofList]
  rw [hchars]
  constructor
  · intro h
    have htrimmed := trimmed_trimChars isBlank s.toList
    rwa [h] at htrimmed
  · exact Trimmed.trimChars_eq

theorem Trimmed.mono (h : Trimmed p cs) (hpq : ∀ c, q c = true → p c = true) : Trimmed q cs := by
  have hnot : ∀ c, p c = false → q c = false := by
    intro c hc
    cases hq : q c with
    | false => rfl
    | true => cases hc.symm.trans (hpq c hq)
  exact ⟨fun c hc => hnot c (h.1 c hc), fun c hc => hnot c (h.2 c hc)⟩

end Stowage.Text
