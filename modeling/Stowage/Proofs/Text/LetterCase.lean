import Stowage.Proofs.Text.Split
import Stowage.Proofs.Text.Trimmed
import Stowage.Text.LetterCase

/-!
Letter case of ASCII text.

ASCII text is raised and lowered character by character (`toList_upper`, `toList_lower`), and lowering
undoes raising. Neither makes a blank or an underscore of anything else, nor anything else of one
(`Recasing`), so that where a text has blanks and underscores does not depend on its case.
-/

namespace Stowage.Text

variable {c : Char} {s : String} {cs : List Char} {f : Char → Char}

/-- All characters are ASCII. -/
def IsAscii (cs : List Char) : Prop := ∀ c ∈ cs, c.toNat < 0x80

instance (cs : List Char) : Decidable (IsAscii cs) :=
  List.decidableBAll (fun c : Char => c.toNat < 0x80) cs

/-! ## Changes of case -/

/-- A change of letters to others of the same lower case, which leaves blanks and underscores where
they are. -/
structure Recasing (f : Char → Char) : Prop where
  ascii {c : Char} : c.toNat < 0x80 → (f c).toNat < 0x80
  lower {c : Char} : c.toNat < 0x80 → (f c).toLower = c.toLower
  blank {c : Char} : c.toNat < 0x80 → isBlank (f c) = isBlank c
  mark {c : Char} : c.toNat < 0x80 → (f c = '_' ↔ c = '_')

/-- A property of ASCII characters that all of them have. -/
theorem forall_ascii (P : Char → Prop) (h : ∀ n < 0x80, P (Char.ofNat n)) (hc : c.toNat < 0x80) :
    P c := by
  have hn := h c.toNat hc
  rwa [Char.ofNat_toNat] at hn

theorem recasing_toUpper : Recasing Char.toUpper where
  ascii := forall_ascii (fun c => c.toUpper.toNat < 0x80) (by decide)
  lower := forall_ascii (fun c => c.toUpper.toLower = c.toLower) (by decide)
  blank := forall_ascii (fun c => isBlank c.toUpper = isBlank c) (by decide)
  mark := forall_ascii (fun c => c.toUpper = '_' ↔ c = '_') (by decide)

theorem recasing_toLower : Recasing Char.toLower where
  ascii := forall_ascii (fun c => c.toLower.toNat < 0x80) (by decide)
  lower := forall_ascii (fun c => c.toLower.toLower = c.toLower) (by decide)
  blank := forall_ascii (fun c => isBlank c.toLower = isBlank c) (by decide)
  mark := forall_ascii (fun c => c.toLower = '_' ↔ c = '_') (by decide)

namespace Recasing

theorem isAscii_map (h : Recasing f) (hcs : IsAscii cs) : IsAscii (cs.map f) :=
  List.forall_mem_map.2 fun c hc => h.ascii (hcs c hc)

theorem map_toLower (h : Recasing f) (hcs : IsAscii cs) :
    (cs.map f).map Char.toLower = cs.map Char.toLower := by
  rw [List.map_map]
  exact List.map_congr_left fun c hc => h.lower (hcs c hc)

theorem head?_map (h : Recasing f) (hcs : IsAscii cs) :
    (cs.map f).head? = some '_' ↔ cs.head? = some '_' := by
  cases cs with
  | nil => exact Iff.rfl
  | cons c r => simpa using h.mark (hcs c List.mem_cons_self)

theorem getLast?_map (h : Recasing f) (hcs : IsAscii cs) :
    (cs.map f).getLast? = some '_' ↔ cs.getLast? = some '_' := by
  rw [← List.head?_reverse, ← List.head?_reverse, ← List.map_reverse]
  exact h.head?_map fun c hc => hcs c (List.mem_reverse.1 hc)

theorem undoubled_map (h : Recasing f) (hcs : IsAscii cs) :
    Undoubled '_' (cs.map f) ↔ Undoubled '_' cs := by
  induction cs with
  | nil => exact Iff.rfl
  | cons c r ih =>
    obtain ⟨hc, hr⟩ := List.forall_mem_cons.1 hcs
    rw [List.map_cons, undoubled_cons, undoubled_cons, h.mark hc, ih hr, ne_eq, h.head?_map hr]

theorem trimmed_map (h : Recasing f) (hcs : IsAscii cs) :
    Trimmed isBlank (cs.map f) ↔ Trimmed isBlank cs := by
  unfold Trimmed
  rw [List.head?_map, List.getLast?_map]
  refine and_congr ?_ ?_
  · cases hhead : cs.head? with
    | none => simp
    | some c => simpa using by rw [h.blank (hcs c (List.mem_of_head? hhead))]
  · cases hlast : cs.getLast? with
    | none => simp
    | some c => simpa using by rw [h.blank (hcs c (List.mem_of_getLast? hlast))]

end Recasing

/-! ## Text -/

theorem lowerChars_of_isAscii (h : IsAscii cs) (before : List Char) :
    lowerChars before cs = cs.map Char.toLower := by
  induction cs generalizing before with
  | nil => rfl
  | cons c r ih =>
    obtain ⟨hc, hr⟩ := List.forall_mem_cons.1 h
    simp [lowerChars, lowerChar, hc, ih hr]

theorem flatMap_upperChar_of_isAscii (h : IsAscii cs) :
    cs.flatMap upperChar = cs.map Char.toUpper := by
  induction cs with
  | nil => rfl
  | cons c r ih =>
    obtain ⟨hc, hr⟩ := List.forall_mem_cons.1 h
    simp [upperChar, hc, ih hr]

theorem toList_lower (h : IsAscii s.toList) : (lower s).toList = s.toList.map Char.toLower := by
  unfold lower
  rw [String.toList_ofList, lowerChars_of_isAscii h]

theorem toList_lower_ofList (h : IsAscii cs) :
    (lower (String.ofList cs)).toList = cs.map Char.toLower := by
  have hcs : (String.ofList cs).toList = cs := String.toList_ofList
  rw [toList_lower (by rwa [hcs]), hcs]

theorem toList_upper (h : IsAscii s.toList) : (upper s).toList = s.toList.map Char.toUpper := by
  unfold upper
  rw [String.toList_ofList, flatMap_upperChar_of_isAscii h]

end Stowage.Text
