import Stowage.Proofs.Json.RoundTrip

/-!
What documents are written in.

A style that escapes all but ASCII writes every document, whatever its texts and keys are, in ASCII
characters that are no control characters, and in line breaks where the style asks for lines
(`Json.writes_writeAt`). So a document that is written on one line stays on it (`Text.lines_join`).
-/

namespace Stowage

namespace Text

/-- An ASCII character that is no control character. -/
def Legible (c : Char) : Prop := 0x20 ≤ c.toNat ∧ c.toNat < 0x7f

instance : DecidablePred Legible := fun _ => inferInstanceAs (Decidable (_ ∧ _))

theorem legible_of_all {cs : List Char} (h : (cs.all fun c => decide (Legible c)) = true) :
    ∀ c ∈ cs, Legible c := by simpa using h

theorem legible_ite {p : Prop} [Decidable p] {cs ds : List Char} (hcs : ∀ c ∈ cs, Legible c)
    (hds : ¬ p → ∀ c ∈ ds, Legible c) : ∀ c ∈ (if p then cs else ds), Legible c := by
  split
  · exact hcs
  · exact hds ‹_›

theorem legible_hexDigits (width n : Nat) : ∀ c ∈ hexDigits width n, Legible c := by
  have hdigit : ∀ d < 16, Legible (hexDigit d) := by decide
  induction width generalizing n with
  | zero => simp [hexDigits]
  | succ width ih =>
    intro c hc
    rw [hexDigits, List.mem_append, List.mem_singleton] at hc
    rcases hc with hc | rfl
    · exact ih (n / 16) c hc
    · apply hdigit
      omega

theorem Legible.not_endsLine {c : Char} (h : Legible c) : endsLine c = false := by
  unfold endsLine
  rw [List.contains_eq_mem, decide_eq_false_iff_not]
  intro hc
  simp only [String.reduceToList, List.mem_cons, List.not_mem_nil, or_false] at hc
  rcases hc with rfl | rfl | rfl | rfl | rfl | rfl | rfl | rfl | rfl | rfl <;> revert h <;> decide

theorem linesFrom_append {cs : List Char} (h : ∀ c ∈ cs, endsLine c = false)
    (before rest : List Char) : linesFrom before (cs ++ '\n' :: rest) =
      String.ofList (before.reverse ++ cs) :: linesFrom [] rest := by
  induction cs generalizing before with
  | nil =>
    rw [List.nil_append, List.append_nil]
    rfl
  | cons c r ih =>
    rw [List.forall_mem_cons] at h
    have hstep : linesFrom before (c :: (r ++ '\n' :: rest)) =
        linesFrom (c :: before) (r ++ '\n' :: rest) := by
      rw [linesFrom]
      · simp [h.1]
      · rintro _ rfl
        cases h.1
    rw [List.cons_append, hstep, ih h.2]
    simp

/-- Texts without line breaks that are written one a line are the lines of what is written. -/
theorem lines_join {texts : List String} (h : ∀ s ∈ texts, ∀ c ∈ s.toList, endsLine c = false) :
    lines (String.join (texts.map (· ++ "\n"))) = texts := by
  induction texts with
  | nil => rfl
  | cons s r ih =>
    rw [List.forall_mem_cons] at h
    have hlist : (String.join ((s :: r).map (· ++ "\n"))).toList =
        s.toList ++ '\n' :: (String.join (r.map (· ++ "\n"))).toList := by
      simp
    have hrest := ih h.2
    unfold lines at hrest ⊢
    rw [hlist, linesFrom_append h.1, hrest]
    simp

end Text

namespace Decimal

theorem legible_digits (n : Nat) : ∀ c ∈ digits n, Text.Legible c := by
  have hdigit : ∀ d < 10, Text.Legible (digitChar d) := by decide
  intro c hc
  rw [digits_eq, List.mem_map] at hc
  obtain ⟨d, hd, rfl⟩ := hc
  exact hdigit d (lt_ten_of_mem hd)

theorem legible_integerChars (i : Int) : ∀ c ∈ integerChars i, Text.Legible c := by
  cases i with
  | ofNat n => exact legible_digits n
  | negSucc n =>
    rw [integerChars, List.forall_mem_cons]
    exact ⟨by decide, legible_digits (n + 1)⟩

end Decimal

namespace NumberLayout

open Text (Legible)

theorem legible_replicate (n : Nat) : ∀ c ∈ List.replicate n '0', Legible c := by
  intro c hc
  rw [List.eq_of_mem_replicate hc]
  decide

theorem legible_positional {ds : List Char} (h : ∀ c ∈ ds, Legible c) (point : Int) :
    ∀ c ∈ positional ds point, Legible c := by
  have hzero : ∀ c ∈ ['0'], Legible c := Text.legible_of_all rfl
  cases point with
  | ofNat k =>
    simp only [positional]
    rw [List.forall_mem_append, List.forall_mem_cons]
    refine ⟨?_, by decide, ?_⟩
    · split
      · exact hzero
      · rw [List.forall_mem_append]
        exact ⟨fun c hc => h c (List.mem_of_mem_take hc), legible_replicate _⟩
    · split
      · exact hzero
      · exact fun c hc => h c (List.mem_of_mem_drop hc)
  | negSucc k =>
    simp only [positional, List.forall_mem_cons, List.forall_mem_append]
    exact ⟨by decide, by decide, legible_replicate _, h⟩

theorem legible_scientific (width : Nat) {ds : List Char} (h : ∀ c ∈ ds, Legible c)
    (exponent : Int) : ∀ c ∈ scientific width ds exponent, Legible c := by
  simp only [scientific, List.forall_mem_append, List.forall_mem_cons]
  refine ⟨?_, by decide, ?_, legible_replicate _, Decimal.legible_digits _⟩
  · cases ds with
    | nil => simp
    | cons d r =>
      rw [List.forall_mem_cons] at h
      cases r with
      | nil => simpa using h.1
      | cons d' r =>
        simp only [List.forall_mem_cons] at h ⊢
        exact ⟨h.1, by decide, h.2⟩
  · split <;> decide

/-- A number is written in digits, signs, points and letters. -/
theorem legible_write {layout : NumberLayout} (hnan : ∀ c ∈ layout.nan.toList, Legible c)
    (hinfinity : ∀ c ∈ layout.infinity.toList, Legible c) (x : Double) :
    ∀ c ∈ (layout.write x).toList, Legible c := by
  match x with
  | .nan => exact hnan
  | .infinite negative =>
    rw [write, String.toList_append, List.forall_mem_append]
    exact ⟨by cases negative <;> exact Text.legible_of_all rfl, hinfinity⟩
  | .finite negative 0 q => cases negative <;> simp [write] <;> decide
  | .finite negative (m + 1) q =>
    simp only [write, String.toList_ofList]
    generalize Decimal.Shortest.decimal (m + 1) q = found
    have hdigits := Decimal.legible_digits found.1
    have hplain := legible_positional hdigits
    have hscientific := legible_scientific layout.width hdigits
    cases negative with
    | false =>
      rw [if_neg Bool.false_ne_true]
      split
      · exact hplain _
      · exact hscientific _
    | true =>
      rw [if_pos rfl, List.forall_mem_cons]
      refine ⟨by decide, ?_⟩
      split
      · exact hplain _
      · exact hscientific _

end NumberLayout

namespace Json

open Text (Legible)

variable {style : Style}

theorem legible_escapeChar (c : Char) : ∀ d ∈ escapeChar true c, Legible d := by
  have hunit : ∀ n, ∀ d ∈ unitEscape n, Legible d := by
    intro n
    rw [unitEscape, List.forall_mem_cons, List.forall_mem_cons]
    exact ⟨by decide, by decide, Text.legible_hexDigits 4 n⟩
  unfold escapeChar
  -- the characters with a short escape
  iterate 7 refine Text.legible_ite (Text.legible_of_all rfl) fun _ => ?_
  split
  · apply Text.legible_ite (hunit _)
    intro _
    rw [List.forall_mem_append]
    exact ⟨hunit _, hunit _⟩
  · rename_i hcode
    rw [List.forall_mem_singleton, Legible]
    simp only [true_and, not_or, Nat.not_lt, Nat.not_le] at hcode
    exact hcode

theorem legible_writeText (s : String) : ∀ c ∈ writeText true s, Legible c := by
  rw [writeText, List.forall_mem_cons, List.forall_mem_append]
  refine ⟨by decide, ?_, Text.legible_of_all rfl⟩
  intro c hc
  obtain ⟨d, -, hd⟩ := List.mem_flatMap.1 hc
  exact legible_escapeChar d c hd

/-- A character that a style writes: a legible one, or a line break if it asks for lines. -/
def Style.Writes (style : Style) (c : Char) : Prop :=
  Legible c ∨ style.indent ≠ none ∧ c = '\n'

theorem writes_of_legible {text : List Char} (h : ∀ c ∈ text, Legible c) :
    ∀ c ∈ text, style.Writes c := fun c hc => .inl (h c hc)

/-- A style whose separators are legible and that escapes all but ASCII. -/
structure Style.Ascii (style : Style) : Prop where
  ascii : style.ascii = true
  comma : ∀ c ∈ style.comma, Legible c
  colon : ∀ c ∈ style.colon, Legible c

theorem Style.ascii_spaced : spaced.Ascii :=
  ⟨rfl, Text.legible_of_all rfl, Text.legible_of_all rfl⟩

theorem Style.ascii_compact : compact.Ascii :=
  ⟨rfl, Text.legible_of_all rfl, Text.legible_of_all rfl⟩

theorem Style.ascii_compactSorted : compactSorted.Ascii :=
  ⟨rfl, Text.legible_of_all rfl, Text.legible_of_all rfl⟩

theorem Style.ascii_indented : indented.Ascii :=
  ⟨rfl, Text.legible_of_all rfl, Text.legible_of_all rfl⟩

theorem writes_lineStart (depth : Nat) : ∀ c ∈ lineStart style depth, style.Writes c := by
  intro c hc
  unfold lineStart at hc
  cases hindent : style.indent with
  | none =>
    rw [hindent] at hc
    cases hc
  | some n =>
    rw [hindent] at hc
    rcases List.mem_cons.1 hc with rfl | hc
    · right
      simp [hindent]
    · left
      rw [List.eq_of_mem_replicate hc]
      decide

theorem writes_enclose (hs : style.Ascii) (depth : Nat) {first last : Char} (hfirst : Legible first)
    (hlast : Legible last) {texts : List (List Char)}
    (h : ∀ text ∈ texts, ∀ c ∈ text, style.Writes c) :
    ∀ c ∈ enclose style depth first last texts, style.Writes c := by
  cases texts with
  | nil =>
    simp only [enclose, List.forall_mem_cons]
    exact ⟨.inl hfirst, .inl hlast, List.forall_mem_nil _⟩
  | cons text texts =>
    rw [List.forall_mem_cons] at h
    intro c hc
    simp only [enclose, List.mem_cons, List.mem_append, List.mem_flatMap, List.not_mem_nil,
      or_false] at hc
    rcases hc with rfl | (((hc | hc) | ⟨next, hnext, (hc | hc) | hc⟩) | hc) | rfl
    · exact .inl hfirst
    · exact writes_lineStart _ c hc
    · exact h.1 c hc
    · exact .inl (hs.comma c hc)
    · exact writes_lineStart _ c hc
    · exact h.2 next hnext c hc
    · exact writes_lineStart _ c hc
    · exact .inl hlast

mutual

/-- A document is written in what the style writes, whatever its texts and keys are. -/
theorem writes_writeAt (hs : style.Ascii) (depth : Nat) :
    ∀ j : Json, ∀ c ∈ writeAt style depth j, style.Writes c
  | .null => writes_of_legible (Text.legible_of_all rfl)
  | .bool true => writes_of_legible (Text.legible_of_all rfl)
  | .bool false => writes_of_legible (Text.legible_of_all rfl)
  | .int i => writes_of_legible (Decimal.legible_integerChars i)
  | .float x => writes_of_legible
      (NumberLayout.legible_write (Text.legible_of_all rfl) (Text.legible_of_all rfl) x)
  | .text s => by
    rw [writeAt, hs.ascii]
    exact writes_of_legible (legible_writeText s)
  | .list items => by
    rw [writeAt]
    exact writes_enclose hs depth (by decide) (by decide) (writes_writeItems hs (depth + 1) items)
  | .object members => by
    have hmembers := writes_writeMembers hs (depth + 1) members
    rw [writeAt]
    apply writes_enclose hs depth (by decide) (by decide)
    intro text htext
    obtain ⟨m, hm, rfl⟩ := List.mem_map.1 htext
    have hwritten := hmembers m ((@inOrder_perm style _ _).mem_iff.1 hm)
    simp only [List.forall_mem_append]
    refine ⟨⟨?_, writes_of_legible hs.colon⟩, hwritten⟩
    rw [hs.ascii]
    exact writes_of_legible (legible_writeText m.1)

theorem writes_writeItems (hs : style.Ascii) (depth : Nat) :
    ∀ items : List Json, ∀ text ∈ writeItems style depth items, ∀ c ∈ text, style.Writes c
  | [] => by simp [writeItems]
  | j :: r => by
    rw [writeItems, List.forall_mem_cons]
    exact ⟨writes_writeAt hs depth j, writes_writeItems hs depth r⟩

theorem writes_writeMembers (hs : style.Ascii) (depth : Nat) :
    ∀ members : List (String × Json), ∀ m ∈ writeMembers style depth members,
      ∀ c ∈ m.2, style.Writes c
  | [] => by simp [writeMembers]
  | (k, j) :: r => by
    rw [writeMembers, List.forall_mem_cons]
    exact ⟨writes_writeAt hs depth j, writes_writeMembers hs depth r⟩

end

/-- **A document that is written on one line is legible**, whatever its texts and keys are. -/
theorem legible_write (hs : style.Ascii) (hline : style.indent = none) (j : Json) :
    ∀ c ∈ (j.write style).toList, Legible c := by
  rw [write, String.toList_ofList]
  intro c hc
  rcases writes_writeAt hs 0 j c hc with h | ⟨h, -⟩
  · exact h
  · exact absurd hline h

end Json

end Stowage
