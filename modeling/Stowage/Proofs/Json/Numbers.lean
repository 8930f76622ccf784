import Stowage.Proofs.Decimal.Shortest

/-!
Numbers of double precision, read back as they were written.

A number is written in the digits of its shortest decimal, with a point or an exponent among them.
What is read is a decimal of the same digits, which may have more zeros at its end, and so the number
itself (`Json.readAtom_float`).
-/

namespace Stowage

namespace Decimal

theorem ofDigits_append (ds fs : List Nat) :
    ofDigits (ds ++ fs) = ofDigits ds * 10 ^ fs.length + ofDigits fs := by
  have hfrom : ∀ (fs : List Nat) (n : Nat), fs.foldl (fun n d => 10 * n + d) n =
      n * 10 ^ fs.length + ofDigits fs := by
    intro fs
    unfold ofDigits
    induction fs with
    | nil => simp
    | cons d r ih =>
      intro n
      rw [List.foldl_cons, List.foldl_cons, ih (10 * n + d), ih (10 * 0 + d), List.length_cons,
        pow_succ]
      ring
  rw [ofDigits, List.foldl_append, hfrom]
  rfl

theorem ofDigits_zeros (k : Nat) : ofDigits (List.replicate k 0) = 0 := by
  induction k with
  | zero => rfl
  | succ k ih =>
    rw [List.replicate_succ', ofDigits_append, ih]
    rfl

theorem map_digitChar_zeros (k : Nat) :
    (List.replicate k 0).map digitChar = List.replicate k '0' := by
  rw [List.map_replicate]
  rfl

theorem lt_ten_of_mem_zeros {k d : Nat} (h : d ∈ List.replicate k 0) : d < 10 := by
  rw [List.eq_of_mem_replicate h]
  decide

end Decimal

namespace Json

open Decimal (digitChar digitValues digits ofDigits)

variable {d : Nat} {ds fs : List Nat} {rest : List Char}

theorem noDigit_cons {c : Char} (h : Text.asciiDigit? c = none) (r : List Char) :
    NoDigit (c :: r) := by
  rintro c' r' ⟨⟩
  exact h

theorem readFraction_map (hne : fs ≠ []) (hfs : ∀ x ∈ fs, x < 10) (hrest : NoDigit rest) :
    readFraction ('.' :: (fs.map digitChar ++ rest)) = some (fs, rest) := by
  rw [readFraction, readDigits_map hfs hrest]
  cases fs with
  | nil => exact absurd rfl hne
  | cons f r => rfl

/-- Digits with a point among them are read as a decimal. -/
theorem readNumber_point (hzero : d = 0 → ds = []) (hds : ∀ x ∈ d :: ds, x < 10) (hne : fs ≠ [])
    (hfs : ∀ x ∈ fs, x < 10) (hrest : NumberEnds rest) (negative : Bool) :
    readNumber negative ((d :: ds).map digitChar ++ '.' :: (fs.map digitChar ++ rest)) =
      .ok (.float (.ofDecimal negative (ofDigits (d :: ds ++ fs)) (-fs.length)), rest) := by
  have hpoint : NoDigit ('.' :: (fs.map digitChar ++ rest)) := noDigit_cons (by decide) _
  have hwhole := readWhole_map hzero hds hpoint
  unfold readNumber
  rw [hwhole]
  simp only [readFraction_map hne hfs hrest.noDigit, readExponent_of_ends hrest,
    Option.getD_none, Int.zero_sub]

/-- The sign and the digits of an exponent. -/
def exponentChars (width : Nat) (x : Int) : List Char :=
  'e' :: (if x < 0 then '-' else '+') ::
    (List.replicate (width - (digits x.natAbs).length) '0' ++ digits x.natAbs)

theorem readExponent_chars (width : Nat) (x : Int) (hrest : NoDigit rest) :
    readExponent (exponentChars width x ++ rest) = some (x, rest) := by
  generalize hk : width - (digits x.natAbs).length = k
  have hall : ∀ y ∈ List.replicate k 0 ++ digitValues x.natAbs, y < 10 := by
    intro y hy
    rcases List.mem_append.1 hy with hy | hy
    · exact Decimal.lt_ten_of_mem_zeros hy
    · exact Decimal.lt_ten_of_mem hy
  have hne : List.replicate k 0 ++ digitValues x.natAbs ≠ [] := by
    simp [Decimal.digitValues_ne_nil]
  have hread := readDigits_map hall hrest
  have hchars : List.replicate k '0' ++ digits x.natAbs =
      (List.replicate k 0 ++ digitValues x.natAbs).map digitChar := by
    rw [List.map_append, Decimal.map_digitChar_zeros, Decimal.digits_eq]
  have hvalue : ofDigits (List.replicate k 0 ++ digitValues x.natAbs) = x.natAbs := by
    rw [Decimal.ofDigits_append, Decimal.ofDigits_zeros, Decimal.ofDigits_digitValues, Nat.zero_mul,
      Nat.zero_add]
  unfold exponentChars
  rw [hk, hchars]
  generalize List.replicate k 0 ++ digitValues x.natAbs = ys at hne hread hvalue
  cases ys with
  | nil => exact absurd rfl hne
  | cons y r =>
    split
    · next hneg =>
      have hsigned : Decimal.signed true x.natAbs = x := by
        simp only [Decimal.signed, if_true]
        omega
      simp only [readExponent, List.cons_append, true_or, if_true, Decimal.sign, hread, hvalue,
        hsigned]
    · next hpos =>
      have hsigned : Decimal.signed false x.natAbs = x := by
        simp only [Decimal.signed, Bool.false_eq_true, if_false]
        omega
      simp only [readExponent, List.cons_append, true_or, if_true, Decimal.sign, hread, hvalue,
        hsigned]

/-- Digits with an exponent, and perhaps a point among them, are read as a decimal. -/
theorem readNumber_exponent (hd : d < 10) (hfs : ∀ x ∈ fs, x < 10) (width : Nat) (x : Int)
    (hrest : NoDigit rest) (negative : Bool) :
    readNumber negative (digitChar d :: ((if fs = [] then [] else '.' :: fs.map digitChar) ++
      (exponentChars width x ++ rest))) =
      .ok (.float (.ofDecimal negative (ofDigits (d :: fs)) (x - fs.length)), rest) := by
  have hone : ∀ y ∈ [d], y < 10 := by simpa using hd
  have hexponent := readExponent_chars width x hrest
  have hends : NoDigit (exponentChars width x ++ rest) := noDigit_cons (by decide) _
  unfold readNumber
  by_cases hne : fs = []
  · subst hne
    have hwhole := readWhole_map (fun _ => rfl) hone hends
    have hfraction : readFraction (exponentChars width x ++ rest) = none := rfl
    rw [List.map_singleton, List.singleton_append] at hwhole
    simp only [if_true, List.nil_append, hwhole, hfraction, hexponent, List.length_nil,
      Nat.cast_zero, Int.sub_zero]
  · have hwhole := readWhole_map (fun _ => rfl) hone
      (noDigit_cons (c := '.') (by decide) (fs.map digitChar ++ (exponentChars width x ++ rest)))
    rw [List.map_singleton, List.singleton_append] at hwhole
    simp only [hne, if_false, List.cons_append, hwhole, readFraction_map hne hfs hends, hexponent,
      Option.getD_some, List.nil_append]

/-- The digits of a number that is not zero. -/
theorem exists_digitValues {n : Nat} (hn : 0 < n) : ∃ d r, digitValues n = d :: r ∧ d ≠ 0 := by
  cases hv : digitValues n with
  | nil => exact absurd hv (Decimal.digitValues_ne_nil n)
  | cons d r =>
    refine ⟨d, r, rfl, ?_⟩
    intro hd
    have hvalue := Decimal.ofDigits_digitValues n
    rw [hv, Decimal.digitValues_cons hv hd, hd] at hvalue
    simp [ofDigits] at hvalue
    omega

/-- A text is digits around a point, the value of which is that of other digits, scaled. -/
structure Pointed (text : List Char) (digits : List Nat) (scale : Int) (first : Nat)
    (whole fraction : List Nat) : Prop where
  text_eq : text = (first :: whole).map digitChar ++ '.' :: fraction.map digitChar
  leading : first = 0 → whole = []
  whole_lt : ∀ x ∈ first :: whole, x < 10
  fraction_lt : ∀ x ∈ fraction, x < 10
  fraction_ne : fraction ≠ []
  zeros : ∃ k : Nat, ofDigits (first :: whole ++ fraction) = ofDigits digits * 10 ^ k ∧
    -(fraction.length : Int) = scale - k

section Positional

variable {d k : Nat} {r : List Nat}

theorem lt_ten_of_mem_zero : ∀ x ∈ [0], x < 10 := by decide

/-- No digit stands before the point. -/
theorem pointed_none (hall : ∀ x ∈ d :: r, x < 10) :
    Pointed (NumberLayout.positional ((d :: r).map digitChar) (.ofNat 0)) (d :: r)
      (.ofNat 0 - (d :: r).length) 0 [] (d :: r) where
  text_eq := by simp [NumberLayout.positional, digitChar]
  leading _ := rfl
  whole_lt := lt_ten_of_mem_zero
  fraction_lt := hall
  fraction_ne := by simp
  zeros := ⟨0, by simp [ofDigits], by simp⟩

/-- The point stands among the digits. -/
theorem pointed_among (hd : d ≠ 0) (hall : ∀ x ∈ d :: r, x < 10) (hk : k < r.length) :
    Pointed (NumberLayout.positional ((d :: r).map digitChar) (.ofNat (k + 1))) (d :: r)
      (.ofNat (k + 1) - (d :: r).length) d (r.take k) (r.drop k) where
  text_eq := by
    have hnone : k + 1 - (r.length + 1) = 0 := by omega
    have hsome : ¬r.length ≤ k := by omega
    simp [NumberLayout.positional, hnone, List.map_take, List.map_drop, hsome]
  leading h := absurd h hd
  whole_lt := by
    rw [List.forall_mem_cons] at hall ⊢
    exact ⟨hall.1, fun x hx => hall.2 x (List.mem_of_mem_take hx)⟩
  fraction_lt x hx := hall x (List.mem_cons_of_mem d (List.mem_of_mem_drop hx))
  fraction_ne := by
    rw [ne_eq, List.drop_eq_nil_iff]
    omega
  zeros := by
    refine ⟨0, by simp, ?_⟩
    simp
    omega

/-- Zeros stand between the digits and the point. -/
theorem pointed_after (hd : d ≠ 0) (hall : ∀ x ∈ d :: r, x < 10) (hk : r.length + 1 ≤ k) :
    Pointed (NumberLayout.positional ((d :: r).map digitChar) (.ofNat k)) (d :: r)
      (.ofNat k - (d :: r).length) d (r ++ List.replicate (k - (r.length + 1)) 0) [0] where
  text_eq := by
    have hpos : 0 < k := by omega
    have hchar : digitChar 0 = '0' := rfl
    have htake : (digitChar d :: r.map digitChar).take k = digitChar d :: r.map digitChar := by
      apply List.take_of_length_le
      simpa using hk
    simp [NumberLayout.positional, hk, htake, hchar]
  leading h := absurd h hd
  whole_lt := by
    intro x hx
    rw [← List.cons_append] at hx
    rcases List.mem_append.1 hx with hx | hx
    · exact hall x hx
    · exact Decimal.lt_ten_of_mem_zeros hx
  fraction_lt := lt_ten_of_mem_zero
  fraction_ne := by simp
  zeros := by
    have hlast : ofDigits [0] = 0 := rfl
    refine ⟨k - (r.length + 1) + 1, ?_, ?_⟩
    · rw [← List.cons_append, Decimal.ofDigits_append, Decimal.ofDigits_append,
        Decimal.ofDigits_zeros, hlast, List.length_replicate, pow_succ]
      simp [mul_assoc]
    · simp
      omega

/-- Zeros stand between the point and the digits. -/
theorem pointed_before (hall : ∀ x ∈ d :: r, x < 10) :
    Pointed (NumberLayout.positional ((d :: r).map digitChar) (.negSucc k)) (d :: r)
      (.negSucc k - (d :: r).length) 0 [] (List.replicate (k + 1) 0 ++ d :: r) where
  text_eq := by
    rw [List.map_append, Decimal.map_digitChar_zeros]
    rfl
  leading _ := rfl
  whole_lt := lt_ten_of_mem_zero
  fraction_lt := by
    intro x hx
    rcases List.mem_append.1 hx with hx | hx
    · exact Decimal.lt_ten_of_mem_zeros hx
    · exact hall x hx
  fraction_ne := by simp
  zeros := by
    refine ⟨0, ?_, ?_⟩
    · rw [Decimal.ofDigits_append, Decimal.ofDigits_append, Decimal.ofDigits_zeros]
      simp [ofDigits]
    · simp
      omega

/-- Digits are laid out around a point, with zeros where there are no digits of theirs. -/
theorem exists_pointed (hd : d ≠ 0) (hall : ∀ x ∈ d :: r, x < 10) (point : Int) :
    ∃ first whole fraction,
      Pointed (NumberLayout.positional ((d :: r).map digitChar) point) (d :: r)
        (point - (d :: r).length) first whole fraction := by
  cases point with
  | negSucc k => exact ⟨_, _, _, pointed_before hall⟩
  | ofNat k =>
    cases k with
    | zero => exact ⟨_, _, _, pointed_none hall⟩
    | succ k =>
      rcases Nat.lt_or_ge k r.length with hlt | hge
      · exact ⟨_, _, _, pointed_among hd hall hlt⟩
      · exact ⟨_, _, _, pointed_after hd hall (Nat.succ_le_succ hge)⟩

end Positional

variable {n : Nat}

/-- Digits around a point are read as their number, scaled to where the point stands. -/
theorem readNumber_positional (hn : 0 < n) (point : Int) (hrest : NumberEnds rest)
    (negative : Bool) :
    readNumber negative (NumberLayout.positional (digits n) point ++ rest) =
      .ok (.float (.ofDecimal negative n (point - (digits n).length)), rest) := by
  obtain ⟨d, r, hv, hd⟩ := exists_digitValues hn
  have hall : ∀ x ∈ d :: r, x < 10 := fun x hx => Decimal.lt_ten_of_mem (hv ▸ hx)
  have hvalue : ofDigits (d :: r) = n := by rw [← hv, Decimal.ofDigits_digitValues]
  obtain ⟨first, whole, fraction, h⟩ := exists_pointed hd hall point
  obtain ⟨k, hdigits, hscale⟩ := h.zeros
  rw [Decimal.digits_eq, hv, h.text_eq, List.append_assoc, List.cons_append,
    readNumber_point h.leading h.whole_lt h.fraction_ne h.fraction_lt hrest, hdigits, hscale,
    hvalue, Double.ofDecimal_ten_pow hn, List.length_map]

/-- Digits with an exponent are read as their number, scaled to where the point stands. -/
theorem readNumber_scientific (hn : 0 < n) (width : Nat) (exponent : Int) (hrest : NoDigit rest)
    (negative : Bool) :
    readNumber negative (NumberLayout.scientific width (digits n) exponent ++ rest) =
      .ok (.float (.ofDecimal negative n (exponent - ((digits n).length - 1))), rest) := by
  obtain ⟨d, r, hv, -⟩ := exists_digitValues hn
  have hall : ∀ x ∈ d :: r, x < 10 := fun x hx => Decimal.lt_ten_of_mem (hv ▸ hx)
  have hvalue : ofDigits (d :: r) = n := by rw [← hv, Decimal.ofDigits_digitValues]
  rw [List.forall_mem_cons] at hall
  have hread := readNumber_exponent hall.1 hall.2 width exponent hrest negative
  have htext : NumberLayout.scientific width (digits n) exponent ++ rest =
      digitChar d :: ((if r = [] then [] else '.' :: r.map digitChar) ++
        (exponentChars width exponent ++ rest)) := by
    rw [Decimal.digits_eq, hv]
    cases r <;> simp [NumberLayout.scientific, exponentChars]
  have hlength : ((digits n).length : Int) - 1 = r.length := by
    rw [Decimal.digits_eq, hv]
    simp
  rw [htext, hread, hvalue, hlength]

/-- The digits of a decimal as a layout has them, around a point or with an exponent. -/
def layoutChars (layout : NumberLayout) (n : Nat) (e : Int) : List Char :=
  let ds := digits n
  let leading : Int := e + ds.length - 1
  if layout.least ≤ leading ∧ leading < layout.below then NumberLayout.positional ds (leading + 1)
  else NumberLayout.scientific layout.width ds leading

/-- Digits in a layout are read as their decimal. -/
theorem readNumber_layoutChars (layout : NumberLayout) (hn : 0 < n) (e : Int)
    (hrest : NumberEnds rest) (negative : Bool) :
    readNumber negative (layoutChars layout n e ++ rest) =
      .ok (.float (.ofDecimal negative n e), rest) := by
  unfold layoutChars
  simp only
  split
  · rw [readNumber_positional hn _ hrest]
    congr 4
    omega
  · rw [readNumber_scientific hn _ _ hrest.noDigit]
    congr 4
    omega

theorem layoutChars_cons (layout : NumberLayout) (hn : 0 < n) (e : Int) :
    ∃ d < 10, ∃ r, layoutChars layout n e = digitChar d :: r := by
  obtain ⟨d, r, hv, hd⟩ := exists_digitValues hn
  have hall : ∀ x ∈ d :: r, x < 10 := fun x hx => Decimal.lt_ten_of_mem (hv ▸ hx)
  unfold layoutChars
  rw [Decimal.digits_eq, hv]
  simp only
  split
  · obtain ⟨first, whole, fraction, h⟩ := exists_pointed hd hall
      (e + ((d :: r).map digitChar).length - 1 + 1)
    exact ⟨first, h.whole_lt first List.mem_cons_self, _, h.text_eq⟩
  · refine ⟨d, hall d List.mem_cons_self, ?_⟩
    cases r <;> exact ⟨_, rfl⟩

theorem write_finite {m : Nat} (hm : 0 < m) (layout : NumberLayout) (negative : Bool) (q : Int) :
    (layout.write (.finite negative m q)).toList =
      (if negative then ['-'] else []) ++
        layoutChars layout (Decimal.Shortest.decimal m q).1 (Decimal.Shortest.decimal m q).2 := by
  obtain ⟨m, rfl⟩ := Nat.exists_eq_succ_of_ne_zero (by omega : m ≠ 0)
  rw [NumberLayout.write, String.toList_ofList]
  · cases negative <;> rfl
  · exact Nat.succ_ne_zero m

/-- **A number is read back as it was written.** -/
theorem readAtom_float {x : Double} (hx : x.Canonical) (hrest : NumberEnds rest) :
    readAtom ((NumberLayout.json.write x).toList ++ rest) = .ok (.float x, rest) := by
  cases x with
  | nan => rfl
  | infinite negative => cases negative <;> rfl
  | finite negative m q =>
    rcases Nat.eq_zero_or_pos m with rfl | hm
    · have hq : q = Double.minExponent := hx.full.resolve_left (by norm_num)
      have hzero : ∀ x ∈ [0], x < 10 := by decide
      have hread := readNumber_point (fun _ => rfl) hzero (by simp) hzero hrest negative
      subst hq
      cases negative with
      | false => exact (readAtom_digit (by decide : 0 < 10) _).trans hread
      | true => exact (readAtom_minus (by decide : 0 < 10) _).trans hread
    · obtain ⟨hn, hreads⟩ := Decimal.Shortest.decimal_reads hx hm
      obtain ⟨d, hd, r, hcons⟩ := layoutChars_cons .json hn (Decimal.Shortest.decimal m q).2
      have hread := readNumber_layoutChars .json hn (Decimal.Shortest.decimal m q).2 hrest negative
      rw [hreads, hcons] at hread
      rw [write_finite hm, hcons]
      cases negative with
      | false => exact (readAtom_digit hd _).trans hread
      | true => exact (readAtom_minus hd _).trans hread

end Json

end Stowage
