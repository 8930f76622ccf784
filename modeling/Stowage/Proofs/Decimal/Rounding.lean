import Mathlib.Algebra.Order.Field.Power
import Mathlib.Data.Nat.Log
import Mathlib.Data.Rat.Cast.Order
import Mathlib.Tactic.FieldSimp
import Mathlib.Tactic.Linarith
import Mathlib.Tactic.NormNum
import Mathlib.Tactic.Positivity
import Mathlib.Tactic.Ring
import Stowage.Decimal.Double

/-!
Ratios, rounded to numbers of double precision.

A ratio is rounded at the exponent at which it has 53 binary digits before the point
(`Double.exponentFor_spec`). So rounding depends on the value of the ratio only
(`Double.ofRatio_scale`), gives numbers in lowest terms (`Double.canonical_ofRatio`), and rounds to a
number whatever lies within a quarter of its last place (`Double.ofRatio_near`).
-/

namespace Stowage.Double

variable {n d m : Nat} {e q : Int}

/-! ## Quotients -/

/-- A quotient that is less than half away from a whole number is rounded to it. -/
theorem divideToEven_near (habove : 2 * n < (2 * m + 1) * d) (hbelow : 2 * m * d < 2 * n + d) :
    divideToEven n d = m := by
  have hd : 0 < d := by
    rcases Nat.eq_zero_or_pos d with rfl | hd
    · omega
    · exact hd
  have hsplit := Nat.div_add_mod n d
  have hrest := Nat.mod_lt n hd
  unfold divideToEven
  generalize n / d = k at hsplit
  generalize n % d = r at hsplit hrest
  have hle : k < m + 1 := by
    by_contra hgt
    have hmul : (m + 1) * d ≤ k * d := Nat.mul_le_mul_right d (by omega)
    nlinarith
  have hge : m < k + 2 := by
    by_contra hlt
    have hmul : (k + 2) * d ≤ m * d := Nat.mul_le_mul_right d (by omega)
    nlinarith
  obtain rfl | rfl : k = m ∨ m = k + 1 := by omega
  · have hless : 2 * r < d := by nlinarith
    rw [if_pos hless]
  · have hmore : d < 2 * r := by nlinarith
    rw [if_neg (by omega), if_neg (by omega)]

theorem divideToEven_bounds (n d : Nat) :
    n / d ≤ divideToEven n d ∧ divideToEven n d ≤ n / d + 1 := by
  simp only [divideToEven]
  split_ifs <;> omega

theorem divideToEven_scale {c : Nat} (hc : 0 < c) (n d : Nat) :
    divideToEven (c * n) (c * d) = divideToEven n d := by
  have hmod : c * n % (c * d) = c * (n % d) := Nat.mul_mod_mul_left c n d
  have hlt : 2 * (c * (n % d)) < c * d ↔ 2 * (n % d) < d := by
    rw [Nat.mul_left_comm, Nat.mul_lt_mul_left hc]
  have heq : 2 * (c * (n % d)) = c * d ↔ 2 * (n % d) = d := by
    rw [Nat.mul_left_comm, Nat.mul_right_inj (by omega)]
  unfold divideToEven
  rw [Nat.mul_div_mul_left n d hc, hmod]
  simp only [hlt, heq]

/-! ## Exponents -/

theorem scaledRatio_pos (hd : 0 < d) (n : Nat) (e : Int) : 0 < (scaledRatio n d e).2 := by
  unfold scaledRatio
  cases e with
  | ofNat k => exact Nat.mul_pos hd (Nat.pow_pos (by decide))
  | negSucc k => exact hd

/-- A ratio is scaled by a power of two. -/
theorem scaledRatio_value (hd : 0 < d) (n : Nat) (e : Int) :
    ((scaledRatio n d e).1 : ℚ) / (scaledRatio n d e).2 = n / d / 2 ^ e := by
  have hd' : (d : ℚ) ≠ 0 := by positivity
  cases e with
  | ofNat k =>
    simp only [scaledRatio, Nat.pow_eq, Int.ofNat_eq_natCast, zpow_natCast]
    push_cast
    rw [div_div]
  | negSucc k =>
    simp only [scaledRatio, Nat.pow_eq, zpow_negSucc]
    push_cast
    field_simp

/-- A ratio has fewer than `m` places at an exponent if it is less than `m` times the place. -/
theorem div_scaledRatio_lt (hd : 0 < d) :
    (scaledRatio n d e).1 / (scaledRatio n d e).2 < m ↔ (n : ℚ) / d < m * 2 ^ e := by
  have hb := scaledRatio_pos hd n e
  have hb' : (0 : ℚ) < (scaledRatio n d e).2 := by positivity
  rw [Nat.div_lt_iff_lt_mul hb, ← div_lt_iff₀ (by positivity), ← scaledRatio_value hd,
    div_lt_iff₀ hb']
  exact_mod_cast Iff.rfl

theorem scaledRatio_scale (c n d : Nat) (e : Int) :
    scaledRatio (c * n) (c * d) e = (c * (scaledRatio n d e).1, c * (scaledRatio n d e).2) := by
  cases e <;> simp [scaledRatio, Nat.mul_assoc]

theorem two_pow_log2 (hn : 0 < n) :
    (2 : ℚ) ^ (n.log2 : Int) ≤ n ∧ (n : ℚ) < 2 ^ ((n.log2 : Int) + 1) := by
  have hlow : 2 ^ n.log2 ≤ n := Nat.log2_self_le (by omega)
  have hhigh : n < 2 ^ (n.log2 + 1) := Nat.lt_log2_self
  constructor
  · rw [zpow_natCast]
    exact_mod_cast hlow
  · exact_mod_cast hhigh

/-- The exponent at which a ratio has 53 binary digits before the point, unless it is too small. -/
theorem exponentFor_spec (hn : 0 < n) (hd : 0 < d) : ∃ e : Int,
    exponentFor n d = max minExponent e ∧
      2 ^ 52 * 2 ^ e ≤ (n : ℚ) / d ∧ (n : ℚ) / d < 2 ^ 53 * 2 ^ e := by
  obtain ⟨hnlow, hnhigh⟩ := two_pow_log2 hn
  obtain ⟨hdlow, hdhigh⟩ := two_pow_log2 hd
  have hd' : (0 : ℚ) < d := by positivity
  unfold exponentFor
  generalize hfirst : (n.log2 : Int) - d.log2 - 52 = e
  -- the ratio of the highest binary digits is at most one place off
  have hlow : 2 ^ 51 * 2 ^ e ≤ (n : ℚ) / d := by
    have hpow : (2 : ℚ) ^ 51 * 2 ^ e * 2 ^ ((d.log2 : Int) + 1) = 2 ^ (n.log2 : Int) := by
      rw [← zpow_natCast, ← zpow_add₀ two_ne_zero, ← zpow_add₀ two_ne_zero]
      congr 1
      push_cast
      omega
    rw [le_div_iff₀ hd']
    calc (2 : ℚ) ^ 51 * 2 ^ e * d ≤ 2 ^ 51 * 2 ^ e * 2 ^ ((d.log2 : Int) + 1) := by gcongr
      _ = 2 ^ (n.log2 : Int) := hpow
      _ ≤ n := hnlow
  have hhigh : (n : ℚ) / d < 2 ^ 53 * 2 ^ e := by
    have hpow : (2 : ℚ) ^ 53 * 2 ^ e * 2 ^ (d.log2 : Int) = 2 ^ ((n.log2 : Int) + 1) := by
      rw [← zpow_natCast, ← zpow_add₀ two_ne_zero, ← zpow_add₀ two_ne_zero]
      congr 1
      push_cast
      omega
    rw [div_lt_iff₀ hd']
    calc (n : ℚ) < 2 ^ ((n.log2 : Int) + 1) := hnhigh
      _ = 2 ^ 53 * 2 ^ e * 2 ^ (d.log2 : Int) := hpow.symm
      _ ≤ 2 ^ 53 * 2 ^ e * d := by gcongr
  have hbelow : (scaledRatio n d e).1 / (scaledRatio n d e).2 < Nat.pow 2 52 ↔
      (n : ℚ) / d < 2 ^ 52 * 2 ^ e := by
    rw [div_scaledRatio_lt hd]
    norm_num
  by_cases hless : (n : ℚ) / d < 2 ^ 52 * 2 ^ e
  · refine ⟨e - 1, ?_, ?_, ?_⟩
    · simp only [hbelow, hless, if_true]
    · rw [zpow_sub_one₀ two_ne_zero]
      linarith
    · rw [zpow_sub_one₀ two_ne_zero]
      linarith
  · refine ⟨e, ?_, not_lt.1 hless, hhigh⟩
    simp only [hbelow, hless, if_false]

/-- There is one exponent only at which a ratio has 53 binary digits before the point. -/
theorem exponent_unique {r : ℚ} {e e' : Int} (hlow : 2 ^ 52 * 2 ^ e ≤ r)
    (hhigh : r < 2 ^ 53 * 2 ^ e') : e ≤ e' := by
  by_contra hgt
  have hpow : (2 : ℚ) ^ (e' + 1) ≤ 2 ^ e := zpow_le_zpow_right₀ (by norm_num) (by omega)
  rw [zpow_add_one₀ two_ne_zero] at hpow
  linarith

theorem exponentFor_scale {c : Nat} (hc : 0 < c) (hn : 0 < n) (hd : 0 < d) :
    exponentFor (c * n) (c * d) = exponentFor n d := by
  obtain ⟨e, he, hlow, hhigh⟩ := exponentFor_spec hn hd
  obtain ⟨e', he', hlow', hhigh'⟩ := exponentFor_spec (Nat.mul_pos hc hn) (Nat.mul_pos hc hd)
  have hvalue : ((c * n : Nat) : ℚ) / (c * d : Nat) = n / d := by
    push_cast
    field_simp
  rw [hvalue] at hlow' hhigh'
  have heq : e = e' := by
    apply le_antisymm
    · exact exponent_unique hlow hhigh'
    · exact exponent_unique hlow' hhigh
  rw [he, he', heq]

/-! ## Ratios -/

/-- A ratio in other terms is rounded alike. -/
theorem ofRatio_scale {c : Nat} (hc : 0 < c) (negative : Bool) (n : Nat) (hd : 0 < d) :
    ofRatio negative (c * n) (c * d) = ofRatio negative n d := by
  rcases Nat.eq_zero_or_pos n with rfl | hn
  · rfl
  · have hne : c * n ≠ 0 := by positivity
    have hscaled := scaledRatio_scale c n d (exponentFor n d)
    unfold ofRatio
    rw [if_neg hne, if_neg (by omega), exponentFor_scale hc hn hd]
    simp only [hscaled, divideToEven_scale hc]

/-- A finite number that is in lowest terms: its mantissa has 53 binary digits, or fewer if the
exponent is the least. -/
structure Normal (m : Nat) (q : Int) : Prop where
  mantissa : m < 2 ^ 53
  least : minExponent ≤ q
  greatest : q ≤ maxExponent
  full : 2 ^ 52 ≤ m ∨ q = minExponent

/-- A number as the format has it: a finite one is in lowest terms. -/
def Canonical : Double → Prop
  | .finite _ m q => Normal m q
  | _ => True

theorem canonical_zero (negative : Bool) : (zero negative).Canonical :=
  ⟨by decide, by decide, by decide, .inr rfl⟩

/-- At its exponent a ratio is rounded to 53 binary digits, or to fewer if the exponent is the
least, unless it is rounded up to the next power of two. -/
theorem divideToEven_exponentFor (hn : 0 < n) (hd : 0 < d) {scaled : Nat × Nat}
    (h : scaledRatio n d (exponentFor n d) = scaled) :
    divideToEven scaled.1 scaled.2 ≤ 2 ^ 53 ∧
      (2 ^ 52 ≤ divideToEven scaled.1 scaled.2 ∨ exponentFor n d = minExponent) := by
  obtain ⟨e, he, hlow, hhigh⟩ := exponentFor_spec hn hd
  obtain ⟨hfloor, hceil⟩ := divideToEven_bounds scaled.1 scaled.2
  have hscaled : ∀ m : Nat, scaled.1 / scaled.2 < m ↔ (n : ℚ) / d < m * 2 ^ exponentFor n d := by
    intro m
    rw [← h, div_scaledRatio_lt hd]
  constructor
  · have hless : scaled.1 / scaled.2 < 2 ^ 53 := by
      have hpow : (2 : ℚ) ^ e ≤ 2 ^ exponentFor n d :=
        zpow_le_zpow_right₀ (by norm_num) (by omega)
      rw [hscaled]
      push_cast
      linarith
    omega
  · rcases le_or_gt e minExponent with hsmall | hlarge
    · right
      omega
    · left
      have hfull : ¬ scaled.1 / scaled.2 < 2 ^ 52 := by
        rw [hscaled, not_lt, he, max_eq_right (le_of_lt hlarge)]
        exact_mod_cast hlow
      omega

/-- What is rounded is in lowest terms. -/
theorem canonical_ofRatio (hd : 0 < d) (negative : Bool) (n : Nat) :
    (ofRatio negative n d).Canonical := by
  rcases Nat.eq_zero_or_pos n with rfl | hn
  · exact canonical_zero negative
  have hleast : minExponent ≤ exponentFor n d := Int.le_max_left _ _
  generalize hscaled : scaledRatio n d (exponentFor n d) = scaled
  obtain ⟨hmost, hfull⟩ := divideToEven_exponentFor hn hd hscaled
  unfold ofRatio
  rw [if_neg (by omega)]
  simp only [hscaled]
  generalize exponentFor n d = q at hfull hleast
  generalize hm : divideToEven scaled.1 scaled.2 = m at hmost hfull
  by_cases htop : m = 2 ^ 53
  · simp only [Nat.pow_eq, htop, if_true]
    split
    · trivial
    · exact ⟨by decide, by omega, by omega, .inl (Nat.le_refl _)⟩
  · simp only [Nat.pow_eq, htop, if_false]
    split
    · trivial
    · exact ⟨by omega, hleast, by omega, hfull⟩

/-- A ratio that is scaled is rounded to a whole number less than half away. -/
theorem divideToEven_scaledRatio (hd : 0 < d) (habove : (n : ℚ) / d < (m + 1 / 2) * 2 ^ e)
    (hbelow : (m - 1 / 2) * 2 ^ e < (n : ℚ) / d) :
    divideToEven (scaledRatio n d e).1 (scaledRatio n d e).2 = m := by
  have hvalue := scaledRatio_value hd n e
  have hb : (0 : ℚ) < (scaledRatio n d e).2 := by
    have hpos := scaledRatio_pos hd n e
    positivity
  rw [← div_lt_iff₀ (by positivity), ← hvalue, div_lt_iff₀ hb] at habove
  rw [← lt_div_iff₀ (by positivity), ← hvalue, lt_div_iff₀ hb] at hbelow
  apply divideToEven_near
  · have hlt : (2 * (scaledRatio n d e).1 : ℚ) < (2 * m + 1) * (scaledRatio n d e).2 := by
      linarith
    exact_mod_cast hlt
  · have hlt : (2 * m * (scaledRatio n d e).2 : ℚ) <
        2 * (scaledRatio n d e).1 + (scaledRatio n d e).2 := by
      linarith
    exact_mod_cast hlt

/-- A ratio is rounded at a number's exponent if it has all binary digits there, or if there is no
lower exponent. -/
theorem exponentFor_full (h : Normal m q) (hn : 0 < n) (hd : 0 < d)
    (habove : (n : ℚ) / d < (m + 1) * 2 ^ q)
    (hfull : 2 ^ 52 * 2 ^ q ≤ (n : ℚ) / d ∨ q = minExponent) : exponentFor n d = q := by
  obtain ⟨e, he, hlow, hhigh⟩ := exponentFor_spec hn hd
  have hpow : (0 : ℚ) < 2 ^ q := by positivity
  have hmost : (m : ℚ) + 1 ≤ 2 ^ 53 := by exact_mod_cast h.mantissa
  have hle : e ≤ q := by
    apply exponent_unique hlow
    nlinarith
  rw [he]
  rcases hfull with hfull | hleast
  · have hge : q ≤ e := exponent_unique hfull hhigh
    have hleast := h.least
    omega
  · omega

/-- Just below a power of two a ratio is rounded at the exponent below: the places are half as
wide there. -/
theorem exponentFor_below (hq : minExponent < q) (hn : 0 < n) (hd : 0 < d)
    (hbelow : (2 ^ 52 - 1 / 4) * 2 ^ q < (n : ℚ) / d) (hless : (n : ℚ) / d < 2 ^ 52 * 2 ^ q) :
    exponentFor n d = q - 1 := by
  obtain ⟨e, he, hlow, hhigh⟩ := exponentFor_spec hn hd
  have hpow : (0 : ℚ) < 2 ^ q := by positivity
  have hge : q - 1 ≤ e := by
    apply exponent_unique _ hhigh
    rw [zpow_sub_one₀ two_ne_zero]
    nlinarith
  have hle : e ≤ q - 1 := by
    apply exponent_unique hlow
    rw [zpow_sub_one₀ two_ne_zero]
    linarith
  omega

/-- **What lies within a quarter of the last place of a number is rounded to it.** -/
theorem ofRatio_near (h : Normal m q) (hn : 0 < n) (hd : 0 < d)
    (habove : (n : ℚ) / d < (m + 1 / 4) * 2 ^ q) (hbelow : (m - 1 / 4) * 2 ^ q < (n : ℚ) / d)
    (negative : Bool) : ofRatio negative n d = .finite negative m q := by
  have hpow : (0 : ℚ) < 2 ^ q := by positivity
  unfold ofRatio
  rw [if_neg (by omega)]
  by_cases hfull : 2 ^ 52 * 2 ^ q ≤ (n : ℚ) / d ∨ q = minExponent
  · have hexponent : exponentFor n d = q := exponentFor_full h hn hd (by nlinarith) hfull
    have hround := divideToEven_scaledRatio (n := n) (m := m) (e := q) hd (by nlinarith)
      (by nlinarith)
    have hm : m ≠ Nat.pow 2 53 := Nat.ne_of_lt h.mantissa
    rw [hexponent]
    simp only [hround, hm, if_false]
    rw [if_neg (not_lt.2 h.greatest)]
  · -- the number is a power of two, and the ratio is rounded up to it
    rw [not_or, not_le] at hfull
    obtain ⟨hless, hleast⟩ := hfull
    have hm : m = 2 ^ 52 := by
      have hge : 2 ^ 52 ≤ m := h.full.resolve_right hleast
      have hlt : (m : ℚ) < 2 ^ 52 + 1 := by nlinarith
      have hlt' : m < 2 ^ 52 + 1 := by exact_mod_cast hlt
      omega
    subst hm
    push_cast at hbelow
    have hmin := h.least
    have hexponent : exponentFor n d = q - 1 :=
      exponentFor_below (by omega) hn hd hbelow hless
    have hhalf : (2 : ℚ) ^ q = 2 * 2 ^ (q - 1) := by
      rw [zpow_sub_one₀ two_ne_zero]
      ring
    have hround : divideToEven (scaledRatio n d (q - 1)).1 (scaledRatio n d (q - 1)).2 =
        Nat.pow 2 53 := by
      rw [hhalf] at hless hbelow
      have hplace : (0 : ℚ) < 2 ^ (q - 1) := by positivity
      apply divideToEven_scaledRatio hd
      · norm_num
        nlinarith
      · norm_num at hbelow ⊢
        nlinarith
    rw [hexponent]
    simp only [hround, if_true]
    rw [Int.sub_add_cancel, if_neg (not_lt.2 h.greatest)]
    rfl

end Stowage.Double
