import Stowage.Decimal.Shortest
import Stowage.Proofs.Decimal.Rounding
import Stowage.Proofs.Json.Tokens

/-!
The fewest digits that read back, found for every number.

A decimal within a quarter of the last place of a number is read as that number
(`Double.ofDecimal_near`). The search for the shortest decimal comes to a grid that is that fine, so
it finds one, and what it finds reads back (`Decimal.Shortest.decimal_reads`).
-/

namespace Stowage

variable {m n : Nat} {q e : Int}

/-! ## Powers of two and of ten -/

/-- A binary place is more than 28 parts in 93 of a decimal one. -/
theorem two_pow_le_ten_pow {a b : Nat} (h : 28 * a ≤ 93 * b) : 2 ^ a ≤ 10 ^ b := by
  have hpow : (2 ^ a) ^ 93 ≤ (10 ^ b) ^ 93 :=
    calc (2 ^ a) ^ 93 = (2 ^ 93) ^ a := pow_right_comm 2 a 93
      _ ≤ (10 ^ 28) ^ a := Nat.pow_le_pow_left (by norm_num) a
      _ = 10 ^ (28 * a) := (pow_mul 10 28 a).symm
      _ ≤ 10 ^ (93 * b) := Nat.pow_le_pow_right (by norm_num) h
      _ = (10 ^ b) ^ 93 := by rw [mul_comm, pow_mul]
  exact (Nat.pow_le_pow_iff_left (by norm_num)).1 hpow

/-- A binary place is less than 3 parts in 10 of a decimal one. -/
theorem ten_pow_le_two_pow {a b : Nat} (h : 10 * a ≤ 3 * b) : 10 ^ a ≤ 2 ^ b := by
  have hpow : (10 ^ a) ^ 3 ≤ (2 ^ b) ^ 3 :=
    calc (10 ^ a) ^ 3 = (10 ^ 3) ^ a := pow_right_comm 10 a 3
      _ ≤ (2 ^ 10) ^ a := Nat.pow_le_pow_left (by norm_num) a
      _ = 2 ^ (10 * a) := (pow_mul 2 10 a).symm
      _ ≤ 2 ^ (3 * b) := Nat.pow_le_pow_right (by norm_num) h
      _ = (2 ^ b) ^ 3 := by rw [mul_comm, pow_mul]
  exact (Nat.pow_le_pow_iff_left (by norm_num)).1 hpow

/-! ## Digits -/

namespace Decimal

theorem length_digits (hn : 0 < n) : (digits n).length = (Nat.digits 10 n).length := by
  rw [digits_eq, List.length_map, digitValues, if_neg (by omega), List.length_reverse]

theorem length_digits_ten (hn : 0 < n) : (digits (10 * n)).length = (digits n).length + 1 := by
  have hdigits : Nat.digits 10 (10 * n) = 10 * n % 10 :: Nat.digits 10 (10 * n / 10) :=
    Nat.digits_def' (by omega) (by omega)
  rw [length_digits (by omega), length_digits hn, hdigits, List.length_cons,
    Nat.mul_div_cancel_left n (by omega)]

/-- A number lies between the powers of ten that its digits count. -/
theorem ten_pow_length_digits (hn : 0 < n) :
    10 ^ (digits n).length ≤ 10 * n ∧ n < 10 ^ (digits n).length := by
  rw [length_digits hn]
  exact ⟨Nat.base_pow_length_digits_le 10 n (by omega) (by omega),
    Nat.lt_base_pow_length_digits (by omega)⟩

end Decimal

namespace Double

/-! ## Decimals -/

/-- A decimal as a ratio, unless its size settles how it is read. -/
theorem ofDecimal_eq (hn : 0 < n) (negative : Bool) (e : Int) : ofDecimal negative n e =
    if ((Decimal.digits n).length : Int) + e > 400 then .infinite negative
    else if ((Decimal.digits n).length : Int) + e < -400 then zero negative
    else ofRatio negative (n * 10 ^ e.toNat) (10 ^ (-e).toNat) := by
  unfold ofDecimal
  rw [if_neg (by omega)]
  cases e with
  | ofNat k => simp
  | negSucc k => simp

/-- Whatever a decimal is read as is in lowest terms. -/
theorem canonical_ofDecimal (negative : Bool) (n : Nat) (e : Int) :
    (ofDecimal negative n e).Canonical := by
  rcases Nat.eq_zero_or_pos n with rfl | hn
  · exact canonical_zero negative
  · rw [ofDecimal_eq hn]
    split
    · trivial
    · split
      · exact canonical_zero negative
      · exact canonical_ofRatio (by positivity) negative _

/-- A decimal with another digit that is zero is read as the same number. -/
theorem ofDecimal_ten (hn : 0 < n) (negative : Bool) (e : Int) :
    ofDecimal negative (10 * n) (e - 1) = ofDecimal negative n e := by
  have hsize : ((Decimal.digits (10 * n)).length : Int) + (e - 1) =
      (Decimal.digits n).length + e := by
    rw [Decimal.length_digits_ten hn]
    push_cast
    omega
  have hratio : ofRatio negative (10 * n * 10 ^ (e - 1).toNat) (10 ^ (-(e - 1)).toNat) =
      ofRatio negative (n * 10 ^ e.toNat) (10 ^ (-e).toNat) := by
    rcases lt_or_ge 0 e with hpos | hneg
    · have hexponent : e.toNat = (e - 1).toNat + 1 := by omega
      have hnone : (-(e - 1)).toNat = (-e).toNat := by omega
      rw [hexponent, hnone, pow_succ]
      congr 1
      ring
    · have hexponent : (-(e - 1)).toNat = (-e).toNat + 1 := by omega
      have hnone : (e - 1).toNat = e.toNat := by omega
      rw [hexponent, hnone, pow_succ', mul_assoc]
      exact ofRatio_scale (by omega) negative _ (by positivity)
  rw [ofDecimal_eq (by omega), ofDecimal_eq hn, hsize, hratio]

theorem ofDecimal_ten_pow (hn : 0 < n) (negative : Bool) (e : Int) (k : Nat) :
    ofDecimal negative (n * 10 ^ k) (e - k) = ofDecimal negative n e := by
  induction k with
  | zero => simp
  | succ k ih =>
    have hstep := ofDecimal_ten (n := n * 10 ^ k) (by positivity) negative (e - k)
    rw [ih] at hstep
    rw [← hstep]
    congr 1
    · ring
    · push_cast
      ring

theorem ofRatio_sign {d : Nat} (h : ofRatio false n d = .finite false m q) (negative : Bool) :
    ofRatio negative n d = .finite negative m q := by
  unfold ofRatio zero at h ⊢
  split_ifs at h ⊢
  · cases h
    rfl
  · simp only at h ⊢
    split_ifs at h ⊢
    all_goals
      cases h
      rfl

/-- The sign of a decimal is that of the number. -/
theorem ofDecimal_sign (h : ofDecimal false n e = .finite false m q) (negative : Bool) :
    ofDecimal negative n e = .finite negative m q := by
  rcases Nat.eq_zero_or_pos n with rfl | hn
  · cases h
    rfl
  · rw [ofDecimal_eq hn] at h ⊢
    split_ifs at h ⊢
    · cases h
      rfl
    · exact ofRatio_sign h negative

theorem decimal_value (n : Nat) (e : Int) :
    ((n * 10 ^ e.toNat : Nat) : ℚ) / (10 ^ (-e).toNat : Nat) = n * 10 ^ e := by
  cases e with
  | ofNat k => simp
  | negSucc k => simp [zpow_negSucc, div_eq_mul_inv]

theorem ten_zpow_size (size : Nat) (e : Int) :
    (10 : ℚ) ^ ((size : Int) + e) = 10 ^ size * 10 ^ e := by
  rw [zpow_add₀ (by norm_num), zpow_natCast]

/-- A decimal that is hardly more than a number is not too large to be read. -/
theorem size_le (h : Normal m q) (hn : 0 < n) (habove : (n : ℚ) * 10 ^ e < (m + 1 / 4) * 2 ^ q) :
    ((Decimal.digits n).length : Int) + e ≤ 400 := by
  obtain ⟨hlength, -⟩ := Decimal.ten_pow_length_digits hn
  generalize (Decimal.digits n).length = size at hlength
  by_contra hgt
  have hpow : (10 : ℚ) ^ ((401 : Nat) : Int) ≤ 10 ^ ((size : Int) + e) :=
    zpow_le_zpow_right₀ (by norm_num) (by push_cast; omega)
  rw [zpow_natCast, ten_zpow_size] at hpow
  have hmost : (m : ℚ) + 1 / 4 ≤ 2 ^ 53 := by
    have hlt : (m : ℚ) + 1 ≤ 2 ^ 53 := by exact_mod_cast h.mantissa
    linarith
  have hq : (2 : ℚ) ^ q ≤ 2 ^ ((971 : Nat) : Int) :=
    zpow_le_zpow_right₀ (by norm_num) h.greatest
  have hlength' : (10 : ℚ) ^ size ≤ 10 * n := by exact_mod_cast hlength
  have hlargest : (2 : ℚ) ^ 1024 ≤ 10 ^ 309 := by
    exact_mod_cast two_pow_le_ten_pow (a := 1024) (b := 309) (by norm_num)
  have hchain : (10 : ℚ) ^ 401 < 10 ^ 310 :=
    calc (10 : ℚ) ^ 401 ≤ 10 ^ size * 10 ^ e := hpow
      _ ≤ 10 * n * 10 ^ e := by gcongr
      _ = 10 * (n * 10 ^ e) := by ring
      _ < 10 * ((m + 1 / 4) * 2 ^ q) := by gcongr
      _ ≤ 10 * (2 ^ 53 * 2 ^ ((971 : Nat) : Int)) := by gcongr
      _ = 10 * 2 ^ 1024 := by rw [zpow_natCast, ← pow_add]
      _ ≤ 10 * 10 ^ 309 := by gcongr
      _ = 10 ^ 310 := (pow_succ' 10 309).symm
  rw [pow_lt_pow_iff_right₀ (by norm_num)] at hchain
  omega

/-- A decimal that is hardly less than a number is not too small to be read. -/
theorem le_size (h : Normal m q) (hm : 0 < m) (hn : 0 < n)
    (hbelow : (m - 1 / 4) * 2 ^ q < (n : ℚ) * 10 ^ e) :
    -400 ≤ ((Decimal.digits n).length : Int) + e := by
  obtain ⟨-, hless⟩ := Decimal.ten_pow_length_digits hn
  generalize (Decimal.digits n).length = size at hless
  by_contra hlt
  have hpow : (10 : ℚ) ^ ((size : Int) + e) ≤ 10 ^ (-((401 : Nat) : Int)) :=
    zpow_le_zpow_right₀ (by norm_num) (by push_cast; omega)
  have hq : (2 : ℚ) ^ (-((1074 : Nat) : Int)) ≤ 2 ^ q :=
    zpow_le_zpow_right₀ (by norm_num) h.least
  rw [zpow_neg, zpow_natCast] at hpow hq
  rw [ten_zpow_size] at hpow
  have hhalf : (1 / 2 : ℚ) ≤ m - 1 / 4 := by
    have hge : (1 : ℚ) ≤ m := by exact_mod_cast hm
    linarith
  have hless' : (n : ℚ) < 10 ^ size := by exact_mod_cast hless
  have hleast : (10 ^ 324 : ℚ)⁻¹ ≤ (2 ^ 1075)⁻¹ := by
    apply inv_anti₀ (by positivity)
    exact_mod_cast two_pow_le_ten_pow (a := 1075) (b := 324) (by norm_num)
  have hchain : (10 ^ 324 : ℚ)⁻¹ < (10 ^ 401)⁻¹ :=
    calc (10 ^ 324 : ℚ)⁻¹ ≤ (2 ^ 1075)⁻¹ := hleast
      _ = 1 / 2 * (2 ^ 1074)⁻¹ := by rw [pow_succ, mul_inv, one_div, mul_comm]
      _ ≤ (m - 1 / 4) * 2 ^ q := by gcongr
      _ < n * 10 ^ e := hbelow
      _ ≤ 10 ^ size * 10 ^ e := by gcongr
      _ ≤ (10 ^ 401)⁻¹ := hpow
  rw [inv_lt_inv₀ (by positivity) (by positivity), pow_lt_pow_iff_right₀ (by norm_num)] at hchain
  omega

/-- **A decimal within a quarter of the last place of a number is read as that number.** -/
theorem ofDecimal_near (h : Normal m q) (hm : 0 < m)
    (habove : (n : ℚ) * 10 ^ e < (m + 1 / 4) * 2 ^ q)
    (hbelow : (m - 1 / 4) * 2 ^ q < (n : ℚ) * 10 ^ e) (negative : Bool) :
    ofDecimal negative n e = .finite negative m q := by
  have hn : 0 < n := by
    have hge : (1 : ℚ) ≤ m := by exact_mod_cast hm
    have hpositive : (0 : ℚ) < (m - 1 / 4) * 2 ^ q := mul_pos (by linarith) (by positivity)
    have hvalue := hpositive.trans hbelow
    rcases Nat.eq_zero_or_pos n with rfl | hn
    · simp at hvalue
    · exact hn
  have hsmall := size_le h hn habove
  have hlarge := le_size h hm hn hbelow
  rw [ofDecimal_eq hn, if_neg (by omega), if_neg (by omega)]
  rw [← decimal_value] at habove hbelow
  exact ofRatio_near h (by positivity) (by positivity) habove hbelow negative

end Double

/-! ## The search -/

namespace Decimal.Shortest

theorem ratioAt_pos (m : Nat) (q e : Int) : 0 < (ratioAt m q e).2 := by
  unfold ratioAt
  cases q <;> cases e <;> simp

theorem ratioAt_value (m : Nat) (q e : Int) :
    ((ratioAt m q e).1 : ℚ) / (ratioAt m q e).2 = m * 2 ^ q / 10 ^ e := by
  unfold ratioAt
  cases q <;> cases e <;> simp [zpow_negSucc, div_eq_mul_inv, mul_assoc, mul_comm, mul_left_comm]

/-- What is found on a grid reads back. -/
theorem readsBack_of_onGrid? (h : onGrid? m q e = some n) : readsBack m q n e = true := by
  unfold onGrid? at h
  simp only at h
  split at h
  · next hboth =>
    rw [Bool.and_eq_true] at hboth
    split_ifs at h <;> cases h
    · exact hboth.1
    · exact hboth.1
    · exact hboth.2
    · exact hboth.2
  · split at h
    · cases h
      assumption
    · split at h
      · cases h
        assumption
      · cases h

/-- On a grid that is fine enough something is found. -/
theorem exists_onGrid? (h : Double.Normal m q) (hm : 0 < m) (he : (4 : ℚ) * 10 ^ e ≤ 2 ^ q) :
    ∃ n, onGrid? m q e = some n := by
  have hb := ratioAt_pos m q e
  have hvalue := ratioAt_value m q e
  have hten : (0 : ℚ) < 10 ^ e := by positivity
  obtain ⟨hlow, hhigh⟩ : (((ratioAt m q e).1 / (ratioAt m q e).2 : Nat) : ℚ) * 10 ^ e ≤ m * 2 ^ q ∧
      (m : ℚ) * 2 ^ q < (((ratioAt m q e).1 / (ratioAt m q e).2 : Nat) + 1) * 10 ^ e := by
    have hb' : (0 : ℚ) < (ratioAt m q e).2 := by positivity
    rw [← le_div_iff₀ hten, ← div_lt_iff₀ hten, ← hvalue, le_div_iff₀ hb', div_lt_iff₀ hb']
    constructor
    · exact_mod_cast Nat.div_mul_le_self _ _
    · rw [mul_comm]
      exact_mod_cast Nat.lt_mul_div_succ (ratioAt m q e).1 hb
  have hreads : readsBack m q ((ratioAt m q e).1 / (ratioAt m q e).2) e = true := by
    rw [readsBack, decide_eq_true_eq]
    apply Double.ofDecimal_near h hm
    · nlinarith
    · nlinarith
  unfold onGrid?
  simp only [hreads]
  split_ifs <;> simp_all

theorem readsBack_of_search {top : Int} {left count : Nat} {found : Nat × Int}
    (h : search m q top left count = some found) : readsBack m q found.1 found.2 = true := by
  induction left generalizing count with
  | zero => cases h
  | succ left ih =>
    unfold search at h
    simp only at h
    split at h
    · next hgrid =>
      cases h
      exact readsBack_of_onGrid? hgrid
    · exact ih h

/-- The search ends where something is found on one of its grids. -/
theorem exists_search {top : Int} {left count c : Nat} (hc : count ≤ c) (hlast : c < count + left)
    (h : ∃ n, onGrid? m q (top - c) = some n) :
    ∃ found, search m q top left count = some found := by
  induction left generalizing count with
  | zero => omega
  | succ left ih =>
    unfold search
    simp only
    cases hgrid : onGrid? m q (top - count) with
    | some n => exact ⟨_, rfl⟩
    | none =>
      have hne : count ≠ c := by
        rintro rfl
        obtain ⟨n, hn⟩ := h
        rw [hgrid] at hn
        cases hn
      exact ih (by omega) (by omega)

/-- The last grid of the search is fine enough. -/
theorem magnitude_fine (h : Double.Normal m q) :
    (4 : ℚ) * 10 ^ (magnitude m q - (23 : Nat)) ≤ 2 ^ q := by
  have hleast : (-1074 : Int) ≤ q := h.least
  have hgreatest : q ≤ (971 : Int) := h.greatest
  have hlog : m.log2 ≤ 52 := by
    rcases Nat.eq_zero_or_pos m with rfl | hm
    · simp
    · exact Nat.le_of_lt_succ ((Nat.log2_lt (by omega)).2 h.mantissa)
  have htop : 100000 * (magnitude m q - (23 : Nat) + 21) ≤ 30103 * (q + 53) := by
    unfold magnitude
    omega
  generalize magnitude m q - (23 : Nat) = e at htop ⊢
  have hpow : (10 : ℚ) ^ e ≤ 2 ^ (q - 2) := by
    rcases lt_or_ge (q - 2) 0 with hneg | hpos
    · obtain ⟨a, rfl⟩ : ∃ a : Nat, e = -(a : Int) := ⟨(-e).toNat, by omega⟩
      obtain ⟨b, hb⟩ : ∃ b : Nat, q - 2 = -(b : Int) := ⟨(2 - q).toNat, by omega⟩
      rw [hb, zpow_neg, zpow_neg, zpow_natCast, zpow_natCast]
      apply inv_anti₀ (by positivity)
      exact_mod_cast two_pow_le_ten_pow (a := b) (b := a) (by omega)
    · obtain ⟨b, hb⟩ : ∃ b : Nat, q - 2 = b := ⟨(q - 2).toNat, by omega⟩
      rw [hb, zpow_natCast]
      rcases lt_or_ge 0 e with hlarge | hsmall
      · obtain ⟨a, rfl⟩ : ∃ a : Nat, e = a := ⟨e.toNat, by omega⟩
        rw [zpow_natCast]
        exact_mod_cast ten_pow_le_two_pow (a := a) (b := b) (by omega)
      · calc (10 : ℚ) ^ e ≤ 1 := zpow_le_one_of_nonpos₀ (by norm_num) hsmall
          _ ≤ 2 ^ b := one_le_pow₀ (by norm_num)
  calc (4 : ℚ) * 10 ^ e ≤ 4 * 2 ^ (q - 2) := by gcongr
    _ = 2 ^ q := by
      rw [zpow_sub₀ two_ne_zero]
      norm_num
      ring

/-- The search finds a decimal that reads back. -/
theorem exists_readsBack (h : Double.Normal m q) (hm : 0 < m) : ∃ found,
    search m q (magnitude m q) 24 0 = some found ∧ readsBack m q found.1 found.2 = true := by
  obtain ⟨found, hfound⟩ := exists_search (Nat.zero_le 23) (by omega : 23 < 0 + 24)
    (exists_onGrid? h hm (magnitude_fine h))
  exact ⟨found, hfound, readsBack_of_search hfound⟩

/-- Zeros at the end make no difference to how a decimal is read. -/
theorem stripZeros_spec (fuel : Nat) (hn : 0 < n) (e : Int) :
    0 < (stripZeros fuel n e).1 ∧ ∀ negative,
      Double.ofDecimal negative (stripZeros fuel n e).1 (stripZeros fuel n e).2 =
        Double.ofDecimal negative n e := by
  induction fuel generalizing n e with
  | zero => exact ⟨hn, fun _ => rfl⟩
  | succ fuel ih =>
    unfold stripZeros
    split
    · next hzero =>
      have hten : n = 10 * (n / 10) := by omega
      have hpos : 0 < n / 10 := by omega
      obtain ⟨hfirst, hrest⟩ := ih hpos (e + 1)
      refine ⟨hfirst, ?_⟩
      intro negative
      have hstep := Double.ofDecimal_ten hpos negative (e + 1)
      rw [← hten, Int.add_sub_cancel] at hstep
      rw [hrest, hstep]
    · exact ⟨hn, fun _ => rfl⟩

/-- **The shortest decimal of a number is read as that number.** -/
theorem decimal_reads (h : Double.Normal m q) (hm : 0 < m) : 0 < (decimal m q).1 ∧
    ∀ negative, Double.ofDecimal negative (decimal m q).1 (decimal m q).2 =
      .finite negative m q := by
  obtain ⟨⟨n, e⟩, hfound, hreads⟩ := exists_readsBack h hm
  rw [readsBack, decide_eq_true_eq] at hreads
  have hn : 0 < n := by
    rcases Nat.eq_zero_or_pos n with rfl | hn
    · cases hreads
      omega
    · exact hn
  obtain ⟨hpos, hstrip⟩ := stripZeros_spec 20 hn e
  unfold decimal
  rw [hfound]
  refine ⟨hpos, ?_⟩
  intro negative
  rw [hstrip negative]
  exact Double.ofDecimal_sign hreads negative

end Decimal.Shortest

end Stowage
