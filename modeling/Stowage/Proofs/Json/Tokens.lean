import Mathlib.Data.Nat.Digits.Lemmas
import Stowage.Json.Printer
import Stowage.Json.Reader

/-!
Tokens of JSON, read back as they were written.

Numbers are compared with Mathlib's `Nat.digits`, which come least significant first. A string is
read back character by character (`readChars_writeText`): what is escaped is read as the character
that it stands for, beyond the basic plane from two units.
-/

namespace Stowage

namespace Decimal

/-- The values of the digits of a number, most significant first. -/
def digitValues (n : Nat) : List Nat := if n = 0 then [0] else (Nat.digits 10 n).reverse

theorem digitsOnto_eq (n : Nat) (rest : List Char) :
    digitsOnto n rest = (digitValues n).map digitChar ++ rest := by
  induction n using Nat.strongRecOn generalizing rest with
  | ind n ih =>
    unfold digitsOnto
    by_cases hsmall : n < 10
    · rw [if_pos hsmall]
      unfold digitValues
      by_cases hzero : n = 0
      · simp [hzero]
      · rw [if_neg hzero, Nat.digits_of_lt 10 n hzero hsmall]
        rfl
    · have hdiv : n / 10 ≠ 0 := by omega
      rw [if_neg hsmall, ih (n / 10) (by omega)]
      unfold digitValues
      have hdef : Nat.digits 10 n = n % 10 :: Nat.digits 10 (n / 10) :=
        Nat.digits_def' (by omega) (by omega)
      rw [if_neg hdiv, if_neg (by omega), hdef, List.reverse_cons, List.map_append,
        List.append_assoc]
      rfl

theorem digits_eq (n : Nat) : digits n = (digitValues n).map digitChar := by
  unfold digits
  rw [digitsOnto_eq, List.append_nil]

theorem lt_ten_of_mem {n d : Nat} (h : d ∈ digitValues n) : d < 10 := by
  unfold digitValues at h
  split at h
  · rw [List.mem_singleton.1 h]
    omega
  · exact Nat.digits_lt_base (by omega) (List.mem_reverse.1 h)

/-- A number is what its digits denote. -/
theorem ofDigits_digitValues (n : Nat) : ofDigits (digitValues n) = n := by
  have hfold : ∀ l : List Nat, l.foldr (fun d n => 10 * n + d) 0 = Nat.ofDigits 10 l := by
    intro l
    induction l with
    | nil => rfl
    | cons d r ih =>
      rw [List.foldr_cons, ih, Nat.ofDigits_cons]
      omega
  unfold ofDigits digitValues
  split
  · rename_i hzero
    rw [hzero]
    rfl
  · rw [List.foldl_reverse, hfold, Nat.ofDigits_digits]

theorem digitValues_ne_nil (n : Nat) : digitValues n ≠ [] := by
  unfold digitValues
  split
  · exact List.cons_ne_nil 0 []
  · rename_i hn
    exact mt List.reverse_eq_nil_iff.1 (Nat.digits_ne_nil_iff_ne_zero.2 hn)

/-- Only zero has digits that begin with zero. -/
theorem digitValues_cons {n d : Nat} {r : List Nat} (h : digitValues n = d :: r) (hd : d = 0) :
    r = [] := by
  unfold digitValues at h
  split at h
  · cases h
    rfl
  · rename_i hn
    have hlast := Nat.getLast_digit_ne_zero 10 hn
    have hdigits : Nat.digits 10 n = r.reverse ++ [d] := by
      rw [← List.reverse_reverse (Nat.digits 10 n), h, List.reverse_cons]
    simp only [hdigits, List.getLast_append_singleton] at hlast
    exact absurd hd hlast

/-- What can be written has no more digits than are read. -/
theorem length_digitValues {n : Nat} (h : isOverlong n = false) :
    (digitValues n).length ≤ maxDigits := by
  unfold digitValues
  split
  · exact Nat.succ_le_of_lt (Nat.succ_pos _)
  · rw [isOverlong, decide_eq_false_iff_not, Nat.not_le, Int.natAbs_natCast] at h
    generalize maxDigits = most at h ⊢
    rw [List.length_reverse]
    exact (Nat.digits_length_le_iff (by omega) n).2 h

end Decimal

namespace Text

theorem asciiDigit?_digitChar {d : Nat} (h : d < 10) :
    asciiDigit? (Decimal.digitChar d) = some d := by
  have hall : ∀ d < 10, asciiDigit? (Decimal.digitChar d) = some d := by decide
  exact hall d h

theorem hexDigit?_hexDigit {d : Nat} (h : d < 16) : hexDigit? (hexDigit d) = some d := by
  have hall : ∀ d < 16, hexDigit? (hexDigit d) = some d := by decide
  exact hall d h

end Text

namespace Json

/-! ## Numbers -/

/-- What follows a number does not go on with it. -/
def NumberEnds (rest : List Char) : Prop :=
  ∀ c r, rest = c :: r → Text.asciiDigit? c = none ∧ c ≠ '.' ∧ c ≠ 'e' ∧ c ≠ 'E'

theorem numberEnds_nil : NumberEnds [] := fun _ _ h => by cases h

theorem numberEnds_cons {c : Char} {r : List Char}
    (h : Text.asciiDigit? c = none ∧ c ≠ '.' ∧ c ≠ 'e' ∧ c ≠ 'E') : NumberEnds (c :: r) := by
  intro c' r' heq
  cases heq
  exact h

/-- What follows does not begin with a digit. -/
def NoDigit (rest : List Char) : Prop := ∀ c r, rest = c :: r → Text.asciiDigit? c = none

theorem NumberEnds.noDigit {rest : List Char} (h : NumberEnds rest) : NoDigit rest :=
  fun c r heq => (h c r heq).1

theorem readDigits_map {ds : List Nat} (h : ∀ d ∈ ds, d < 10) {rest : List Char}
    (hrest : NoDigit rest) : readDigits (ds.map Decimal.digitChar ++ rest) = (ds, rest) := by
  induction ds with
  | nil =>
    cases rest with
    | nil => rfl
    | cons c r =>
      have hc := hrest c r rfl
      simp [readDigits, hc]
  | cons d ds ih =>
    have hd := Text.asciiDigit?_digitChar (h d List.mem_cons_self)
    have hds := ih fun d hd => h d (List.mem_cons_of_mem _ hd)
    simp only [List.map_cons, List.cons_append, readDigits, hd, hds]

/-- Digits that do not begin with zero, or a single zero, stand before a point. -/
theorem readWhole_map {d : Nat} {ds : List Nat} (hzero : d = 0 → ds = [])
    (h : ∀ x ∈ d :: ds, x < 10) {rest : List Char} (hrest : NoDigit rest) :
    readWhole ((d :: ds).map Decimal.digitChar ++ rest) = some (d :: ds, rest) := by
  by_cases hd : d = 0
  · rw [hzero hd, hd]
    rfl
  · have hread := readDigits_map h hrest
    have hne : Decimal.digitChar d ≠ '0' := by
      have hall : ∀ d < 10, d ≠ 0 → Decimal.digitChar d ≠ '0' := by decide
      exact hall d (h d List.mem_cons_self) hd
    unfold readWhole
    split
    · rename_i heq
      exact absurd (List.cons.inj heq).1 hne
    · rw [hread]

/-- The digits of a number begin with one that is not zero, or are that of zero. -/
theorem readWhole_digits (n : Nat) {rest : List Char} (hrest : NoDigit rest) :
    readWhole (Decimal.digits n ++ rest) = some (Decimal.digitValues n, rest) := by
  have hlt : ∀ d ∈ Decimal.digitValues n, d < 10 := fun _ hd => Decimal.lt_ten_of_mem hd
  rw [Decimal.digits_eq]
  cases hv : Decimal.digitValues n with
  | nil => exact absurd hv (Decimal.digitValues_ne_nil n)
  | cons d r =>
    rw [hv] at hlt
    exact readWhole_map (Decimal.digitValues_cons hv) hlt hrest

theorem readFraction_of_ends {rest : List Char} (h : NumberEnds rest) :
    readFraction rest = none := by
  unfold readFraction
  split
  · exact absurd rfl (h _ _ rfl).2.1
  · rfl

theorem readExponent_of_ends {rest : List Char} (h : NumberEnds rest) :
    readExponent rest = none := by
  cases rest with
  | nil => rfl
  | cons c r =>
    obtain ⟨-, -, he, hE⟩ := h c r rfl
    simp [readExponent, he, hE]

theorem readNumber_digits (negative : Bool) {n : Nat} (h : Decimal.isOverlong n = false)
    {rest : List Char} (hrest : NumberEnds rest) :
    readNumber negative (Decimal.digits n ++ rest) =
      .ok (.int (Decimal.signed negative n), rest) := by
  unfold readNumber
  rw [readWhole_digits n hrest.noDigit]
  simp only [readFraction_of_ends hrest, readExponent_of_ends hrest,
    Decimal.length_digitValues h, if_true, Decimal.ofDigits_digitValues]

/-- The first character of a number is a digit. -/
theorem digits_cons (n : Nat) : ∃ d < 10, ∃ r, Decimal.digits n = Decimal.digitChar d :: r := by
  rw [Decimal.digits_eq]
  cases hv : Decimal.digitValues n with
  | nil => exact absurd hv (Decimal.digitValues_ne_nil n)
  | cons d r =>
    have hmem : d ∈ Decimal.digitValues n := hv ▸ List.mem_cons_self
    exact ⟨d, Decimal.lt_ten_of_mem hmem, r.map Decimal.digitChar, rfl⟩

theorem readAtom_digit {d : Nat} (hd : d < 10) (r : List Char) :
    readAtom (Decimal.digitChar d :: r) = readNumber false (Decimal.digitChar d :: r) := by
  interval_cases d <;> rfl

theorem readAtom_minus {d : Nat} (hd : d < 10) (r : List Char) :
    readAtom ('-' :: Decimal.digitChar d :: r) = readNumber true (Decimal.digitChar d :: r) := by
  interval_cases d <;> rfl

/-- An integer is read back, if it is not too long to be written. -/
theorem readAtom_integer {i : Int} (h : Decimal.isOverlong i = false) {rest : List Char}
    (hrest : NumberEnds rest) :
    readAtom (Decimal.integerChars i ++ rest) = .ok (.int i, rest) := by
  cases i with
  | ofNat n =>
    have hn := readNumber_digits false (n := n) h hrest
    obtain ⟨d, hd, r, hr⟩ := digits_cons n
    change readAtom (Decimal.digits n ++ rest) = _
    rw [hr, List.cons_append] at hn ⊢
    rw [readAtom_digit hd, hn]
    rfl
  | negSucc n =>
    have hn := readNumber_digits true (n := n + 1) h hrest
    obtain ⟨d, hd, r, hr⟩ := digits_cons (n + 1)
    change readAtom ('-' :: (Decimal.digits (n + 1) ++ rest)) = _
    rw [hr, List.cons_append] at hn ⊢
    rw [readAtom_minus hd, hn]
    rfl

/-! ## Strings -/

theorem hexUnit?_hexDigits {n : Nat} (h : n < 0x10000) (rest : List Char) :
    hexUnit? (Text.hexDigits 4 n ++ rest) = some (n, rest) := by
  have hdigit : ∀ m, Text.hexDigit? (Text.hexDigit (m % 16)) = some (m % 16) :=
    fun m => Text.hexDigit?_hexDigit (Nat.mod_lt m (by omega))
  simp only [Text.hexDigits, List.nil_append, List.cons_append, hexUnit?, hdigit,
    Option.bind_eq_bind, Option.bind_some, Option.some.injEq, Prod.mk.injEq, and_true]
  omega

/-- An escape by code stands for its character, in one unit or in two. -/
theorem readChars_codeEscape {fuel : Nat} (c : Char) {rest cs r : List Char}
    (h : readChars fuel rest = some (cs, r)) :
    readChars (fuel + 1) (codeEscape c.toNat ++ rest) = some (c :: cs, r) := by
  have hvalid : c.toNat < 0xd800 ∨ 0xdfff < c.toNat ∧ c.toNat < 0x110000 := c.valid
  unfold codeEscape unitEscape
  by_cases hplane : c.toNat < 0x10000
  · have hunit : unitChar c.toNat rest = (c, rest) := by
      unfold unitChar
      rw [if_neg (by omega), if_neg (by omega), Char.ofNat_toNat]
    rw [if_pos hplane]
    simp [readChars, hexUnit?_hexDigits hplane, hunit, h]
  · have hhigh : 0xd800 + (c.toNat - 0x10000) / 0x400 < 0x10000 := by omega
    have hlow : 0xdc00 + (c.toNat - 0x10000) % 0x400 < 0x10000 := by omega
    have hcode : 0x10000 + (0xd800 + (c.toNat - 0x10000) / 0x400 - 0xd800) * 0x400 +
        (0xdc00 + (c.toNat - 0x10000) % 0x400 - 0xdc00) = c.toNat := by omega
    have hunits : unitChar (0xd800 + (c.toNat - 0x10000) / 0x400)
        ('\\' :: 'u' :: (Text.hexDigits 4 (0xdc00 + (c.toNat - 0x10000) % 0x400) ++ rest)) =
        (c, rest) := by
      unfold unitChar
      rw [if_pos (by omega)]
      simp only [hexUnit?_hexDigits hlow]
      rw [if_pos (by omega), hcode, Char.ofNat_toNat]
    rw [if_neg hplane, List.append_assoc]
    simp only [List.cons_append, readChars, if_false, if_true, Char.reduceEq,
      hexUnit?_hexDigits hhigh, Option.bind_eq_bind, Option.bind_some, hunits, h]

/-- A character inside a string is read back. -/
theorem readChars_escapeChar {fuel : Nat} (ascii : Bool) (c : Char) {rest cs r : List Char}
    (h : readChars fuel rest = some (cs, r)) :
    readChars (fuel + 1) (escapeChar ascii c ++ rest) = some (c :: cs, r) := by
  unfold escapeChar
  split_ifs with hquote hback hfeed hreturn htab hbell hform hcode
  · simp [readChars, letterEscape?, h, hquote]
  · simp [readChars, letterEscape?, h, hback]
  · simp [readChars, letterEscape?, h, hfeed]
  · simp [readChars, letterEscape?, h, hreturn]
  · simp [readChars, letterEscape?, h, htab]
  · simp [readChars, letterEscape?, h, hbell]
  · simp [readChars, letterEscape?, h, hform]
  · exact readChars_codeEscape c h
  · have hplain : ¬ c.toNat < 0x20 := fun hlt => hcode (.inl hlt)
    simp [readChars, hquote, hback, hplain, h]

/-- A string is read back after its opening quote. -/
theorem readChars_flatMap (ascii : Bool) (s rest : List Char) {fuel : Nat}
    (hfuel : s.length < fuel) :
    readChars fuel (s.flatMap (escapeChar ascii) ++ '"' :: rest) = some (s, rest) := by
  induction s generalizing fuel with
  | nil =>
    obtain ⟨fuel, rfl⟩ := Nat.exists_eq_succ_of_ne_zero (Nat.ne_of_gt hfuel)
    simp [readChars]
  | cons c s ih =>
    obtain ⟨fuel, rfl⟩ := Nat.exists_eq_succ_of_ne_zero (Nat.ne_of_gt (Nat.zero_lt_of_lt hfuel))
    rw [List.flatMap_cons, List.append_assoc]
    exact readChars_escapeChar ascii c (ih (by simpa using hfuel))

end Json

end Stowage
