import Stowage.Decimal.Double

/-!
Numbers with a given count of digits.

`fixed` rounds to a number of places after the point, `scientific` to a number of digits after the
first one. Both round the exact value to the nearest, ties to even. `keep` asks for the point even
where no digit follows it.
-/

namespace Stowage.Decimal

/-- The exact ratio of the finite number `m * 2 ^ q`. -/
def exactRatio (m : Nat) (q : Int) : Nat × Nat :=
  match q with
  | .ofNat k => (m * Nat.pow 2 k, 1)
  | .negSucc k => (m, Nat.pow 2 (k + 1))

/-- Digits with at least `width` of them. -/
def paddedDigits (width n : Nat) : List Char :=
  let ds := digits n
  List.replicate (width - ds.length) '0' ++ ds

/-- The digits of `n` with a point before the last `places` of them. A point with no digit after it
is left out unless it is to be kept. -/
def withPoint (keep : Bool) (places n : Nat) : List Char :=
  let ds := paddedDigits (places + 1) n
  let (whole, fraction) := ds.splitAt (ds.length - places)
  if places = 0 ∧ !keep then whole else whole ++ '.' :: fraction

/-- The number `m * 2 ^ q` with `places` digits after the point. -/
def fixed (keep : Bool) (places m : Nat) (q : Int) : List Char :=
  let (a, b) := exactRatio m q
  withPoint keep places (Double.divideToEven (a * Nat.pow 10 places) b)

/-- A positive ratio divided by a power of ten and rounded. -/
def roundAt (a b : Nat) (e : Int) : Nat :=
  match e with
  | .ofNat k => Double.divideToEven a (b * Nat.pow 10 k)
  | .negSucc k => Double.divideToEven (a * Nat.pow 10 (k + 1)) b

/-- The exponent of the first digit of a positive ratio, found by going down from `e`. -/
def leadingExponent (a b : Nat) : Nat → Int → Int
  | 0, e => e
  | fuel + 1, e =>
    let reaches : Bool := match e with
      | .ofNat k => b * Nat.pow 10 k ≤ a
      | .negSucc k => b ≤ a * Nat.pow 10 (k + 1)
    if reaches then e else leadingExponent a b fuel (e - 1)

/-- The digits of the number `m * 2 ^ q`, `places` of them after the first, as one number, and the
exponent of the first. -/
def leadingDigits (places m : Nat) (q : Int) : Nat × Int :=
  if m = 0 then (0, 0)
  else
    let (a, b) := exactRatio m q
    let start : Int := ((m.log2 : Int) + q + 1) * 30103 / 100000 + 2
    let e := leadingExponent a b 8 start
    let n := roundAt a b (e - places)
    if Nat.pow 10 (places + 1) ≤ n then (n / 10, e + 1) else (n, e)

/-- The sign and the digits of an exponent, at least two of them. -/
def exponentChars (e : Int) : List Char :=
  'e' :: (if e < 0 then '-' else '+') :: paddedDigits 2 e.natAbs

/-- The number `m * 2 ^ q` with `places` digits after the first and an exponent. -/
def scientific (keep : Bool) (places m : Nat) (q : Int) : List Char :=
  let (n, e) := leadingDigits places m q
  withPoint keep places n ++ exponentChars e

/-- A decimal without the zeros that end its fraction. -/
def dropFractionZeros (cs : List Char) : List Char :=
  if cs.contains '.' then
    let kept := (cs.reverse.dropWhile (· == '0'))
    (match kept with
      | '.' :: r => r
      | r => r).reverse
  else cs

/-- The number `m * 2 ^ q` in `count` significant digits, positional where that is not longer, and
without zeros at the end, which stay like the point when `keep` is set. -/
def general (keep : Bool) (count m : Nat) (q : Int) : List Char :=
  let count := if count = 0 then 1 else count
  let (n, e) := leadingDigits (count - 1) m q
  let trim (cs : List Char) : List Char := if keep then cs else dropFractionZeros cs
  if -4 ≤ e ∧ e < count then trim (fixed keep (count - 1 - e).toNat m q)
  else trim (withPoint keep (count - 1) n) ++ exponentChars e

end Stowage.Decimal
