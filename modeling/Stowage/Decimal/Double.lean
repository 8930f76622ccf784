import Stowage.Decimal.Integer

/-!
Binary floating-point numbers of double precision, as exact values.

A finite number is a sign, a whole number below 2^53 and a power of two. `Double.ofRatio` rounds a
ratio to the nearest such number, ties to even, and `Double.ofDecimal` does so for a decimal
literal; what is too large becomes infinite and what is too small becomes zero, sign kept. All
arithmetic is on whole numbers, so nothing here depends on the machine.
-/

namespace Stowage

/-- A number of double precision. A finite one is `mantissa * 2 ^ exponent` with the sign in front;
zero has a sign too. -/
inductive Double where
  | nan
  | infinite (negative : Bool)
  | finite (negative : Bool) (mantissa : Nat) (exponent : Int)
  deriving DecidableEq, Repr, Inhabited

namespace Double

/-- The least exponent of a finite number. -/
def minExponent : Int := -1074

/-- The greatest exponent of a finite number. -/
def maxExponent : Int := 971

def zero (negative : Bool) : Double := .finite negative 0 minExponent

/-- The quotient of two natural numbers rounded to the nearest whole number, ties to even. -/
def divideToEven (n d : Nat) : Nat :=
  let q := n / d
  let r := n % d
  if 2 * r < d then q else if 2 * r = d ∧ q % 2 = 0 then q else q + 1

/-- `n / (d * 2 ^ e)` as a ratio of natural numbers. -/
def scaledRatio (n d : Nat) (e : Int) : Nat × Nat :=
  match e with
  | .ofNat k => (n, d * Nat.pow 2 k)
  | .negSucc k => (n * Nat.pow 2 (k + 1), d)

/-- The exponent at which the ratio `n / d`, both positive, has 53 binary digits before the point;
never below the least exponent. -/
def exponentFor (n d : Nat) : Int :=
  let e : Int := (n.log2 : Int) - d.log2 - 52
  let (a, b) := scaledRatio n d e
  max minExponent (if a / b < Nat.pow 2 52 then e - 1 else e)

/-- The number nearest to the ratio `n / d` of natural numbers, `d` positive, ties to even. -/
def ofRatio (negative : Bool) (n d : Nat) : Double :=
  if n = 0 then zero negative
  else
    let e := exponentFor n d
    let (a, b) := scaledRatio n d e
    let m := divideToEven a b
    let (m, e) := if m = Nat.pow 2 53 then (Nat.pow 2 52, e + 1) else (m, e)
    if e > maxExponent then .infinite negative else .finite negative m e

/-- The number nearest to `n * 10 ^ exponent`. Exponents far outside the range of the format are
settled without computing the power. -/
def ofDecimal (negative : Bool) (n : Nat) (exponent : Int) : Double :=
  if n = 0 then zero negative
  else
    let size : Int := (Decimal.digits n).length + exponent
    if size > 400 then .infinite negative
    else if size < -400 then zero negative
    else match exponent with
      | .ofNat k => ofRatio negative (n * Nat.pow 10 k) 1
      | .negSucc k => ofRatio negative n (Nat.pow 10 (k + 1))

/-- The number nearest to an integer; `none` when it lies beyond every finite number. -/
def ofInt? (i : Int) : Option Double :=
  match ofRatio (i < 0) i.natAbs 1 with
  | .infinite _ => none
  | x => some x

/-! ## Arithmetic -/

/-- The number nearest to `n * 2 ^ exponent`. -/
def ofScaled (negative : Bool) (n : Nat) : Int → Double
  | .ofNat k => ofRatio negative (n * Nat.pow 2 k) 1
  | .negSucc k => ofRatio negative n (Nat.pow 2 (k + 1))

/-- A number with the other sign. -/
def negate : Double → Double
  | .nan => .nan
  | .infinite negative => .infinite !negative
  | .finite negative m e => .finite (!negative) m e

/-- The product of two numbers. -/
def mul : Double → Double → Double
  | .finite s m d, .finite t n e => ofScaled (s != t) (m * n) (d + e)
  | .finite s m _, .infinite t => if m = 0 then .nan else .infinite (s != t)
  | .infinite s, .finite t n _ => if n = 0 then .nan else .infinite (s != t)
  | .infinite s, .infinite t => .infinite (s != t)
  | _, _ => .nan

/-- The sum of two numbers. Opposite numbers have the sum zero, without a sign. -/
def add : Double → Double → Double
  | .finite s m d, .finite t n e =>
    let least := min d e
    let sum := Decimal.signed s (m * Nat.pow 2 (d - least).toNat) +
      Decimal.signed t (n * Nat.pow 2 (e - least).toNat)
    if sum = 0 then zero (s && t) else ofScaled (sum < 0) sum.natAbs least
  | .infinite s, .infinite t => if s = t then .infinite s else .nan
  | .infinite s, .finite .. => .infinite s
  | .finite .., .infinite t => .infinite t
  | _, _ => .nan

/-! ## Properties -/

/-- The value of a number without a fractional part. -/
def integer? : Double → Option Int
  | .finite negative m (.ofNat k) => some (Decimal.signed negative (m * Nat.pow 2 k))
  | .finite negative m (.negSucc k) =>
    if m % Nat.pow 2 (k + 1) = 0 then some (Decimal.signed negative (m / Nat.pow 2 (k + 1)))
    else none
  | _ => none

def isFinite : Double → Bool
  | .finite .. => true
  | _ => false

/-- Greater than zero; false of what is not a number. -/
def isPositive : Double → Bool
  | .finite negative m _ => !negative && m != 0
  | .infinite negative => !negative
  | .nan => false

/-- Neither positive nor negative zero. What is not a number counts as nonzero. -/
def isNonzero : Double → Bool
  | .finite _ m _ => m != 0
  | _ => true

/-- Equality of numbers: the two zeros are equal and what is not a number equals nothing. -/
def equals (x y : Double) : Bool :=
  match x, y with
  | .nan, _ => false
  | _, .nan => false
  | _, _ => x = y ∨ (!x.isNonzero ∧ !y.isNonzero)

end Double

end Stowage
