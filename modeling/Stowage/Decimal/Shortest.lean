import Stowage.Decimal.Double

/-!
The fewest decimal digits that read back as the same number.

`Shortest.decimal?` gives the digits and the exponent; `Double.text` lays them out. The search goes
through grids of 1, 2, … 17 digits: on each it looks at the two grid points around the number,
takes the first grid on which one of them reads back, and of two such points the nearer, of two
equally near the even one.
-/

namespace Stowage.Decimal.Shortest

/-- Whether the positive decimal `n * 10 ^ e` reads back as the finite number `m * 2 ^ q`. -/
def readsBack (m : Nat) (q : Int) (n : Nat) (e : Int) : Bool :=
  Double.ofDecimal false n e = .finite false m q

/-- The positive number `m * 2 ^ q` divided by `10 ^ e`, as a ratio. -/
def ratioAt (m : Nat) (q e : Int) : Nat × Nat :=
  let (a, b) : Nat × Nat := match q with
    | .ofNat k => (m * Nat.pow 2 k, 1)
    | .negSucc k => (m, Nat.pow 2 (k + 1))
  match e with
  | .ofNat k => (a, b * Nat.pow 10 k)
  | .negSucc k => (a * Nat.pow 10 (k + 1), b)

/-- The nearer of the two grid points around the number that read back, if any does. -/
def onGrid? (m : Nat) (q e : Int) : Option Nat :=
  let (a, b) := ratioAt m q e
  let below := a / b
  let above := below + 1
  let belowReads := readsBack m q below e
  let aboveReads := readsBack m q above e
  if belowReads && aboveReads then
    let r := a % b
    some (if 2 * r < b then below
      else if 2 * r = b then (if below % 2 = 0 then below else above)
      else above)
  else if belowReads then some below
  else if aboveReads then some above
  else none

/-- Search the grids whose exponents are `top - count`, with `count` rising. -/
def search (m : Nat) (q top : Int) : Nat → Nat → Option (Nat × Int)
  | 0, _ => none
  | left + 1, count =>
    let e := top - count
    match onGrid? m q e with
    | some n => some (n, e)
    | none => search m q top left (count + 1)

/-- A power of ten above the positive number, at most two too high. -/
def magnitude (m : Nat) (q : Int) : Int :=
  ((m.log2 : Int) + q + 1) * 30103 / 100000 + 2

/-- Take the zeros off the end of a positive number, moving them into the exponent. -/
def stripZeros : Nat → Nat → Int → Nat × Int
  | 0, n, e => (n, e)
  | fuel + 1, n, e => if n % 10 = 0 ∧ n ≠ 0 then stripZeros fuel (n / 10) (e + 1) else (n, e)

/-- The digits `n` and exponent `e` of the shortest decimal `n * 10 ^ e` that reads back as the
positive number `m * 2 ^ q`. -/
def decimal (m : Nat) (q : Int) : Nat × Int :=
  match search m q (magnitude m q) 24 0 with
  | some (n, e) => stripZeros 20 n e
  | none => (m, q)

end Stowage.Decimal.Shortest

namespace Stowage

/-- How numbers of double precision are laid out: positional from `least` up to, not including,
`below` as exponent of the leading digit, else with an exponent of at least `width` digits. -/
structure NumberLayout where
  least : Int
  below : Int
  width : Nat
  nan : String
  infinity : String

namespace NumberLayout

/-- Digits with a point after the first `point` of them; zeros fill up on either side and at least
one digit follows the point. -/
def positional (ds : List Char) (point : Int) : List Char :=
  match point with
  | .ofNat k =>
    let whole := ds.take k ++ List.replicate (k - ds.length) '0'
    let rest := ds.drop k
    (if whole.isEmpty then ['0'] else whole) ++ '.' :: (if rest.isEmpty then ['0'] else rest)
  | .negSucc k => '0' :: '.' :: (List.replicate (k + 1) '0' ++ ds)

/-- Digits with a point after the first of them, and the exponent of that digit. -/
def scientific (width : Nat) (ds : List Char) (exponent : Int) : List Char :=
  let mantissa := match ds with
    | [d] => [d]
    | d :: r => d :: '.' :: r
    | [] => []
  let size := Decimal.digits exponent.natAbs
  mantissa ++ 'e' :: (if exponent < 0 then '-' else '+') ::
    (List.replicate (width - size.length) '0' ++ size)

/-- The text of a number in this layout. -/
def write (layout : NumberLayout) : Double → String
  | .nan => layout.nan
  | .infinite negative => (if negative then "-" else "") ++ layout.infinity
  | .finite negative 0 _ => if negative then "-0.0" else "0.0"
  | .finite negative m q =>
    let (n, e) := Decimal.Shortest.decimal m q
    let ds := Decimal.digits n
    let leading : Int := e + ds.length - 1
    let body :=
      if layout.least ≤ leading ∧ leading < layout.below then positional ds (leading + 1)
      else scientific layout.width ds leading
    String.ofList (if negative then '-' :: body else body)

/-- Numbers inside plain text: `1.0`, `1e+16`, `1e-05`, `inf`, `nan`. -/
def plain : NumberLayout := ⟨-4, 16, 2, "nan", "inf"⟩

/-- Numbers inside JSON text: as in plain text, with the words `NaN` and `Infinity`. -/
def json : NumberLayout := ⟨-4, 16, 2, "NaN", "Infinity"⟩

end NumberLayout

/-- The text of a number, in as few digits as read back. -/
def Double.text (x : Double) : String := NumberLayout.plain.write x

end Stowage
