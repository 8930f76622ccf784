import Stowage.Decimal.Double

/-!
Floating-point literals.

The decimal grammar is a sign, digits with an optional point (at least one digit on either side of
it) and an optional exponent; single underscores may stand between two digits. Which digits count
is a parameter: any script's in free text, ASCII's in wire models.
-/

namespace Stowage.Decimal

/-- The longest start whose characters are digits or underscores, and the rest. -/
def digitRun (digit? : Char → Option Nat) (cs : List Char) : List Char × List Char :=
  cs.span fun c => (digit? c).isSome || c == '_'

/-- A run of digits that may be empty; underscores only between digits. -/
def optionalDigits? (digit? : Char → Option Nat) (cs : List Char) : Option (List Nat) :=
  if cs.isEmpty then some [] else groupedDigits? digit? false cs

/-- The exponent part of a literal: nothing, or `e` with an optional sign and digits. -/
def exponentPart? (digit? : Char → Option Nat) : List Char → Option Int
  | [] => some 0
  | c :: r =>
    if c = 'e' ∨ c = 'E' then
      let (negative, body) := sign r
      (groupedDigits? digit? false body).map fun ds => signed negative (ofDigits ds)
    else none

/-- An unsigned decimal: its digits as one number and the power of ten that scales it. -/
def unsignedDecimal? (digit? : Char → Option Nat) (cs : List Char) : Option (Nat × Int) := do
  let (whole, rest) := digitRun digit? cs
  let ds ← optionalDigits? digit? whole
  let (fraction, rest) := match rest with
    | '.' :: r => digitRun digit? r
    | r => ([], r)
  let fs ← optionalDigits? digit? fraction
  if ds.isEmpty && fs.isEmpty then none
  else
    let e ← exponentPart? digit? rest
    some (ofDigits (ds ++ fs), e - fs.length)

/-- A floating-point literal without blanks around it: a decimal, `inf`, `infinity` or `nan` in any
case, with an optional sign. -/
def doubleLiteral? (digit? : Char → Option Nat) (cs : List Char) : Option Double :=
  let (negative, body) := sign cs
  let word := String.ofList (body.map Char.toLower)
  if word = "inf" ∨ word = "infinity" then some (.infinite negative)
  else if word = "nan" then some .nan
  else (unsignedDecimal? digit? body).map fun (n, e) => .ofDecimal negative n e

/-- A floating-point literal in free text: white space around it, digits of any script. -/
def double? (s : String) : Option Double :=
  doubleLiteral? Text.decimalDigit? (Text.trimChars Text.isWhite s.toList)

end Stowage.Decimal
