import Stowage.Text.Blank

/-!
Whole numbers in decimal.

`digits` writes a natural number without leading zeros and `ofDigits` reads one back. Integer
literals (`integer?`) have an optional sign and digits of any script with single underscores
between them. No number of more than `maxDigits` digits is ever converted between its value and
decimal text: reading refuses such a literal and `isOverlong` tells which values have no text.

Unicode gives each set of decimal digits ten code points in a row, so `Text.digitZeros` holds only
the zeros.
-/

namespace Stowage.Text

/-- The zero of every set of decimal digits in Unicode 14. -/
def digitZeros : List Nat := [
  0x30, 0x660, 0x6f0, 0x7c0, 0x966, 0x9e6, 0xa66, 0xae6, 0xb66, 0xbe6, 0xc66, 0xce6, 0xd66, 0xde6,
  0xe50, 0xed0, 0xf20, 0x1040, 0x1090, 0x17e0, 0x1810, 0x1946, 0x19d0, 0x1a80, 0x1a90, 0x1b50,
  0x1bb0, 0x1c40, 0x1c50, 0xa620, 0xa8d0, 0xa900, 0xa9d0, 0xa9f0, 0xaa50, 0xabf0, 0xff10, 0x104a0,
  0x10d30, 0x11066, 0x110f0, 0x11136, 0x111d0, 0x112f0, 0x11450, 0x114d0, 0x11650, 0x116c0,
  0x11730, 0x118e0, 0x11950, 0x11c50, 0x11d50, 0x11da0, 0x16a60, 0x16ac0, 0x16b50, 0x1d7ce,
  0x1d7d8, 0x1d7e2, 0x1d7ec, 0x1d7f6, 0x1e140, 0x1e2f0, 0x1e950, 0x1fbf0]

/-- The value of an ASCII digit. -/
def asciiDigit? (c : Char) : Option Nat :=
  if '0' ≤ c ∧ c ≤ '9' then some (c.toNat - 48) else none

/-- The value of a decimal digit of any script. -/
def decimalDigit? (c : Char) : Option Nat :=
  let n := c.toNat
  if n < 0x80 then asciiDigit? c
  else (digitZeros.find? fun first => first ≤ n && n < first + 10).map (n - ·)

end Stowage.Text

namespace Stowage.Decimal

/-- The character of a digit below ten. -/
def digitChar (d : Nat) : Char := Char.ofNat (48 + d)

/-- Decimal digits in front of those already written. -/
def digitsOnto (n : Nat) (rest : List Char) : List Char :=
  if n < 10 then digitChar n :: rest
  else digitsOnto (n / 10) (digitChar (n % 10) :: rest)
termination_by n

/-- A natural number in decimal, without leading zeros. -/
def digits (n : Nat) : List Char := digitsOnto n []

/-- The number that a list of digit values denotes, most significant first. -/
def ofDigits (ds : List Nat) : Nat := ds.foldl (fun n d => 10 * n + d) 0

/-- An integer in decimal. -/
def integerChars (i : Int) : List Char :=
  match i with
  | .ofNat n => digits n
  | .negSucc n => '-' :: digits (n + 1)

/-- An integer in decimal, as text. -/
def integerText (i : Int) : String := String.ofList (integerChars i)

/-- A natural number in decimal, as text. -/
def naturalText (n : Nat) : String := String.ofList (digits n)

/-- The most digits that a number may have when its text is read or written. -/
def maxDigits : Nat := 4300

/-- An integer with too many digits to be written. -/
def isOverlong (i : Int) : Bool := Nat.pow 10 maxDigits ≤ i.natAbs

/-- Digit values of a run of digits in which single underscores may stand between two digits.
`afterDigit` says that a digit has just been read. -/
def groupedDigits? (digit? : Char → Option Nat) (afterDigit : Bool) :
    List Char → Option (List Nat)
  | [] => if afterDigit then some [] else none
  | c :: r =>
    match digit? c with
    | some d => (groupedDigits? digit? true r).map (d :: ·)
    | none => if c = '_' ∧ afterDigit then groupedDigits? digit? false r else none

/-- A sign, if there is one, and what follows it. -/
def sign : List Char → Bool × List Char
  | '-' :: r => (true, r)
  | '+' :: r => (false, r)
  | r => (false, r)

/-- The integer with this sign and size. -/
def signed (negative : Bool) (n : Nat) : Int := if negative then -n else n

/-- An integer literal: white space around it, a sign, digits of any script with single
underscores between them, and at most `maxDigits` digits. -/
def integer? (s : String) : Option Int :=
  let (negative, body) := sign (Text.trimChars Text.isWhite s.toList)
  match groupedDigits? Text.decimalDigit? false body with
  | some ds => if ds.length ≤ maxDigits then some (signed negative (ofDigits ds)) else none
  | none => none

end Stowage.Decimal
