import Stowage.Decimal.Literal
import Stowage.Failure.Basic
import Stowage.Text.LetterCase
import Stowage.Yaml.Kind

/-!
What the text of a scalar stands for, once its kind is known.

A tag may name a kind that the text does not fit, and the text of a kind may stand for nothing, as a
day that is not in the calendar; then there is no value.

Bytes are written in base 64, six bits a character, and read leniently: what is neither of the
alphabet nor a sign of padding is passed over, and so is padding in a wrong place. Where padding
completes a group of four the text ends.
-/

namespace Stowage.Text.Base64

/-- The six bits of a character. -/
def sextet? (c : Char) : Option Nat :=
  if c.isUpper then some (c.toNat - 65)
  else if c.isLower then some (c.toNat - 97 + 26)
  else if c.isDigit then some (c.toNat - 48 + 52)
  else if c = '+' then some 62
  else if c = '/' then some 63
  else none

/-- The bytes of a text. Of the group of four that is being read, `count` characters have been read,
`rest` is what their last bits denote that make up no byte yet, and `pads` signs of padding stand
behind. A group that breaks off stands for nothing. -/
def bytes? (count rest pads : Nat) : List Char → Option (List Nat)
  | [] => if count = 0 then some [] else none
  | '=' :: r =>
    if 2 ≤ count then
      if 4 ≤ count + pads + 1 then some [] else bytes? count rest (pads + 1) r
    else bytes? count rest pads r
  | c :: r =>
    match sextet? c with
    | none => bytes? count rest pads r
    | some six =>
      match count with
      | 0 => bytes? 1 six 0 r
      | 1 => (bytes? 2 (six % 16) 0 r).map ((rest * 4 + six / 16) :: ·)
      | 2 => (bytes? 3 (six % 4) 0 r).map ((rest * 16 + six / 4) :: ·)
      | _ => (bytes? 0 0 0 r).map ((rest * 64 + six) :: ·)

/-- The bytes of a text, which has to be ASCII. -/
def decode? (cs : List Char) : Option (List Nat) :=
  if cs.all fun c => c.toNat < 0x80 then bytes? 0 0 0 cs else none

end Stowage.Text.Base64

namespace Stowage.Yaml.Scalar

/-! ## Integers -/

/-- The value of a digit: one of any script, or a letter. -/
def digit? (c : Char) : Option Nat := (Text.decimalDigit? c).or (Text.hexDigit? c)

/-- The letter that may stand after a zero to name a base. -/
def baseLetter? : Nat → Option Char
  | 2 => some 'b'
  | 8 => some 'o'
  | 16 => some 'x'
  | _ => none

/-- What follows a zero and the letter of a base, if these are in front. -/
def dropBase (base : Nat) : List Char → List Char
  | z :: c :: r =>
    if digit? z = some 0 ∧ baseLetter? base = some c.toLower then r else z :: c :: r
  | cs => cs

/-- The integer that a text denotes in a base: blanks around it, a sign, the base, digits. Decimal
ones are of limited length. -/
def inBase (base : Nat) (cs : List Char) : Except Failure Int :=
  let (negative, body) := Decimal.sign (Text.trimChars Text.isWhite cs)
  let digits := (dropBase base body).map fun c => (digit? c).filter (· < base)
  let run := digits.takeWhile Option.isSome
  if base = 10 ∧ Decimal.maxDigits < run.length then .error (.overlongLiteral run.length)
  else if run.isEmpty || run.length < digits.length then
    let shown := (Text.quoted (String.ofList cs)).toList.take 200
    .error (.badValue ("invalid literal for int() with base " ++ Decimal.naturalText base ++ ": " ++
      String.ofList shown))
  else .ok (Decimal.signed negative (run.foldl (fun n d => base * n + d.getD 0) 0))

/-- The failure of looking at the first character where there is none. -/
def noCharacter : Failure := .fault .indexError (some (.text "string index out of range"))

/-- A sign in front and the rest; there has to be something. -/
def signOf (cs : List Char) : Except Failure (Bool × List Char) :=
  if cs.isEmpty then .error noCharacter else .ok (Decimal.sign cs)

/-- The integer that a text without a sign denotes. -/
def unsigned (cs : List Char) : Except Failure Int :=
  match cs with
  | [] => .error noCharacter
  | ['0'] => .ok 0
  | '0' :: 'b' :: r => inBase 2 r
  | '0' :: 'x' :: r => inBase 16 r
  | '0' :: r => inBase 8 ('0' :: r)
  | cs => do
    let parts ← (Text.splitAt (· == ':') cs).mapM (inBase 10)
    .ok (parts.foldl (fun n d => 60 * n + d) 0)

/-- An integer. -/
def integer (s : String) : Except Failure Int := do
  let (negative, body) ← signOf (s.toList.filter (· != '_'))
  let n ← unsigned body
  .ok (if negative then -n else n)

/-! ## Numbers -/

/-- The number that a text denotes. -/
def number (cs : List Char) : Except Failure Double :=
  match Decimal.double? (String.ofList cs) with
  | some x => .ok x
  | none => .error (.badValue ("could not convert string to float: " ++
      Text.quoted (String.ofList cs)))

/-- The sum of parts in base sixty, from the last part on, each of them rounded. `weight` is what
the next part counts. -/
def sixties (sum : Double) (weight : Nat) : List Double → Except Failure Double
  | [] => .ok sum
  | part :: r => match Double.ofInt? weight with
    | some factor => sixties (sum.add (part.mul factor)) (60 * weight) r
    | none => .error (.fault .overflowError (some (.text "int too large to convert to float")))

/-- The number that a text without a sign denotes. -/
def magnitude (cs : List Char) : Except Failure Double :=
  if cs = ['.', 'i', 'n', 'f'] then .ok (.infinite false)
  else if cs = ['.', 'n', 'a', 'n'] then .ok .nan
  else if cs.contains ':' then do
    let parts ← (Text.splitAt (· == ':') cs).mapM number
    sixties (.zero false) 1 parts.reverse
  else number cs

/-- A number. -/
def double (s : String) : Except Failure Double := do
  let lowered := Text.lower (String.ofList (s.toList.filter (· != '_')))
  let (negative, body) ← signOf lowered.toList
  let x ← magnitude body
  .ok (if negative then x.negate else x)

/-! ## Other kinds -/

/-- A truth value. -/
def truth (s : String) : Except Failure Bool :=
  let lowered := Text.lower s
  if ["yes", "true", "on"].contains lowered then .ok true
  else if ["no", "false", "off"].contains lowered then .ok false
  else .error (.fault .keyError (some (.text lowered)))

/-- A value, unless there is a fault in it. -/
def checked (fault? : Option String) (v : Value) : Except Failure Value :=
  match fault? with
  | none => .ok v
  | some fault => .error (.badValue fault)

/-- A day or a point in time. -/
def instant (s : String) : Except Failure Value :=
  match instant? (withoutBreak s.toList) with
  | some (date, none) => checked date.fault? (.date date)
  | some (_, some moment) => checked moment.fault? (.moment moment)
  | none => .error (.fault .attributeError
      (some (.text "'NoneType' object has no attribute 'groupdict'")))

/-- Bytes. -/
def bytes (s : String) : Except Failure Value :=
  match Text.Base64.decode? s.toList with
  | some bs => .ok (.bytes bs)
  | none => .error .badYaml

/-- The value of a text of a kind. Only scalars of some kinds have one. -/
def ofKind (kind : Kind) (s : String) : Except Failure Value :=
  match kind with
  | .null => .ok .null
  | .bool => (truth s).map .bool
  | .int => (integer s).map .int
  | .float => (double s).map .float
  | .binary => bytes s
  | .timestamp => instant s
  | .text => .ok (.text s)
  | _ => .error .badYaml

end Stowage.Yaml.Scalar
