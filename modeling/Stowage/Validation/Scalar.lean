import Stowage.Decimal.Literal
import Stowage.Text.Coding
import Stowage.Validation.Checked

/-!
Checks of single values.

Numbers and truth values may come in another form than their own: an integer as a truth value, an
integral number or a literal; a number as an integer or a literal; a truth value as 0, 1 or one of a
few words. Text may come as its bytes. Literals have ASCII digits only, and white space around them
does not count; the rules on zeros and underscores are those of `cleanInteger?` and
`numberLiteral?`.
-/

namespace Stowage.Checked

/-- The text that a value spells: text, a word of a vocabulary, or bytes, which may turn out to be
no text. -/
def spelled? (v : Value) : Option (Option String) :=
  match v with
  | .bytes bs =>
    some ((Text.Coding.paired (Text.Coding.strict (Text.Coding.utf8 bs))).map String.ofList)
  | v => v.text?.map some

/-- A value in the form of text: `read` takes the text, `unreadable` is said of bytes that are none
and `other` of all other values. -/
def spelling {α : Type} (read : String → Checked α) (unreadable other : Issue.Kind) (v : Value) :
    Checked α :=
  match spelled? v with
  | some (some s) => read s
  | some none => fail unreadable
  | none => fail other

/-- Text. -/
def text : Value → Checked String := spelling .fits .stringUnicode .stringType

/-- Nothing, or what another check accepts. -/
def nullable {α : Type} (check : Value → Checked α) : Value → Checked (Option α)
  | .null => .fits none
  | v => (check v).map some

/-- A literal without the underscores in it. They may stand neither at its ends nor next to each
other; a literal in which they do is left as it is. -/
def withoutUnderscores (cs : List Char) : List Char :=
  if (Text.splitAt (· == '_') cs).any List.isEmpty then cs else cs.filter (· != '_')

/-- What remains of the zeros and underscores at the front of a literal. Before anything but a digit
or a minus sign one zero stays. -/
def afterZeros? (last : Char) : List Char → Option (List Char)
  | [] => some [last]
  | c :: r =>
    if c = '0' ∨ c = '_' then afterZeros? c r
    else if c = '.' then some (last :: c :: r)
    else if c.isDigit ∨ c = '-' then some (c :: r)
    else none

/-- An integer literal without a plus sign, zeros and underscores at its front, a fraction of zeros,
and single underscores between digits. -/
def cleanInteger? (cs : List Char) : Option (List Char) :=
  let cs := match cs with
    | '+' :: r => r
    | r => r
  let trimmed := match cs with
    | '0' :: r => afterZeros? '0' r
    | c :: _ => if c.isDigit ∨ c = '-' then some cs else none
    | [] => none
  trimmed.map fun cs =>
    let (whole, fraction) := Text.cut '.' cs
    withoutUnderscores <| match fraction with
      | some (z :: zs) => if (z :: zs).all (· == '0') then whole else cs
      | _ => cs

/-- A plain integer: a minus sign or none, and digits without a needless zero in front. -/
def plainInteger? (cs : List Char) : Option Int :=
  let (negative, digits) := match cs with
    | '-' :: r => (true, r)
    | r => (false, r)
  if !digits.isEmpty && digits.all Char.isDigit && (digits = ['0'] || digits.head? != some '0') &&
      digits.length ≤ Decimal.maxDigits then
    some (Decimal.signed negative (Decimal.ofDigits (digits.map fun c => c.toNat - 48)))
  else none

/-- Whether a literal begins with more digits than are ever read. -/
def isTooLong (cs : List Char) : Bool :=
  let digits := (match cs with | '-' :: r => r | r => r).takeWhile Char.isDigit
  Decimal.maxDigits < digits.length && digits.head? != some '0'

/-- An integer in a literal. -/
def integerLiteral (s : String) : Checked Int :=
  if isTooLong s.toList then fail .intParsingSize
  else match (cleanInteger? (Text.trimChars Text.isWhite s.toList)).bind plainInteger? with
    | some i => .fits i
    | none => fail .intParsing

/-- The integers of 64 bits reach from the negative of this bound up to, but not including, it. -/
def wordBound : Int := 0x8000000000000000

/-- The integers of 64 bits that are the value of a number, its bounds excluded. -/
def integerOfDouble (x : Double) : Checked Int :=
  if !x.isFinite then fail .finiteNumber
  else match x.integer? with
    | none => fail .intFromFloat
    | some i => if -wordBound < i ∧ i < wordBound then .fits i else fail .intParsingSize

/-- An integer. -/
def integer : Value → Checked Int
  | .bool b => .fits (if b then 1 else 0)
  | .int i => .fits i
  | .float x => integerOfDouble x
  | v => spelling integerLiteral .intParsing .intType v

/-- An integer that is not negative. -/
def natural (v : Value) : Checked Nat :=
  (integer v).andThen fun i => if 0 ≤ i then .fits i.toNat else fail .negative

/-- A number in a literal. Underscores count as not being there, unless white space is around the
literal. -/
def numberLiteral? (cs : List Char) : Option Double :=
  let cs := if cs.contains '_' then withoutUnderscores cs else Text.trimChars Text.isWhite cs
  if cs.contains '_' then none else Decimal.doubleLiteral? Text.asciiDigit? cs

/-- A number. -/
def number : Value → Checked Double
  | .bool b => .fits ((Double.ofInt? (if b then 1 else 0)).getD .nan)
  | .float x => .fits x
  | .int i => match Double.ofInt? i with
    | some x => .fits x
    | none => fail .floatType
  | v =>
    let literal (s : String) : Checked Double := match numberLiteral? s.toList with
      | some x => .fits x
      | none => fail .floatParsing
    spelling literal .floatParsing .floatType v

/-- A number above zero. -/
def positive (v : Value) : Checked Double :=
  (number v).andThen fun x => if x.isPositive then .fits x else fail .notPositive

/-- Words for false. -/
def falseWords : List String := ["0", "off", "f", "false", "n", "no"]

/-- Words for true. -/
def trueWords : List String := ["1", "on", "t", "true", "y", "yes"]

/-- A truth value as an integer. -/
def truthOfInt (i : Int) : Checked Bool :=
  if i = 0 then .fits false
  else if i = 1 then .fits true
  else if -wordBound ≤ i ∧ i < wordBound then fail .boolParsing
  else fail .boolType

/-- A truth value. -/
def truth : Value → Checked Bool
  | .bool b => .fits b
  | .int i => truthOfInt i
  | .float x => match integerOfDouble x with
    | .fits i => truthOfInt i
    | .faulty _ => fail .boolType
  | v =>
    let read (s : String) : Checked Bool :=
      let word := String.ofList (s.toList.map Char.toLower)
      if falseWords.contains word then .fits false
      else if trueWords.contains word then .fits true
      else fail .boolParsing
    spelling read .boolParsing .boolType v

/-- A word of a vocabulary. -/
def word {α : Type} [Vocabulary α] (v : Value) : Checked α :=
  match v.text?.bind Vocabulary.ofValue? with
  | some a => .fits a
  | none => fail (.enumeration (Vocabulary.values α))

/-- A word of a vocabulary that the field's declaration spells out. -/
def spelledWord {α : Type} [Vocabulary α] (v : Value) : Checked α :=
  match v.text?.bind Vocabulary.ofValue? with
  | some a => .fits a
  | none => fail (.oneOf (Vocabulary.values α))

/-- A sequence of items. -/
def sequence {α : Type} (check : Value → Checked α) : Value → Checked (List α)
  | .list vs | .tuple vs | .set vs => items check 0 vs
  | _ => fail .tupleType

/-- Entries with text on both sides. -/
def labelEntries : Entries → Checked (List (String × String))
  | [] => .fits []
  | (k, v) :: r =>
    let key := ((text k).within "[key]").within (place k)
    let value := (text v).within (place k)
    both (both (map (fun key value rest => (key, value) :: rest) key) value) (labelEntries r)

/-- A mapping from text to text. -/
def labels : Value → Checked Labels
  | .mapping es => (labelEntries es).map Labels.ofList
  | _ => fail .dictType

end Stowage.Checked
