import Stowage.Calendar
import Stowage.Text.Quoted
import Stowage.Text.Split
import Stowage.Yaml.Node

/-!
The kinds of nodes.

A tag names the kind of its node. Without one, sequences and mappings are plain ones and the kind of
a plain scalar is told from its text (`kindOf`): null, a truth value, an integer, a number, a point
in time, the sign that merges mappings, or else text. Integers are decimal, octal after a leading
zero, hexadecimal, binary or in base sixty; numbers need a point, and an exponent needs a sign.
-/

namespace Stowage.Yaml

/-- The kinds of nodes. `merge` and `value` are those of the keys `<<` and `=`; of an unknown kind
nothing can be made. -/
inductive Kind where
  | null | bool | int | float | binary | timestamp | text
  | sequence | mapping | set | ordered | pairs
  | merge | value | unknown
  deriving DecidableEq, Repr

namespace Scalar

def nullWords : List String := ["", "~", "null", "Null", "NULL"]

def trueWords : List String := ["yes", "Yes", "YES", "true", "True", "TRUE", "on", "On", "ON"]

def falseWords : List String :=
  ["no", "No", "NO", "false", "False", "FALSE", "off", "Off", "OFF"]

/-- A digit or an underscore. -/
def isGrouped (p : Char → Bool) (c : Char) : Bool := p c || c == '_'

def isBinary (c : Char) : Bool := c == '0' || c == '1'

def isOctal (c : Char) : Bool := '0' ≤ c && c ≤ '7'

/-- Nonempty and all of one kind. -/
def isRun (p : Char → Bool) (cs : List Char) : Bool := !cs.isEmpty && cs.all p

/-- A digit and then digits and underscores. -/
def startsRun (p : Char → Bool) : List Char → Bool
  | [] => false
  | c :: r => p c && r.all (isGrouped Char.isDigit)

/-- One or two digits that denote a number below sixty. -/
def isSixtieth : List Char → Bool
  | [a] => a.isDigit
  | [a, b] => '0' ≤ a && a ≤ '5' && b.isDigit
  | _ => false

/-- A digit that is not zero. -/
def isNonzeroDigit (c : Char) : Bool := '1' ≤ c && c ≤ '9'

/-- An unsigned integer. -/
def isInteger (cs : List Char) : Bool :=
  match cs with
  | ['0'] => true
  | '0' :: 'b' :: r => isRun (isGrouped isBinary) r
  | '0' :: 'x' :: r => isRun (isGrouped fun c => (Text.hexDigit? c).isSome) r
  | '0' :: r => isRun (isGrouped isOctal) r
  | _ =>
    match Text.splitAt (· == ':') cs with
    | [whole] => startsRun isNonzeroDigit whole
    | whole :: more => startsRun isNonzeroDigit whole && more.all isSixtieth
    | [] => false

/-- Nothing, or an exponent with a sign. -/
def isExponent : List Char → Bool
  | [] => true
  | e :: s :: r => (e == 'e' || e == 'E') && (s == '+' || s == '-') && isRun Char.isDigit r
  | _ => false

/-- Digits and underscores after a point and then, maybe, an exponent. -/
def isFraction (cs : List Char) : Bool := isExponent (cs.dropWhile (isGrouped Char.isDigit))

/-- A number. Without digits before the point there is no sign. -/
def isNumber (cs : List Char) : Bool :=
  let (signs, body) := cs.span fun c => c == '+' || c == '-'
  let signed := signs.length ≤ 1
  let (whole, rest) := body.span (· != '.')
  match rest with
  | '.' :: fraction =>
    if whole.isEmpty then
      (signed && [['i', 'n', 'f'], ['I', 'n', 'f'], ['I', 'N', 'F']].contains fraction) ||
        (signs.isEmpty && [['n', 'a', 'n'], ['N', 'a', 'N'], ['N', 'A', 'N']].contains fraction) ||
        (signs.isEmpty && (fraction.head?.any Char.isDigit) && isFraction fraction)
    else
      match Text.splitAt (· == ':') whole with
      | [whole] => signed && startsRun Char.isDigit whole && isFraction fraction
      | whole :: more =>
        signed && startsRun Char.isDigit whole && more.all isSixtieth &&
          fraction.all (isGrouped Char.isDigit)
      | [] => false
  | _ => false

/-- The number that `least` to `most` digits at the front denote, and the rest. -/
def number? (least most : Nat) (cs : List Char) : Option (Nat × List Char) :=
  let ds := (cs.take most).takeWhile Char.isDigit
  if ds.length < least then none
  else some (Decimal.ofDigits (ds.map fun c => c.toNat - 48), cs.drop ds.length)

/-- The rest after a given character. -/
def after? (c : Char) : List Char → Option (List Char)
  | d :: r => if c = d then some r else none
  | [] => none

def isSpaceOrTab (c : Char) : Bool := c == ' ' || c == '\t'

/-- The offset at the end of a point in time, in minutes; there may be none. -/
def offset? (cs : List Char) : Option (Option Int) :=
  match cs.dropWhile isSpaceOrTab with
  | [] => if cs.isEmpty then some none else none
  | ['Z'] => some (some 0)
  | s :: r =>
    if s = '+' ∨ s = '-' then do
      let (hours, r) ← number? 1 2 r
      let (minutes, r) ← match r with
        | ':' :: r => number? 2 2 r
        | r => some (0, r)
      if r.isEmpty then some (some (Decimal.signed (s == '-') (60 * hours + minutes))) else none
    else none

/-- The day and the time of day, if it is given, that a text spells; neither need be one of the
calendar. Month, day and hour may have a single digit. -/
def instant? (cs : List Char) : Option (Date × Option Moment) := do
  let (year, r) ← number? 4 4 cs
  let (month, r) ← number? 1 2 (← after? '-' r)
  let (day, r) ← number? 1 2 (← after? '-' r)
  let date : Date := { year, month, day }
  match r with
  | [] => some (date, none)
  | c :: more =>
    let r ← if c = 'T' ∨ c = 't' then some more
      else if isSpaceOrTab c then some (more.dropWhile isSpaceOrTab) else none
    let (hour, r) ← number? 1 2 r
    let (minute, r) ← number? 2 2 (← after? ':' r)
    let (second, r) ← number? 2 2 (← after? ':' r)
    let (fraction, r) := match r with
      | '.' :: r => r.span Char.isDigit
      | r => ([], r)
    let micros := fraction.take 6 ++ List.replicate (6 - fraction.length) '0'
    let micro := Decimal.ofDigits (micros.map fun c => c.toNat - 48)
    some (date, some { date, hour, minute, second, micro, offset := ← offset? r })

/-- Whether a text tells of itself that it is a point in time: a day alone needs all its digits. -/
def isInstant (cs : List Char) : Bool :=
  match instant? cs with
  | some (_, none) => cs.length == 10
  | some (_, some _) => true
  | none => false

/-- A text without one line feed at its end; a line feed alone is kept. -/
def withoutBreak (cs : List Char) : List Char :=
  if cs.getLast? = some '\n' ∧ cs ≠ ['\n'] then cs.dropLast else cs

/-- The kind that a text tells of itself. A line feed at its end makes no difference. -/
def kindOf (text : String) : Kind :=
  let cs := withoutBreak text.toList
  let s := String.ofList cs
  if trueWords.contains s || falseWords.contains s then .bool
  else if isNumber cs then .float
  else if isInteger (Decimal.sign cs).2 then .int
  else if s = "<<" then .merge
  else if nullWords.contains s then .null
  else if isInstant cs then .timestamp
  else if s = "=" then .value
  else if ["!", "&", "*"].contains s then .unknown
  else .text

end Scalar

/-- The kinds by the names that they have as tags. -/
def Kind.names : List (String × Kind) := [
  ("null", .null), ("bool", .bool), ("int", .int), ("float", .float), ("binary", .binary),
  ("timestamp", .timestamp), ("str", .text), ("seq", .sequence), ("map", .mapping), ("set", .set),
  ("omap", .ordered), ("pairs", .pairs), ("merge", .merge), ("value", .value)]

/-- The kind that a full tag names. -/
def Kind.ofTag (tag : String) : Kind :=
  let name? := Text.dropStart? "tag:yaml.org,2002:".toList tag.toList
  ((name?.bind fun name => Kind.names.lookup (String.ofList name))).getD .unknown

/-- The kind of a node. -/
def Node.kind : Node → Kind
  | .scalar .absent text plain => if plain then Scalar.kindOf text else .text
  | .scalar .bare text _ => Scalar.kindOf text
  | .sequence .absent _ | .sequence .bare _ => .sequence
  | .mapping .absent _ | .mapping .bare _ => .mapping
  | .scalar (.named tag) .. | .sequence (.named tag) _ | .mapping (.named tag) _
  | .enclosing (.named tag) _ => .ofTag tag
  | .enclosing _ isMapping => if isMapping then .mapping else .sequence

end Stowage.Yaml
