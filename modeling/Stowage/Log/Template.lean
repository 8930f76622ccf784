import Stowage.Decimal.Fixed
import Stowage.Value.Text

/-!
Filling the placeholders of a message.

A placeholder is a percent sign, an optional key in parentheses, flags, a width, a precision and a
letter for the kind of text. All arguments of a list must be used, and there must be enough of
them; a filling that fails gives nothing.
-/

namespace Stowage.Log

/-- What fills the placeholders of a message: nothing, a list, a mapping, or a text that counts as
one argument. -/
inductive Arguments where
  | none
  | list (values : List Value)
  | mapping (entries : Entries)
  | text (s : String)
  deriving Repr, Inhabited

/-- The arguments that a list of values makes: a mapping that is the only one and not empty is
looked up by key, all others are used in order. -/
def Arguments.ofValues : List Value → Arguments
  | [.mapping []] => .list [.mapping []]
  | [.mapping es] => .mapping es
  | vs => .list vs

namespace Template

/-- The arguments still to be used. `all` is the mapping that keys are looked up in. -/
structure Supply where
  next : List Value
  all : Option Entries

/-- A placeholder. -/
structure Placeholder where
  left : Bool := false
  plus : Bool := false
  space : Bool := false
  alternate : Bool := false
  zeros : Bool := false
  width : Nat := 0
  precision : Option Nat := none

/-- The flags at the front. -/
def flags (p : Placeholder) : List Char → Placeholder × List Char
  | '-' :: r => flags { p with left := true } r
  | '+' :: r => flags { p with plus := true } r
  | ' ' :: r => flags { p with space := true } r
  | '#' :: r => flags { p with alternate := true } r
  | '0' :: r => flags { p with zeros := true } r
  | r => (p, r)

/-- The value of a run of digits. -/
def count (ds : List Char) : Nat := ds.foldl (fun n c => 10 * n + (c.toNat - 48)) 0

/-- The sizes that a placeholder can have are less than this. -/
def sizeBound : Nat := 0x80000000

/-- A size that a placeholder can have. -/
def bounded? (i : Int) : Option Int := if i.natAbs < sizeBound then some i else none

/-- A size, given in digits or as an argument. -/
def size? (supply : Supply) : List Char → Option (Int × Supply × List Char)
  | '*' :: r =>
    match supply.next with
    | .int i :: next => (bounded? i).map (·, { supply with next }, r)
    | .bool b :: next => some (if b then 1 else 0, { supply with next }, r)
    | _ => none
  | r =>
    let ds := r.takeWhile Char.isDigit
    (bounded? (count ds)).map (·, supply, r.drop ds.length)

/-- Fill up to the width: on the right, or on the left with blanks or, after the sign, zeros. -/
def pad (p : Placeholder) (numeric : Bool) (mark body : List Char) : List Char :=
  let missing := p.width - (mark.length + body.length)
  if p.left then mark ++ body ++ List.replicate missing ' '
  else if p.zeros && numeric then mark ++ List.replicate missing '0' ++ body
  else List.replicate missing ' ' ++ mark ++ body

/-- The sign of a number. -/
def signMark (p : Placeholder) (negative : Bool) : List Char :=
  if negative then ['-'] else if p.plus then ['+'] else if p.space then [' '] else []

/-- Digits of a number in a base up to sixteen. -/
def inBase (base : Nat) (n : Nat) : List Char :=
  if base < 2 then [] else go (n + 1) n []
where
  go : Nat → Nat → List Char → List Char
    | 0, _, acc => acc
    | fuel + 1, n, acc =>
      let acc := Text.hexDigit (n % base) :: acc
      if n < base then acc else go fuel (n / base) acc

/-- An integer as a placeholder for whole numbers takes it; of other numbers the fraction is cut
off. -/
def whole? : Value → Option Int
  | .int i => if Decimal.isOverlong i then none else some i
  | .bool b => some (if b then 1 else 0)
  | .float (.finite negative m (.ofNat k)) => some (Decimal.signed negative (m * Nat.pow 2 k))
  | .float (.finite negative m (.negSucc k)) =>
    some (Decimal.signed negative (m / Nat.pow 2 (k + 1)))
  | _ => none

/-- An integer as a placeholder for digits of another base takes it. -/
def wholeNumber? : Value → Option Int
  | .int i => some i
  | .bool b => some (if b then 1 else 0)
  | _ => none

/-- A number as a placeholder for numbers takes it. -/
def number? : Value → Option Double
  | .float x => some x
  | .int i => Double.ofInt? i
  | .bool b => Double.ofInt? (if b then 1 else 0)
  | _ => none

/-- Text in which characters outside ASCII are escaped. -/
def asciiOnly (cs : List Char) : List Char :=
  cs.flatMap fun c =>
    if c.toNat < 0x80 then [c]
    else if c.toNat < 0x100 then '\\' :: 'x' :: Text.hexDigits 2 c.toNat
    else if c.toNat < 0x10000 then '\\' :: 'u' :: Text.hexDigits 4 c.toNat
    else '\\' :: 'U' :: Text.hexDigits 8 c.toNat

/-- A number in one of the layouts for numbers. -/
def numberChars (p : Placeholder) (letter : Char) (m : Nat) (q : Int) : List Char :=
  let places := p.precision.getD 6
  if letter = 'f' then Decimal.fixed p.alternate places m q
  else if letter = 'e' then Decimal.scientific p.alternate places m q
  else Decimal.general p.alternate places m q

/-- A value in a placeholder. -/
def fill? (p : Placeholder) (letter : Char) (v : Value) : Option (List Char) :=
  let words (cs : List Char) : List Char :=
    pad p false [] (match p.precision with | some n => cs.take n | none => cs)
  let wholeBody (digits : List Char) : List Char :=
    List.replicate ((p.precision.getD 0) - digits.length) '0' ++ digits
  let based (base : Nat) (mark : List Char) (raise : Bool) : Option (List Char) :=
    (wholeNumber? v).map fun i =>
      let digits := inBase base i.natAbs
      let digits := if raise then digits.map Char.toUpper else digits
      pad p true (signMark p (i < 0) ++ if p.alternate then mark else []) (wholeBody digits)
  let real (letter : Char) (raise : Bool) : Option (List Char) :=
    (number? v).map fun x =>
      let (negative, body) : Bool × List Char := match x with
        | .nan => (false, ['n', 'a', 'n'])
        | .infinite negative => (negative, ['i', 'n', 'f'])
        | .finite negative m q => (negative, numberChars p letter m q)
      pad p true (signMark p negative) (if raise then body.map Char.toUpper else body)
  match letter with
  | 's' => if v.isOverlong then none else some (words v.display.toList)
  | 'r' => if v.isOverlong then none else some (words v.literal.toList)
  | 'a' => if v.isOverlong then none else some (words (asciiOnly v.literal.toList))
  | 'c' =>
    match v with
    | .int (.ofNat n) => if n < 0x110000 then some (pad p false [] [Char.ofNat n]) else none
    | .bool b => some (pad p false [] [Char.ofNat (if b then 1 else 0)])
    | .text s => if s.length = 1 then some (pad p false [] s.toList) else none
    | _ => none
  | 'd' | 'i' | 'u' =>
    (whole? v).map fun i => pad p true (signMark p (i < 0)) (wholeBody (Decimal.digits i.natAbs))
  | 'x' => based 16 ['0', 'x'] false
  | 'X' => based 16 ['0', 'X'] true
  | 'o' => based 8 ['0', 'o'] false
  | 'f' => real 'f' false
  | 'F' => real 'f' true
  | 'e' => real 'e' false
  | 'E' => real 'e' true
  | 'g' => real 'g' false
  | 'G' => real 'g' true
  | _ => none

/-- The key of a placeholder, up to the parenthesis that closes it. -/
def key? : Nat → List Char → Option (List Char × List Char)
  | _, [] => none
  | depth, ')' :: r =>
    match depth with
    | 0 => some ([], r)
    | d + 1 => (key? d r).map fun (k, r) => (')' :: k, r)
  | depth, '(' :: r => (key? (depth + 1) r).map fun (k, r) => ('(' :: k, r)
  | depth, c :: r => (key? depth r).map fun (k, r) => (c :: k, r)

/-- The argument that a key names becomes the next one. -/
def keyed? (supply : Supply) (cs : List Char) : Option (Supply × List Char) :=
  match cs with
  | '(' :: r => do
    let entries ← supply.all
    let (key, r) ← key? 0 r
    let v ← entries.get? (String.ofList key)
    some ({ supply with next := [v] }, r)
  | r => some (supply, r)

/-- One placeholder after its percent sign: the text that it becomes, and the rest. -/
def placeholder? (supply : Supply) (cs : List Char) :
    Option (List Char × Supply × List Char) := do
  let (supply, r) ← keyed? supply cs
  let (p, r) := flags {} r
  let (width, supply, r) ← size? supply r
  let p := if width < 0 then { p with left := true, width := width.natAbs }
    else { p with width := width.toNat }
  let (p, supply, r) ← match r with
    | '.' :: r => do
      let (precision, supply, r) ← size? supply r
      some ({ p with precision := some precision.toNat }, supply, r)
    | r => some (p, supply, r)
  let r := match r with
    | 'h' :: r => r
    | 'l' :: r => r
    | 'L' :: r => r
    | r => r
  match r with
  | letter :: r =>
    match supply.next with
    | v :: next => do
      let text ← fill? p letter v
      some (text, { supply with next }, r)
    | [] => none
  | [] => none

/-- A whole message. The fuel bounds the number of characters and placeholders. -/
def fillAll? : Nat → Supply → List Char → Option (List Char × Supply)
  | 0, _, _ => none
  | _ + 1, supply, [] => some ([], supply)
  | fuel + 1, supply, '%' :: '%' :: r => do
    let (rest, supply) ← fillAll? fuel supply r
    some ('%' :: rest, supply)
  | fuel + 1, supply, '%' :: r => do
    let (text, supply, r) ← placeholder? supply r
    let (rest, supply) ← fillAll? fuel supply r
    some (text ++ rest, supply)
  | fuel + 1, supply, c :: r => do
    let (rest, supply) ← fillAll? fuel supply r
    some (c :: rest, supply)

end Template

/-- A message with its placeholders filled; without arguments it stays as it is. -/
def fillMessage? (message : String) (arguments : Arguments) : Option String :=
  let run (supply : Template.Supply) : Option String := do
    let (cs, rest) ← Template.fillAll? (message.length + 1) supply message.toList
    if rest.all.isNone && !rest.next.isEmpty then none else some (String.ofList cs)
  match arguments with
  | .none => some message
  | .list [] => some message
  | .list vs => run ⟨vs, none⟩
  | .mapping [] => some message
  | .mapping es => run ⟨[.mapping es], some es⟩
  | .text "" => some message
  | .text s => run ⟨[.text s], none⟩

end Stowage.Log
