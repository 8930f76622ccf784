import Stowage.Decimal.Literal
import Stowage.Json.Basic
import Stowage.Text.Quoted

/-!
Reading JSON.

The grammar is that of the format, with the words `NaN`, `Infinity` and `-Infinity` as numbers
besides. Control characters inside strings are refused. An escape of half a surrogate pair stands
for the replacement character. Where a key is repeated the last value counts.

The reader takes characters from the front of a list and returns what is left. Its fuel bounds the
number of nested steps; `Json.read` gives it more than a text of that length can need.
-/

namespace Stowage.Json

/-- Why a text is not read. -/
inductive Refusal where
  /-- The text does not follow the grammar. -/
  | malformed
  /-- A whole number has this many digits, more than are converted. -/
  | overlong (digits : Nat)
  deriving DecidableEq, Repr

/-- White space between tokens. -/
def isGap (c : Char) : Bool := c == ' ' || c == '\t' || c == '\n' || c == '\r'

/-- Drop white space from the front. -/
def skipGap (cs : List Char) : List Char := cs.dropWhile isGap

/-- The number of four hexadecimal digits at the front, and the rest. -/
def hexUnit? : List Char → Option (Nat × List Char)
  | a :: b :: c :: d :: r => do
    let a ← Text.hexDigit? a
    let b ← Text.hexDigit? b
    let c ← Text.hexDigit? c
    let d ← Text.hexDigit? d
    some (((a * 16 + b) * 16 + c) * 16 + d, r)
  | _ => none

/-- The character of an escape by code, whose first unit has been read, and the rest. -/
def unitChar (unit : Nat) (rest : List Char) : Char × List Char :=
  if 0xd800 ≤ unit ∧ unit < 0xdc00 then
    match rest with
    | '\\' :: 'u' :: r =>
      match hexUnit? r with
      | some (low, r') =>
        if 0xdc00 ≤ low ∧ low < 0xe000 then
          (Char.ofNat (0x10000 + (unit - 0xd800) * 0x400 + (low - 0xdc00)), r')
        else ('\ufffd', rest)
      | none => ('\ufffd', rest)
    | _ => ('\ufffd', rest)
  else if 0xdc00 ≤ unit ∧ unit < 0xe000 then ('\ufffd', rest)
  else (Char.ofNat unit, rest)

/-- The character of an escape by letter. -/
def letterEscape? : Char → Option Char
  | '"' => some '"'
  | '\\' => some '\\'
  | '/' => some '/'
  | 'b' => some '\x08'
  | 'f' => some '\x0c'
  | 'n' => some '\n'
  | 'r' => some '\r'
  | 't' => some '\t'
  | _ => none

/-- The characters of a string after its opening quote, and the rest after its closing quote. -/
def readChars : Nat → List Char → Option (List Char × List Char)
  | 0, _ => none
  | _ + 1, [] => none
  | fuel + 1, c :: r =>
    if c = '"' then some ([], r)
    else if c = '\\' then
      match r with
      | 'u' :: r => do
        let (unit, r) ← hexUnit? r
        let (c, r) := unitChar unit r
        let (cs, r) ← readChars fuel r
        some (c :: cs, r)
      | e :: r => do
        let c ← letterEscape? e
        let (cs, r) ← readChars fuel r
        some (c :: cs, r)
      | [] => none
    else if c.toNat < 0x20 then none
    else do
      let (cs, r) ← readChars fuel r
      some (c :: cs, r)

/-- The longest start of ASCII digits, as digit values, and the rest. -/
def readDigits : List Char → List Nat × List Char
  | [] => ([], [])
  | c :: r =>
    match Text.asciiDigit? c with
    | some d => let (ds, r) := readDigits r; (d :: ds, r)
    | none => ([], c :: r)

/-- The digits of a fraction, if one follows. -/
def readFraction : List Char → Option (List Nat × List Char)
  | '.' :: r =>
    match readDigits r with
    | ([], _) => none
    | found => some found
  | _ => none

/-- The exponent, if one follows. -/
def readExponent : List Char → Option (Int × List Char)
  | c :: r =>
    if c = 'e' ∨ c = 'E' then
      let (negative, r) := Decimal.sign r
      match readDigits r with
      | ([], _) => none
      | (ds, r) => some (Decimal.signed negative (Decimal.ofDigits ds), r)
    else none
  | [] => none

/-- The digits before the point: a single zero, or digits that do not begin with one. -/
def readWhole : List Char → Option (List Nat × List Char)
  | '0' :: r => some ([0], r)
  | cs =>
    match readDigits cs with
    | ([], _) => none
    | found => some found

/-- A number after its sign. -/
def readNumber (negative : Bool) (cs : List Char) : Except Refusal (Json × List Char) :=
  match readWhole cs with
  | none => .error .malformed
  | some (ds, r) =>
    match readFraction r, readExponent r with
    | some (fs, r), _ =>
      let (e, r) := (readExponent r).getD (0, r)
      .ok (.float (.ofDecimal negative (Decimal.ofDigits (ds ++ fs)) (e - fs.length)), r)
    | none, some (e, r) => .ok (.float (.ofDecimal negative (Decimal.ofDigits ds) e), r)
    | none, none =>
      if ds.length ≤ Decimal.maxDigits then
        .ok (.int (Decimal.signed negative (Decimal.ofDigits ds)), r)
      else .error (.overlong ds.length)

/-- A word or a number. -/
def readAtom (cs : List Char) : Except Refusal (Json × List Char) :=
  match cs with
  | 'n' :: 'u' :: 'l' :: 'l' :: r => .ok (.null, r)
  | 't' :: 'r' :: 'u' :: 'e' :: r => .ok (.bool true, r)
  | 'f' :: 'a' :: 'l' :: 's' :: 'e' :: r => .ok (.bool false, r)
  | 'N' :: 'a' :: 'N' :: r => .ok (.float .nan, r)
  | 'I' :: 'n' :: 'f' :: 'i' :: 'n' :: 'i' :: 't' :: 'y' :: r => .ok (.float (.infinite false), r)
  | '-' :: 'I' :: 'n' :: 'f' :: 'i' :: 'n' :: 'i' :: 't' :: 'y' :: r =>
    .ok (.float (.infinite true), r)
  | '-' :: r => readNumber true r
  | r => readNumber false r

mutual

/-- A value at the front. -/
def readValue : Nat → List Char → Except Refusal (Json × List Char)
  | 0, _ => .error .malformed
  | fuel + 1, cs =>
    match cs with
    | '"' :: r =>
      match readChars (r.length + 1) r with
      | some (s, r) => .ok (.text (String.ofList s), r)
      | none => .error .malformed
    | '[' :: r =>
      match skipGap r with
      | ']' :: r => .ok (.list [], r)
      | r => do
        let (items, r) ← readItems fuel r
        .ok (.list items, r)
    | '{' :: r =>
      match skipGap r with
      | '}' :: r => .ok (.object [], r)
      | r => do
        let (members, r) ← readMembers fuel r
        .ok (ofPairs members, r)
    | cs => readAtom cs

/-- One or more items and the closing bracket. -/
def readItems : Nat → List Char → Except Refusal (List Json × List Char)
  | 0, _ => .error .malformed
  | fuel + 1, cs => do
    let (item, r) ← readValue fuel cs
    match skipGap r with
    | ']' :: r => .ok ([item], r)
    | ',' :: r => do
      let (items, r) ← readItems fuel (skipGap r)
      .ok (item :: items, r)
    | _ => .error .malformed

/-- One or more members and the closing brace. -/
def readMembers : Nat → List Char → Except Refusal (List (String × Json) × List Char)
  | 0, _ => .error .malformed
  | fuel + 1, cs =>
    match cs with
    | '"' :: r =>
      match readChars (r.length + 1) r with
      | none => .error .malformed
      | some (key, r) =>
        match skipGap r with
        | ':' :: r => do
          let (value, r) ← readValue fuel (skipGap r)
          match skipGap r with
          | '}' :: r => .ok ([(String.ofList key, value)], r)
          | ',' :: r => do
            let (members, r) ← readMembers fuel (skipGap r)
            .ok ((String.ofList key, value) :: members, r)
          | _ => .error .malformed
        | _ => .error .malformed
    | _ => .error .malformed

end

/-- The document that makes up the whole of a list of characters, white space around it aside. -/
def readList (cs : List Char) : Except Refusal Json := do
  let (value, r) ← readValue (2 * cs.length + 2) (skipGap cs)
  match skipGap r with
  | [] => .ok value
  | _ :: _ => .error .malformed

/-- The document that makes up the whole of a text. -/
def read (s : String) : Except Refusal Json := readList s.toList

end Stowage.Json
