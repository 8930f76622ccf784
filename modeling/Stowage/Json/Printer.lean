import Stowage.Decimal.Shortest
import Stowage.Json.Basic
import Stowage.Text.Quoted

/-!
Writing JSON.

A `Json.Style` fixes what the format leaves open: separators, line breaks, whether characters
outside ASCII are escaped and whether the members of an object are sorted by key. The documents
written are the same for every style.
-/

namespace Stowage.Json

/-- The free choices in writing a document. With `indent` set, every item stands on a line of its
own, that many spaces deeper than what holds it. -/
structure Style where
  comma : List Char
  colon : List Char
  indent : Option Nat
  ascii : Bool
  sorted : Bool

namespace Style

/-- On one line, with a space after each separator. -/
def spaced : Style := ⟨[',', ' '], [':', ' '], none, true, false⟩

/-- On one line, without spaces. -/
def compact : Style := ⟨[','], [':'], none, true, false⟩

/-- On one line, without spaces, members in order of their keys. -/
def compactSorted : Style := ⟨[','], [':'], none, true, true⟩

/-- One item a line, members in order of their keys. -/
def indented : Style := ⟨[','], [':', ' '], some 2, true, true⟩

end Style

/-- A sixteen-bit unit as an escape. -/
def unitEscape (n : Nat) : List Char := '\\' :: 'u' :: Text.hexDigits 4 n

/-- A character as an escape, in two units when it lies beyond the basic plane. -/
def codeEscape (n : Nat) : List Char :=
  if n < 0x10000 then unitEscape n
  else unitEscape (0xd800 + (n - 0x10000) / 0x400) ++ unitEscape (0xdc00 + (n - 0x10000) % 0x400)

/-- A character inside a string. -/
def escapeChar (ascii : Bool) (c : Char) : List Char :=
  if c = '"' then ['\\', '"']
  else if c = '\\' then ['\\', '\\']
  else if c = '\n' then ['\\', 'n']
  else if c = '\r' then ['\\', 'r']
  else if c = '\t' then ['\\', 't']
  else if c = '\x08' then ['\\', 'b']
  else if c = '\x0c' then ['\\', 'f']
  else if c.toNat < 0x20 ∨ (ascii = true ∧ 0x7f ≤ c.toNat) then codeEscape c.toNat
  else [c]

/-- A string in double quotes. -/
def writeText (ascii : Bool) (s : String) : List Char :=
  '"' :: (s.toList.flatMap (escapeChar ascii) ++ ['"'])

/-- What stands before an item at a depth: nothing, or a new line and its spaces. -/
def lineStart (style : Style) (depth : Nat) : List Char :=
  match style.indent with
  | none => []
  | some n => '\n' :: List.replicate (n * depth) ' '

/-- Items between brackets. -/
def enclose (style : Style) (depth : Nat) (first last : Char) (items : List (List Char)) :
    List Char :=
  match items with
  | [] => [first, last]
  | item :: rest =>
    first :: (lineStart style (depth + 1) ++ item ++
      rest.flatMap (fun i => style.comma ++ lineStart style (depth + 1) ++ i) ++
      lineStart style depth ++ [last])

/-- Members in order of their keys, if the style asks for it. -/
def arrange (style : Style) (members : List (String × List Char)) : List (String × List Char) :=
  if style.sorted then members.mergeSort fun a b => a.1 ≤ b.1 else members

mutual

/-- A document at a depth. -/
def writeAt (style : Style) (depth : Nat) : Json → List Char
  | .null => ['n', 'u', 'l', 'l']
  | .bool true => ['t', 'r', 'u', 'e']
  | .bool false => ['f', 'a', 'l', 's', 'e']
  | .int i => Decimal.integerChars i
  | .float x => (NumberLayout.json.write x).toList
  | .text s => writeText style.ascii s
  | .list items => enclose style depth '[' ']' (writeItems style (depth + 1) items)
  | .object members =>
    enclose style depth '{' '}' ((arrange style (writeMembers style (depth + 1) members)).map
      fun (k, v) => writeText style.ascii k ++ style.colon ++ v)

def writeItems (style : Style) (depth : Nat) : List Json → List (List Char)
  | [] => []
  | j :: r => writeAt style depth j :: writeItems style depth r

def writeMembers (style : Style) (depth : Nat) : List (String × Json) → List (String × List Char)
  | [] => []
  | (k, j) :: r => (k, writeAt style depth j) :: writeMembers style depth r

end

/-- A document as text. -/
def write (style : Style) (j : Json) : String := String.ofList (writeAt style 0 j)

end Stowage.Json
