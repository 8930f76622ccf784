import Stowage.Decimal.Shortest
import Stowage.Text.Quoted
import Stowage.Text.Split
import Stowage.Value.Basic

/-!
The text of a value.

There are two forms. `Value.display` is how a value reads inside a message; `Value.literal` is how
it reads inside another value, where text is quoted and words of vocabularies show their origin.
Containers use the literal form of their parts in both.
-/

namespace Stowage.Value

/-- How a truth value is written. -/
def boolText (b : Bool) : String := if b then "True" else "False"

/-- One byte inside quotes. -/
def byteEscape (quote : Char) (b : Nat) : List Char :=
  if 0x20 ≤ b ∧ b < 0x7f then
    let c := Char.ofNat b
    if c = quote ∨ c = '\\' then ['\\', c] else [c]
  else if b = 9 then ['\\', 't']
  else if b = 10 then ['\\', 'n']
  else if b = 13 then ['\\', 'r']
  else '\\' :: 'x' :: Text.hexDigits 2 b

/-- Bytes in quotes. -/
def bytesLiteral (bs : List Nat) : String :=
  let quote := Text.Quoted.mark (bs.map Char.ofNat)
  String.ofList ('b' :: quote :: (bs.flatMap (byteEscape quote) ++ [quote]))

/-- Labels as a mapping of quoted keys and values. -/
def labelsLiteral (labels : Labels) : String :=
  "\x7b" ++ Text.join ", " (labels.entries.map fun (k, v) => Text.quoted k ++ ": " ++ Text.quoted v)
    ++ "\x7d"

/-- A word of a vocabulary with its family, its name and its quoted value. -/
def memberLiteral (family name value : String) : String :=
  "<" ++ family ++ "." ++ name ++ ": " ++ Text.quoted value ++ ">"

/-- An error detail with its fields. -/
def detailLiteral (d : ErrorDetail) : String :=
  "ErrorDetail(code=" ++ Text.quoted d.code ++ ", message=" ++ Text.quoted d.message ++
    ", category=" ++ memberLiteral (Vocabulary.family ErrorCategory) (Vocabulary.name d.category)
      (Vocabulary.value d.category) ++
    ", retryable=" ++ boolText d.retryable ++ ", metadata=" ++ labelsLiteral d.metadata ++ ")"

mutual

/-- A value as it reads inside another value. -/
def literal : Value → String
  | .null => "None"
  | .bool b => boolText b
  | .int i => Decimal.integerText i
  | .float x => x.text
  | .text s => Text.quoted s
  | .bytes bs => bytesLiteral bs
  | .date d => d.literal
  | .moment m => m.literal
  | .list items => "[" ++ Text.join ", " (literals items) ++ "]"
  | .tuple [a] => "(" ++ literal a ++ ",)"
  | .tuple items => "(" ++ Text.join ", " (literals items) ++ ")"
  | .set [] => "set()"
  | .set items => "\x7b" ++ Text.join ", " (literals items) ++ "\x7d"
  | .mapping entries => "\x7b" ++ Text.join ", " (entryLiterals entries) ++ "\x7d"
  | .path s => "PosixPath(" ++ Text.quoted s ++ ")"
  | .object s => s
  | .member family name value => memberLiteral family name value
  | .detail d => detailLiteral d
  | .record model fields => model ++ "(" ++ Text.join ", " (fieldLiterals fields) ++ ")"

def literals : List Value → List String
  | [] => []
  | v :: r => literal v :: literals r

def entryLiterals : List (Value × Value) → List String
  | [] => []
  | (k, v) :: r => (literal k ++ ": " ++ literal v) :: entryLiterals r

def fieldLiterals : List (String × Value) → List String
  | [] => []
  | (k, v) :: r => (k ++ "=" ++ literal v) :: fieldLiterals r

end

/-- A value as it reads in a message. -/
def display : Value → String
  | .text s => s
  | .path s => s
  | .date d => d.text
  | .moment m => m.text
  | .member family name _ => family ++ "." ++ name
  | .record _ fields => Text.join " " (fieldLiterals fields)
  | v => literal v

mutual

/-- Whether the text of the value would have to hold an integer that is too long to be written. -/
def isOverlong : Value → Bool
  | .int i => Decimal.isOverlong i
  | .list items | .tuple items | .set items => anyOverlong items
  | .mapping entries => anyEntryOverlong entries
  | .record _ fields => anyFieldOverlong fields
  | _ => false

def anyOverlong : List Value → Bool
  | [] => false
  | v :: r => isOverlong v || anyOverlong r

def anyEntryOverlong : List (Value × Value) → Bool
  | [] => false
  | (k, v) :: r => isOverlong k || isOverlong v || anyEntryOverlong r

def anyFieldOverlong : List (String × Value) → Bool
  | [] => false
  | (_, v) :: r => isOverlong v || anyFieldOverlong r

end

end Stowage.Value
