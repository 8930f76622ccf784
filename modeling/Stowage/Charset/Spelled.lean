import Stowage.Text.Coding
import Stowage.Text.Quoted

/-!
Spelled charsets: bytes that stand for the characters of their number, and characters spelled out in
digits after a backslash.

Digits that are missing make what there is of a character stand for nothing. In the raw form only
codes of four or eight digits count, and all other backslashes stand for themselves. Names of
characters are not known.
-/

namespace Stowage.Charset.Spelled

/-- A byte as the character of its number. -/
def plain (b : Nat) : Text.Piece := Text.Coding.ofPoint b

/-- The value of a hexadecimal digit. -/
def hexDigit? (b : Nat) : Option Nat := Text.hexDigit? (Char.ofNat b)

/-- Bytes at the front that are digits, at most `count` of them. -/
def digits (isDigit : Nat → Bool) (count : Nat) (bs : List Nat) : List Nat :=
  (bs.take count).takeWhile isDigit

/-- The character of a code of `count` hexadecimal digits, and the number of bytes it takes. -/
def code (count : Nat) (bs : List Nat) : List Text.Piece × Nat :=
  let found := digits (fun b => (hexDigit? b).isSome) count bs
  let n := found.foldl (fun n b => n * 16 + (hexDigit? b).getD 0) 0
  ([if found.length < count then .bad else Text.Coding.ofPoint n], found.length)

/-- The number of digits that a letter announces. -/
def announced? (raw : Bool) (b : Nat) : Option Nat :=
  if b = 'x'.toNat && !raw then some 2
  else if b = 'u'.toNat then some 4
  else if b = 'U'.toNat then some 8
  else none

/-- The character that a letter or a sign after a backslash stands for. -/
def short? (b : Nat) : Option Char :=
  let all : List (Char × Char) := [('\\', '\\'), ('\x27', '\x27'), ('"', '"'), ('b', '\x08'),
    ('f', '\x0c'), ('t', '\t'), ('n', '\n'), ('r', '\r'), ('v', '\x0b'), ('a', '\x07')]
  (all.find? fun p => p.1.toNat = b).map Prod.snd

/-- The number of bytes that a name takes after its letter. -/
def nameLength : List Nat → Nat
  | 0x7b :: r =>
    let name := r.takeWhile (· != 0x7d)
    if name.isEmpty ∨ name.length = r.length then name.length + 1 else name.length + 2
  | _ => 0

/-- What follows a backslash: pieces, and the number of bytes they take. -/
def escape (raw : Bool) : List Nat → List Text.Piece × Nat
  | [] => ([if raw then .char '\\' else .bad], 0)
  | b :: r =>
    match announced? raw b with
    | some count => let (pieces, length) := code count r; (pieces, length + 1)
    | none =>
      if raw then ([.char '\\', plain b], 1)
      else if b = 0x0a then ([], 1)
      else if 0x30 ≤ b ∧ b < 0x38 then
        let found := digits (fun b => 0x30 ≤ b && b < 0x38) 3 (b :: r)
        ([Text.Coding.ofPoint (found.foldl (fun n b => n * 8 + (b - 0x30)) 0)], found.length)
      else if b = 'N'.toNat then ([.bad], nameLength r + 1)
      else match short? b with
        | some c => ([.char c], 1)
        | none => ([.char '\\', plain b], 1)

/-- What bytes stand for. -/
def read (raw : Bool) : List Nat → List Text.Piece
  | [] => []
  | b :: r =>
    if b = 0x5c then (escape raw r).1 ++ read raw (r.drop (escape raw r).2)
    else plain b :: read raw r
termination_by bs => bs.length
decreasing_by all_goals simp only [List.length_drop, List.length_cons]; omega

end Stowage.Charset.Spelled
