import Stowage.Text.Coding

/-!
UTF-7: text in which all but ASCII stands in shifted sections.

A section begins with a plus sign and holds units of UTF-16, six bits a character; it ends with a
minus sign or before any other character that has no six bits. A section that breaks off within a
unit stands for nothing beyond the units before.
-/

namespace Stowage.Charset.Utf7

/-- The six bits of a character in a section. -/
def sextet? (b : Nat) : Option Nat :=
  if 0x41 ≤ b ∧ b ≤ 0x5a then some (b - 0x41)
  else if 0x61 ≤ b ∧ b ≤ 0x7a then some (b - 0x61 + 26)
  else if 0x30 ≤ b ∧ b ≤ 0x39 then some (b - 0x30 + 52)
  else if b = 0x2b then some 62
  else if b = 0x2f then some 63
  else none

/-- A place within a section: bits that are read and not yet used, how many they are, and the first
half of a surrogate pair when the second is awaited. -/
structure Section where
  buffer : Nat := 0
  bits : Nat := 0
  half? : Option Nat := none
  deriving DecidableEq, Repr

namespace Section

/-- The awaited half on its own, if there is one. -/
def alone (s : Section) : List Text.Piece := (s.half?.map Text.Piece.surrogate).toList

/-- A unit: what it stands for together with the awaited half, and the half that is awaited next. -/
def unit (s : Section) (u : Nat) : List Text.Piece × Option Nat :=
  match s.half? with
  | some half =>
    if 0xdc00 ≤ u ∧ u < 0xe000 then
      ([Text.Coding.ofPoint (0x10000 + (half - 0xd800) * 0x400 + (u - 0xdc00))], none)
    else if 0xd800 ≤ u ∧ u < 0xdc00 then (s.alone, some u)
    else (s.alone ++ [Text.Coding.ofPoint u], none)
  | none =>
    if 0xd800 ≤ u ∧ u < 0xdc00 then ([], some u) else ([Text.Coding.ofPoint u], none)

/-- Six more bits: the pieces that they complete, and the place after them. -/
def push (s : Section) (six : Nat) : List Text.Piece × Section :=
  let buffer := s.buffer * 64 + six
  let bits := s.bits + 6
  if bits < 16 then ([], { s with buffer, bits })
  else
    let rest := Nat.pow 2 (bits - 16)
    let (pieces, half?) := s.unit (buffer / rest)
    (pieces, { buffer := buffer % rest, bits := bits - 16, half? })

/-- Whether a section may not end here: a character of it or bits of one would be lost. -/
def isPartial (s : Section) : Bool := 6 ≤ s.bits || s.buffer != 0

end Section

/-- A byte outside of all sections, other than a plus sign. -/
def plain (b : Nat) : Text.Piece := if b < 0x80 then .char (Char.ofNat b) else .bad

/-- What the bytes stand for, within a section or outside of all. -/
def read : Option Section → List Nat → List Text.Piece
  | none, [] => []
  | some s, [] => if s.half?.isSome || s.isPartial then [.bad] else []
  | some s, b :: r =>
    match sextet? b with
    | some six => (s.push six).1 ++ read (some (s.push six).2) r
    | none =>
      if s.isPartial then .bad :: read none r
      else
        (if b < 0x80 then s.alone else []) ++ (if b = 0x2d then [] else [plain b]) ++ read none r
  | none, 0x2b :: 0x2d :: r => .char '+' :: read none r
  | none, 0x2b :: b :: r =>
    if (sextet? b).isSome then read (some {}) (b :: r) else .bad :: read none r
  | none, 0x2b :: [] => read (some {}) []
  | none, b :: r => plain b :: read none r

end Stowage.Charset.Utf7
