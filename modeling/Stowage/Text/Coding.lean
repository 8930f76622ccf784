/-!
Characters out of bytes, in the codings of Unicode.

Every decoder gives a list of pieces. A piece is a character, half of a surrogate pair on its own,
or bytes that stand for nothing; `Coding.lenient` and `Coding.paired` say what becomes of the last
two. In UTF-8 the bytes that are refused together are the longest start of a well-formed sequence.

Codings of large scripts look characters up in charts (`Chart`).
-/

namespace Stowage.Text

/-- What some bytes stand for. -/
inductive Piece where
  | char (c : Char)
  | surrogate (unit : Nat)
  | bad
  deriving DecidableEq, Repr

namespace Coding

/-- The piece of a code point. -/
def ofPoint (n : Nat) : Piece :=
  if 0xd800 ≤ n ∧ n < 0xe000 then .surrogate n
  else if n < 0x110000 then .char (Char.ofNat n)
  else .bad

/-! ## UTF-8 -/

/-- Whether a byte continues a sequence. -/
def isTail (b : Nat) : Bool := 0x80 ≤ b && b < 0xc0

/-- The length of the sequence that a first byte announces and the second bytes that may follow
it. Halves of surrogate pairs are let through. -/
def announced? (b : Nat) : Option (Nat × Nat × Nat) :=
  if b < 0xc2 then none
  else if b < 0xe0 then some (2, 0x80, 0xbf)
  else if b = 0xe0 then some (3, 0xa0, 0xbf)
  else if b < 0xf0 then some (3, 0x80, 0xbf)
  else if b = 0xf0 then some (4, 0x90, 0xbf)
  else if b < 0xf4 then some (4, 0x80, 0xbf)
  else if b = 0xf4 then some (4, 0x80, 0x8f)
  else none

/-- The number of further bytes that are refused together with the first two of a sequence of three.
What would be half of a surrogate pair is no start of a well-formed sequence. -/
def refused (b c : Nat) : Nat := if b = 0xed ∧ 0xa0 ≤ c then 0 else 1

/-- The piece at the front, after its first byte, and the number of further bytes it takes. -/
def piece8 (b : Nat) (rest : List Nat) : Piece × Nat :=
  if b < 0x80 then (.char (Char.ofNat b), 0)
  else match announced? b, rest with
    | some (length, low, high), c :: rest =>
      if c < low ∨ high < c then (.bad, 0)
      else if length = 2 then (ofPoint ((b - 0xc0) * 0x40 + (c - 0x80)), 1)
      else match rest with
        | d :: rest =>
          if !isTail d then (.bad, refused b c)
          else if length = 3 then
            (ofPoint (((b - 0xe0) * 0x40 + (c - 0x80)) * 0x40 + (d - 0x80)), 2)
          else match rest with
            | e :: _ =>
              if !isTail e then (.bad, 2)
              else (ofPoint ((((b - 0xf0) * 0x40 + (c - 0x80)) * 0x40 + (d - 0x80)) * 0x40 +
                (e - 0x80)), 3)
            | [] => (.bad, 2)
        | [] => (.bad, refused b c)
    | _, _ => (.bad, 0)

/-- Bytes in UTF-8. -/
def utf8 : List Nat → List Piece
  | [] => []
  | b :: r => (piece8 b r).1 :: utf8 (r.drop (piece8 b r).2)
termination_by bs => bs.length
decreasing_by simp only [List.length_drop, List.length_cons]; omega

/-- In strict UTF-8 the bytes of half a surrogate pair stand for nothing, each by itself. -/
def strict (pieces : List Piece) : List Piece :=
  pieces.flatMap fun
    | .surrogate _ => [.bad, .bad, .bad]
    | p => [p]

/-! ## UTF-16 and UTF-32 -/

/-- Units of `width` bytes; an incomplete unit at the end is none. The fuel bounds the number of
bytes. -/
def units (width : Nat) (bigEndian : Bool) : Nat → List Nat → List (Option Nat)
  | 0, _ => []
  | _, [] => []
  | fuel + 1, bs =>
    let unit := bs.take width
    if unit.length < width then [none]
    else
      let ordered := if bigEndian then unit else unit.reverse
      some (ordered.foldl (fun n b => n * 256 + b) 0) :: units width bigEndian fuel (bs.drop width)

/-- Units of sixteen bits, two of them joined where they make up a surrogate pair. The first half of
a pair at the end is refused together with an incomplete unit after it. -/
def joinPairs : List (Option Nat) → List Piece
  | [] => []
  | none :: r => .bad :: joinPairs r
  | [some n] => [ofPoint n]
  | some n :: none :: r =>
    (if 0xd800 ≤ n ∧ n < 0xdc00 then [.bad] else [ofPoint n, .bad]) ++ joinPairs r
  | some n :: some m :: r =>
    if 0xd800 ≤ n ∧ n < 0xdc00 ∧ 0xdc00 ≤ m ∧ m < 0xe000 then
      ofPoint (0x10000 + (n - 0xd800) * 0x400 + (m - 0xdc00)) :: joinPairs r
    else ofPoint n :: joinPairs (some m :: r)

/-- Bytes in UTF-16. -/
def utf16 (bigEndian : Bool) (bs : List Nat) : List Piece :=
  joinPairs (units 2 bigEndian (bs.length + 1) bs)

/-- Bytes in UTF-32. -/
def utf32 (bigEndian : Bool) (bs : List Nat) : List Piece :=
  (units 4 bigEndian (bs.length + 1) bs).map fun
    | some n => ofPoint n
    | none => .bad

/-! ## Out of pieces -/

/-- Characters, with the replacement character for everything else. -/
def lenient (pieces : List Piece) : List Char :=
  pieces.map fun
    | .char c => c
    | _ => '\ufffd'

/-- Characters, unless some bytes stand for nothing; half of a surrogate pair becomes the
replacement character. -/
def paired (pieces : List Piece) : Option (List Char) :=
  pieces.mapM fun
    | .char c => some c
    | .surrogate _ => some '\ufffd'
    | .bad => none

end Coding

end Stowage.Text

namespace Stowage

/-- A chart: runs of characters, each with the number of its first character. -/
abbrev Chart := List (Nat × String)

namespace Chart

/-- The character that a chart has at a number. Within a run, the replacement character holds places
that are not taken. -/
def cell? (chart : Chart) (n : Nat) : Option Char :=
  chart.findSome? fun run =>
    if run.1 ≤ n ∧ n < run.1 + 128 then run.2.toList[n - run.1]? else none

/-- The character at a number where a place is taken. -/
def find? (chart : Chart) (n : Nat) : Option Char := (chart.cell? n).filter (· != '\ufffd')

end Chart

end Stowage
