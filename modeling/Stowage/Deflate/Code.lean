import Stowage.Deflate.Basic

/-!
Prefix codes: words of bits for numbers, of which none begins with another.

The lengths of the words tell all the rest: shorter words come first, and words of one length are
numbers that follow one another.
-/

namespace Stowage.Deflate

/-- A prefix code: for each length from one on, the numbers that have a word of it, in order. There
is at least one length. -/
abbrev Code := List (List Nat)

namespace Code

/-- The code in which the number `i` has a word of the length `lengths[i]`, or none when that is
zero. -/
def ofLengths (lengths : List Nat) : Code :=
  (List.range (lengths.foldl max 1)).map fun n =>
    (lengths.zipIdx.filter fun entry => entry.1 = n + 1).map Prod.snd

/-- How many words are left at the longest length when there are `room` of the length before the
first; none when there are not as many as the code has. -/
def room? : Code → Nat → Option Nat
  | [], room => some room
  | words :: r, room =>
    if 2 * room < words.length then none else room? r (2 * room - words.length)

/-- Whether all bits begin with a word. -/
def isComplete (code : Code) : Bool := code.room? 1 == some 0

/-- Whether there is no word. -/
def isEmpty (code : Code) : Bool := code.all List.isEmpty

/-- Whether there are words of one bit at most. -/
def isSlight (code : Code) : Bool := code.length ≤ 1 && (code.room? 1).isSome

/-- The number whose word comes next, if a word does. `before` counts the words, of the length
before, that come before the bits read so far. -/
def next? (code : Code) (before : Nat) : Inflating (Option Nat) :=
  match code with
  | [] => pure none
  | words :: r => do
    let place := 2 * before + (← Inflating.bit).toNat
    match words[place]? with
    | some n => pure (some n)
    | none => next? r (place - words.length)

/-- The number whose word comes next, if a word does. -/
def read (code : Code) : Inflating (Option Nat) := code.next? 0

end Code

end Stowage.Deflate
