/-!
Deflated data as bits: what is read from it, what comes out of it, and how it ends.

The bits of a byte are read from the least on. Data that breaks off stands for all that came out of
it before; data in which something is wrong stands for nothing.
-/

namespace Stowage.Deflate

/-- What can be wrong with deflated data, and with what is around it. -/
inductive Fault where
  /-- The data does not begin as data of its form does. -/
  | header
  | method
  | window
  /-- The data was made with a dictionary, which it does not hold. -/
  | dictionary
  | flags
  | headerSum
  | blockKind
  /-- The length of a stored block and its complement do not fit. -/
  | storedLength
  | tooManyWords
  /-- The words for the lengths of words are no code. -/
  | lengthsCode
  /-- A length of words is repeated where there is none, or beyond the last. -/
  | repetition
  /-- No word ends the block. -/
  | endless
  | literalsCode
  | distancesCode
  | literal
  | distance
  /-- A copy of what came out before the first byte. -/
  | tooFar
  | sum
  | size
  deriving DecidableEq, Repr

/-- A fault in words. -/
def Fault.message : Fault → String
  | .header => broken "incorrect header check"
  | .method => broken "unknown compression method"
  | .window => broken "invalid window size"
  | .dictionary => "Error 2 while decompressing data"
  | .flags => broken "unknown header flags set"
  | .headerSum => broken "header crc mismatch"
  | .blockKind => broken "invalid block type"
  | .storedLength => broken "invalid stored block lengths"
  | .tooManyWords => broken "too many length or distance symbols"
  | .lengthsCode => broken "invalid code lengths set"
  | .repetition => broken "invalid bit length repeat"
  | .endless => broken "invalid code -- missing end-of-block"
  | .literalsCode => broken "invalid literal/lengths set"
  | .distancesCode => broken "invalid distances set"
  | .literal => broken "invalid literal/length code"
  | .distance => broken "invalid distance code"
  | .tooFar => broken "invalid distance too far back"
  | .sum => broken "incorrect data check"
  | .size => broken "incorrect length check"
where
  broken (what : String) : String := "Error -3 while decompressing data: " ++ what

/-- Why reading stops before the end. -/
inductive Ending where
  /-- The data breaks off. -/
  | short
  | broken (fault : Fault)
  deriving DecidableEq, Repr

/-- The bits that are left, and the bytes that came out. -/
structure Progress where
  bits : List Bool
  out : Array Nat := #[]
  deriving Repr

/-- A step of reading. What came out is kept when reading stops. -/
abbrev Inflating := EStateM Ending Progress

/-- Something is wrong with the data. -/
def fail {α : Type} (fault : Fault) : Inflating α := throw (.broken fault)

/-- The bits of a byte, from the least on. -/
def bitsOf (b : Nat) : List Bool := (List.range 8).map b.testBit

namespace Inflating

/-- The next bit. -/
def bit : Inflating Bool := do
  match (← get).bits with
  | [] => throw .short
  | b :: r => do
    modify fun p => { p with bits := r }
    pure b

/-- The number in the next `n` bits, the least first. -/
def number : Nat → Inflating Nat
  | 0 => pure 0
  | n + 1 => do
    let b ← bit
    let rest ← number n
    pure (b.toNat + 2 * rest)

/-- Leave out the next `n` bytes. -/
def skip : Nat → Inflating Unit
  | 0 => pure ()
  | n + 1 => do
    let _ ← number 8
    skip n

/-- Leave out what is left of a byte that was begun. -/
def align : Inflating Unit :=
  modify fun p => { p with bits := p.bits.drop (p.bits.length % 8) }

/-- Put out a byte. -/
def push (b : Nat) : Inflating Unit := modify fun p => { p with out := p.out.push b }

/-- Put out once more the byte that came out `distance` bytes ago. -/
def again (distance : Nat) : Inflating Unit :=
  modify fun p => { p with out := p.out.push (p.out.getD (p.out.size - distance) 0) }

/-- Put out the next `n` bytes as they are. -/
def copyStored : Nat → Inflating Unit
  | 0 => pure ()
  | n + 1 => do
    push (← number 8)
    copyStored n

/-- Put out `n` bytes as they came out `distance` bytes ago. -/
def copyAgain (distance : Nat) : Nat → Inflating Unit
  | 0 => pure ()
  | n + 1 => do
    again distance
    copyAgain distance n

end Inflating

end Stowage.Deflate
