import Stowage.Deflate.Block

/-!
Envelopes of deflated data: what stands before and after it, and how it is checked.
-/

namespace Stowage.Deflate

/-! ## Sums -/

/-- The sum of bytes, beside the sum of these sums: both modulo the greatest prime below 2¹⁶. -/
def adler32 (bytes : Array Nat) : Nat :=
  let (a, b) := bytes.foldl (fun (a, b) byte =>
    let a := (a + byte) % 65521
    (a, (b + a) % 65521)) (1, 0)
  b * 0x10000 + a

/-- The remainder of bits, read as a polynomial with the least first, after one more bit. -/
def crcBit (c : Nat) : Nat := if c % 2 = 1 then (c / 2) ^^^ 0xedb88320 else c / 2

/-- The cyclic redundancy check of bytes. -/
def crc32 (bytes : Array Nat) : Nat :=
  (bytes.foldl (fun c byte => Nat.repeat crcBit 8 (c ^^^ byte)) 0xffffffff) ^^^ 0xffffffff

/-! ## Envelopes -/

/-- What deflated data can be in. -/
inductive Envelope where
  | bare
  | zlib
  | gzip
  deriving DecidableEq, Repr

namespace Envelope

/-- A number of four bytes, the greatest first. -/
def greatest : Inflating Nat := do
  let a ← Inflating.number 8
  let b ← Inflating.number 8
  let c ← Inflating.number 8
  let d ← Inflating.number 8
  pure (((a * 256 + b) * 256 + c) * 256 + d)

/-- Data between two bytes that tell the method and a sum. -/
def zlibData : Inflating Unit := do
  let first ← Inflating.number 8
  let second ← Inflating.number 8
  if (first * 256 + second) % 31 ≠ 0 then fail .header
  if first % 16 ≠ 8 then fail .method
  if 7 < first / 16 then fail .window
  if second.testBit 5 then do
    Inflating.skip 4
    fail .dictionary
  Inflating.body
  let sum ← greatest
  if sum ≠ adler32 (← get).out then fail .sum

/-- Skip text up to its end, a zero; there are no more than `n` bytes. -/
def skipText : Nat → Inflating Unit
  | 0 => throw .short
  | n + 1 => do unless (← Inflating.number 8) = 0 do skipText n

/-- Data between a header of several parts and a sum with the length. -/
def gzipData (bytes : List Nat) : Inflating Unit := do
  if (← Inflating.number 16) ≠ 0x8b1f then fail .header
  let method ← Inflating.number 8
  let flags ← Inflating.number 8
  if method ≠ 8 then fail .method
  if 0x20 ≤ flags then fail .flags
  Inflating.skip 6
  if flags.testBit 2 then do
    let length ← Inflating.number 16
    Inflating.skip length
  if flags.testBit 3 then skipText bytes.length
  if flags.testBit 4 then skipText bytes.length
  if flags.testBit 1 then do
    let header := bytes.take (bytes.length - (← get).bits.length / 8)
    if (← Inflating.number 16) ≠ crc32 header.toArray % 0x10000 then fail .headerSum
  Inflating.body
  if (← Inflating.number 32) ≠ crc32 (← get).out then fail .sum
  if (← Inflating.number 32) ≠ (← get).out.size % Nat.pow 2 32 then fail .size

/-- What is in an envelope. -/
def data (bytes : List Nat) : Envelope → Inflating Unit
  | .bare => Inflating.body
  | .zlib => zlibData
  | .gzip => gzipData bytes

/-- The bytes that came out of data in an envelope. Whatever follows it does not count. -/
def inflate (envelope : Envelope) (bytes : List Nat) : Except Fault (List Nat) :=
  match (envelope.data bytes).run { bits := bytes.flatMap bitsOf } with
  | .ok _ p => .ok p.out.toList
  | .error .short p => .ok p.out.toList
  | .error (.broken fault) _ => .error fault

end Envelope

end Stowage.Deflate
