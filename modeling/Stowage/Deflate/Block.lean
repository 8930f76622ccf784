import Stowage.Deflate.Code

/-!
Blocks, of which deflated data consists: bytes stored as they are, or words for bytes and for copies
of what came out before.
-/

namespace Stowage.Deflate

/-- The codes of a block: for bytes, the end and the lengths of copies, and for the distances of
copies. -/
structure Codes where
  literals : Code
  distances : Code
  deriving DecidableEq, Repr

namespace Codes

/-- The codes that need not be told. -/
def fixed : Codes where
  literals := Code.ofLengths (List.replicate 144 8 ++ List.replicate 112 9 ++
    List.replicate 24 7 ++ List.replicate 8 8)
  distances := Code.ofLengths (List.replicate 32 5)

/-- The order in which the lengths of the words for lengths are told. -/
def order : List Nat := [16, 17, 18, 0, 8, 7, 9, 6, 10, 5, 11, 4, 12, 3, 13, 2, 14, 1, 15]

/-- Lengths of words until there are `count`, of which those so far are given from the last to the
first. There are no more than `n` words for them. -/
def lengths (code : Code) (count : Nat) : Nat → List Nat → Inflating (List Nat)
  | 0, before => pure before.reverse
  | n + 1, before =>
    if count ≤ before.length then pure before.reverse
    else do
      match (← code.read).getD 0 with
      | 16 => do
        let times := 3 + (← Inflating.number 2)
        match before with
        | [] => fail .repetition
        | l :: _ => more n before times l
      | 17 => do more n before (3 + (← Inflating.number 3)) 0
      | 18 => do more n before (11 + (← Inflating.number 7)) 0
      | l => lengths code count n (l :: before)
where
  more (n : Nat) (before : List Nat) (times l : Nat) : Inflating (List Nat) :=
    if count < before.length + times then fail .repetition
    else lengths code count n (List.replicate times l ++ before)

/-- The codes that a block begins with. -/
def told : Inflating Codes := do
  let literals := 257 + (← Inflating.number 5)
  let distances := 1 + (← Inflating.number 5)
  let given := 4 + (← Inflating.number 4)
  if 286 < literals || 30 < distances then fail .tooManyWords
  let first ← (List.range given).mapM fun _ => Inflating.number 3
  let code := Code.ofLengths ((List.range 19).map fun n =>
    ((order.zip first).lookup n).getD 0)
  unless code.isComplete || code.isEmpty do fail .lengthsCode
  let count := literals + distances
  let all ← lengths code count count []
  if all.getD 256 0 = 0 then fail .endless
  let codes : Codes := ⟨.ofLengths (all.take literals), .ofLengths (all.drop literals)⟩
  unless codes.literals.isComplete || codes.literals.isSlight do fail .literalsCode
  unless codes.distances.isComplete || codes.distances.isSlight do fail .distancesCode
  pure codes

end Codes

namespace Inflating

/-- The length of a copy: lengths come in classes, each with bits that tell which of its lengths. -/
def copyLength (kind : Nat) : Inflating Nat :=
  if kind < 4 then pure (3 + kind)
  else if kind = 28 then pure 258
  else do
    let bits := kind / 4 - 1
    pure (3 + (4 + kind % 4) * Nat.pow 2 bits + (← number bits))

/-- The distance of a copy, in classes as lengths are. -/
def copyDistance (kind : Nat) : Inflating Nat :=
  if kind < 2 then pure (1 + kind)
  else do
    let bits := kind / 2 - 1
    pure (1 + (2 + kind % 2) * Nat.pow 2 bits + (← number bits))

/-- A copy: its length is of this class, and its distance comes after. -/
def copy (codes : Codes) (kind : Nat) : Inflating Unit := do
  let length ← copyLength kind
  match ← codes.distances.read with
  | none => fail .distance
  | some kind =>
    if 30 ≤ kind then fail .distance
    let distance ← copyDistance kind
    if (← get).out.size < distance then fail .tooFar
    copyAgain distance length

/-- Words up to the one that ends the block; there are no more than `n`. -/
def words (codes : Codes) : Nat → Inflating Unit
  | 0 => throw .short
  | n + 1 => do
    match ← codes.literals.read with
    | none => fail .literal
    | some s =>
      if s < 256 then do
        push s
        words codes n
      else if s = 256 then pure ()
      else if 286 ≤ s then fail .literal
      else do
        copy codes (s - 257)
        words codes n

/-- A stored block. -/
def stored : Inflating Unit := do
  align
  let length ← number 16
  let complement ← number 16
  if length + complement ≠ 0xffff then fail .storedLength
  copyStored length

/-- A block. Each of its words takes a bit at least. -/
def block (kind : Nat) : Inflating Unit := do
  match kind with
  | 0 => stored
  | 1 => do words .fixed ((← get).bits.length + 1)
  | 2 => do
    let codes ← Codes.told
    words codes ((← get).bits.length + 1)
  | _ => fail .blockKind

/-- Blocks up to the last; there are no more than `n`. -/
def blocks : Nat → Inflating Unit
  | 0 => throw .short
  | n + 1 => do
    let isLast ← bit
    block (← number 2)
    unless isLast do blocks n

/-- All blocks, and the rest of the byte in which they end. -/
def body : Inflating Unit := do
  blocks ((← get).bits.length + 1)
  align

end Inflating

end Stowage.Deflate
