/-!
Punycode: text of any script in the letters, digits and hyphens of ASCII.

The characters in ASCII come first, then a hyphen if there are any, then where the others go: in
rising order, each as the difference to the one before, counted in places where it might have stood.
The differences are numbers whose digits have varying weights, so that no mark is needed between
them.
-/

namespace Stowage.Hostname.Punycode

/-! ## Numbers -/

/-- The threshold of the digit at `place` (36 for the first, 72 for the second, …): a digit below it
is the last of its number. -/
def threshold (place bias : Nat) : Nat :=
  if place ≤ bias then 1 else if bias + 26 ≤ place then 26 else place - bias

theorem threshold_pos (place bias : Nat) : 1 ≤ threshold place bias := by
  unfold threshold; split
  · omega
  · split <;> omega

/-- The part of the bias that comes from a large difference, and what remains of it. -/
def scaled (difference : Nat) : Nat × Nat :=
  if 455 < difference then
    let (bias, rest) := scaled (difference / 35)
    (bias + 36, rest)
  else (0, difference)
termination_by difference
decreasing_by exact Nat.div_lt_self (by omega) (by omega)

/-- The bias after a difference, `points` being how many characters there are with it; the first
difference counts less. -/
def adapt (difference points : Nat) (first : Bool) : Nat :=
  let d := if first then difference / 700 else difference / 2
  let (bias, rest) := scaled (d + d / points)
  bias + 36 * rest / (rest + 38)

/-- A digit below 36. -/
def digit (d : Nat) : Char := Char.ofNat (if d < 26 then 97 + d else 22 + d)

/-- The value of a digit. -/
def digit? (c : Char) : Option Nat :=
  if c.isLower then some (c.toNat - 97)
  else if c.isUpper then some (c.toNat - 65)
  else if c.isDigit then some (c.toNat - 22)
  else none

/-- A number whose digits begin at `place`, the least significant first. -/
def writeNumber (bias place n : Nat) : List Char :=
  let t := threshold place bias
  if n < t then [digit n]
  else digit (t + (n - t) % (36 - t)) :: writeNumber bias (place + 36) ((n - t) / (36 - t))
termination_by n
decreasing_by
  have := threshold_pos place bias
  have := Nat.div_le_self (n - threshold place bias) (36 - threshold place bias)
  omega

/-- The number at the front, the digits before it being worth `sum` and the next one counting
`weight`, and what follows it. -/
def readNumber? (bias place weight sum : Nat) : List Char → Option (Nat × List Char)
  | [] => none
  | c :: r =>
    match digit? c with
    | none => none
    | some d =>
      let t := threshold place bias
      if d < t then some (sum + d * weight, r)
      else readNumber? bias (place + 36) (weight * (36 - t)) (sum + d * weight) r

theorem length_lt_of_readNumber? {bias place weight sum n : Nat} {cs r : List Char}
    (h : readNumber? bias place weight sum cs = some (n, r)) : r.length < cs.length := by
  induction cs generalizing place weight sum with
  | nil => simp [readNumber?] at h
  | cons c cs ih =>
    rw [readNumber?] at h
    split at h
    · simp at h
    · simp only at h
      split at h
      · simp only [Option.some.injEq, Prod.mk.injEq] at h
        simp [← h.2]
      · have := ih h
        simp only [List.length_cons]
        omega

/-! ## Writing -/

/-- How far writing has come: the lowest code point that is not written yet, the difference so far,
the bias, the number of characters written, and their code. -/
structure Progress where
  next : Nat
  difference : Nat := 0
  bias : Nat := 72
  written : Nat
  code : List Char

/-- Look at one character while those with the code point `n` are written; `plain` is the number of
characters in ASCII. -/
def look (plain n : Nat) (p : Progress) (c : Char) : Progress :=
  if c.toNat < n then { p with difference := p.difference + 1 }
  else if c.toNat = n then
    { p with
      difference := 0
      bias := adapt p.difference (p.written + 1) (p.written = plain)
      written := p.written + 1
      code := p.code ++ writeNumber p.bias 36 p.difference }
  else p

/-- Text in Punycode. -/
def encode (cs : List Char) : List Char :=
  let plain := cs.filter fun c => c.toNat < 0x80
  let others := ((cs.filter fun c => 0x80 ≤ c.toNat).map Char.toNat).mergeSort.eraseDups
  let start : Progress := {
    next := 0x80
    written := plain.length
    code := if plain.isEmpty then [] else plain ++ ['-'] }
  let final := others.foldl (fun p n =>
    let p := { p with difference := p.difference + (n - p.next) * (p.written + 1) }
    let p := cs.foldl (look plain.length n) p
    { p with difference := p.difference + 1, next := n + 1 }) start
  final.code

/-! ## Reading -/

/-- Put the characters that a code tells of among those there are. `next` is the code point reached
and `place` the place. -/
def insertAll? (bias next place : Nat) (first : Bool) (there : List Char) :
    List Char → Option (List Char)
  | [] => some there
  | c :: r =>
    match _h : readNumber? bias 36 1 0 (c :: r) with
    | none => none
    | some (difference, rest) =>
      let points := there.length + 1
      let code := next + (place + difference) / points
      let place := (place + difference) % points
      if code.isValidChar then
        insertAll? (adapt difference points first) code (place + 1) false
          (there.take place ++ Char.ofNat code :: there.drop place) rest
      else none
termination_by cs => cs.length
decreasing_by exact length_lt_of_readNumber? ‹_›

/-- The same as far as the code makes sense. A question mark stands in for a character beyond all
characters, and counting goes on from it. -/
def insertSome (bias next place : Nat) (first : Bool) (there : List Char) : List Char → List Char
  | [] => there
  | c :: r =>
    match _h : readNumber? bias 36 1 0 (c :: r) with
    | none => there
    | some (difference, rest) =>
      let points := there.length + 1
      let code := next + (place + difference) / points
      let place := (place + difference) % points
      let code := if code < 0x110000 then code else '?'.toNat
      let inserted := if code.isValidChar then Char.ofNat code else '\ufffd'
      insertSome (adapt difference points first) code (place + 1) false
        (there.take place ++ inserted :: there.drop place) rest
termination_by cs => cs.length
decreasing_by exact length_lt_of_readNumber? ‹_›

/-- The plain characters of a text, and the code behind their last hyphen. -/
def divide (cs : List Char) : List Char × List Char :=
  let back := cs.reverse
  let code := (back.takeWhile (· != '-')).reverse
  ((back.drop (code.length + 1)).reverse, code)

/-- The text that a code in ASCII stands for, as far as it makes sense. -/
def decode (cs : List Char) : List Char :=
  insertSome 72 0x80 0 true (divide cs).1 (divide cs).2

/-- The text that a code in ASCII stands for. -/
def decode? (cs : List Char) : Option (List Char) :=
  insertAll? 72 0x80 0 true (divide cs).1 (divide cs).2

end Stowage.Hostname.Punycode
