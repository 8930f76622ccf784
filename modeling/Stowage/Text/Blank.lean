/-!
Blank characters and the trimming of text.

Two classes are in use. `isBlank` is what separates words anywhere in a configuration: the
space characters of Unicode, the line breaks and the four information separators. `isWhite` is
the narrower class of Unicode white space, which leaves the information separators out; numbers
inside wire models are trimmed by it.
-/

namespace Stowage.Text

/-- White space as Unicode's property of that name has it. -/
def isWhite (c : Char) : Bool :=
  let n := c.toNat
  (9 ≤ n && n ≤ 13) || n == 0x20 || n == 0x85 || n == 0xa0 || n == 0x1680 ||
    (0x2000 ≤ n && n ≤ 0x200a) || n == 0x2028 || n == 0x2029 || n == 0x202f || n == 0x205f ||
    n == 0x3000

/-- White space or one of the information separators `\x1c` to `\x1f`. -/
def isBlank (c : Char) : Bool :=
  isWhite c || (0x1c ≤ c.toNat && c.toNat ≤ 0x1f)

/-- Drop from both ends the characters that satisfy `p`. -/
def trimChars (p : Char → Bool) (cs : List Char) : List Char :=
  ((cs.dropWhile p).reverse.dropWhile p).reverse

/-- Drop from the end the characters that satisfy `p`. -/
def trimCharsEnd (p : Char → Bool) (cs : List Char) : List Char :=
  (cs.reverse.dropWhile p).reverse

/-- Text without the blanks at its ends. -/
def trim (s : String) : String :=
  String.ofList (trimChars isBlank s.toList)

end Stowage.Text
