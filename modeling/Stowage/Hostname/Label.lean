import Stowage.Hostname.Letters
import Stowage.Hostname.Punycode
import Stowage.Text.Composition
import Stowage.Text.Split

/-!
Labels of host names, in any script and in ASCII.

A label in another script is held to rules that keep names apart: its text is composed, signs that
could hide stand only where the script asks for them, and characters of both directions are not
mixed. In ASCII it is `xn--` and its Punycode. A name is written in ASCII label by label.
-/

namespace Stowage.Hostname

/-! ## Signs that are bound to their place -/

/-- Whether a letter that joins the next one stands before a place, `before` being the characters
there, nearest first, and one that joins the previous one after it. -/
def parts (before after : List Char) : Bool :=
  (before.dropWhile isLookedPast).head?.any joinsNext &&
    (after.dropWhile isLookedPast).head?.any joinsPrevious

/-- Whether a mark that silences a vowel stands before a place. -/
def followsVirama (before : List Char) : Bool :=
  before.head?.any fun c => Text.combiningClass c == Text.viramaClass

/-- Whether a character may stand between `before`, nearest first, and `after`: the two signs that
part or join letters, the dot between two `l`, signs of Greek, Hebrew and Japanese with letters of
these scripts, and the digits of Arabic with others of their set. -/
def fitsPlace (before : List Char) (c : Char) (after : List Char) : Bool :=
  let label := before ++ after
  let n := c.toNat
  if isLetter c then true
  else if n = 0x200c then followsVirama before || parts before after
  else if n = 0x200d then followsVirama before
  else if n = 0xb7 then before.head? == some 'l' && after.head? == some 'l'
  else if n = 0x375 then after.head?.any (Text.inRanges greekRanges)
  else if n = 0x5f3 ∨ n = 0x5f4 then before.head?.any (Text.inRanges hebrewRanges)
  else if n = 0x30fb then label.any (Text.inRanges kanaRanges)
  else if 0x660 ≤ n ∧ n ≤ 0x669 then
    !(label.any fun d => 0x6f0 ≤ d.toNat && d.toNat ≤ 0x6f9)
  else if 0x6f0 ≤ n ∧ n ≤ 0x6f9 then
    !(label.any fun d => 0x660 ≤ d.toNat && d.toNat ≤ 0x669)
  else false

/-- Whether every character after `before`, nearest first, fits its place. -/
def allFit (before : List Char) : List Char → Bool
  | [] => true
  | c :: r => fitsPlace before c r && allFit (c :: before) r

/-! ## Directions -/

/-- Whether the directions in a label go together. A label without anything that is written from
right to left is free. Any other begins with a letter, holds only what goes with that letter, ends
(marks aside) in a letter of the same direction or a digit, and mixes no digits. -/
def directionsAgree (cs : List Char) : Bool :=
  let all := cs.map direction
  let last := (all.reverse.dropWhile (· == .mark)).head?
  if !(all.contains .rightToLeft || all.contains .arabicDigit) then true
  else match all.head? with
    | some .rightToLeft =>
      !all.contains .leftToRight && !(all.contains .digit && all.contains .arabicDigit) &&
        last.any [Direction.rightToLeft, .digit, .arabicDigit].contains
    | _ => false

/-! ## Labels -/

/-- Whether text is a label. -/
def isLabel (cs : List Char) : Bool :=
  cs != [] && Text.isComposed cs && (cs.drop 2).take 2 != ['-', '-'] &&
    cs.head? != some '-' && cs.getLast? != some '-' && !cs.head?.any Text.isMark &&
    allFit [] cs && directionsAgree cs

/-- What labels in Punycode begin with. -/
def acePrefix : List Char := ['x', 'n', '-', '-']

/-- The label that a label in ASCII stands for. -/
def reading? (cs : List Char) : Option (List Char) :=
  match Text.dropStart? acePrefix cs with
  | none => some cs
  | some code => if code.getLast?.all (· == '-') then none else Punycode.decode? code

/-- The most characters that a label in ASCII may have. -/
def maxLabelLength : Nat := 63

/-- The most characters that a name in ASCII may have, without a dot at its end. -/
def maxLength : Nat := 253

/-- A label in ASCII. -/
def asciiLabel? (cs : List Char) : Option (List Char) := do
  let ascii := cs.all fun c => c.toNat < 0x80
  let label ← if ascii then reading? cs else some cs
  let written := if ascii then cs else acePrefix ++ Punycode.encode cs
  if isLabel label && written.length ≤ maxLabelLength then some written else none

/-! ## Names -/

/-- The dots that separate labels. -/
def isDot (c : Char) : Bool := [0x2e, 0x3002, 0xff0e, 0xff61].contains c.toNat

/-- A name in lower case, in ASCII. A dot at the end is kept. -/
def ascii? (cs : List Char) : Option (List Char) := do
  let labels := Text.splitAt isDot cs
  let trailing := labels.getLast? == some []
  let labels ← (if trailing then labels.dropLast else labels).mapM asciiLabel?
  let name := ['.'].intercalate labels
  if labels.isEmpty || maxLength < name.length then none
  else some (if trailing then name ++ ['.'] else name)

end Stowage.Hostname
