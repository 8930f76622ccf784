/-!
A place in a YAML text: what is still to be read, and where that stands.

Line breaks are line feeds and the three breaks of Unicode; a carriage return counts as well, but
texts are normalised before they are read. Every scanner takes a cursor and returns the cursor
after what it has read.
-/

namespace Stowage.Yaml

/-- A character that ends a line. -/
def isBreak (c : Char) : Bool :=
  c == '\n' || c == '\r' || c == '\x85' || c == '\u2028' || c == '\u2029'

/-- A space, a tab or the end of a line. -/
def isSeparator (c : Char) : Bool := c == ' ' || c == '\t' || isBreak c

/-- A space or the end of a line. -/
def isSpaceOrBreak (c : Char) : Bool := c == ' ' || isBreak c

/-- A letter, a digit, a hyphen or an underscore, all of ASCII. -/
def isWordChar (c : Char) : Bool := c.isAlphanum || c == '-' || c == '_'

/-- The rest of a text and its place: characters passed, lines passed, characters passed in the
line. -/
structure Cursor where
  rest : List Char
  index : Nat
  line : Nat
  column : Nat

namespace Cursor

def start (text : List Char) : Cursor := ⟨text, 0, 0, 0⟩

/-- The character `n` places ahead. -/
def peek? (cur : Cursor) (n : Nat := 0) : Option Char := cur.rest[n]?

/-- The text is at its end. -/
def atEnd (cur : Cursor) : Bool := cur.rest.isEmpty

/-- The character `n` places ahead is a given one. -/
def sees (cur : Cursor) (c : Char) (n : Nat := 0) : Bool := cur.peek? n == some c

/-- The character `n` places ahead satisfies `p`; the end of the text counts as satisfying it. -/
def endsOr (cur : Cursor) (p : Char → Bool) (n : Nat := 0) : Bool :=
  match cur.peek? n with
  | none => true
  | some c => p c

/-- The cursor after one character. A byte order mark takes no column. -/
def next (cur : Cursor) : Cursor :=
  match cur.rest with
  | [] => cur
  | c :: r =>
    if isBreak c then ⟨r, cur.index + 1, cur.line + 1, 0⟩
    else if c = '\ufeff' then ⟨r, cur.index + 1, cur.line, cur.column⟩
    else ⟨r, cur.index + 1, cur.line, cur.column + 1⟩

/-- The cursor after `n` characters. -/
def skip (cur : Cursor) : Nat → Cursor
  | 0 => cur
  | n + 1 => cur.next.skip n

/-- The longest run of characters that satisfy `p`, and the cursor after it. -/
def run (cur : Cursor) (p : Char → Bool) : List Char × Cursor :=
  let cs := cur.rest.takeWhile p
  (cs, cur.skip cs.length)

/-- The cursor after all characters that satisfy `p`. -/
def skipRun (cur : Cursor) (p : Char → Bool) : Cursor := (cur.run p).2

/-- The cursor after the spaces. -/
def skipSpaces (cur : Cursor) : Cursor := cur.skipRun (· == ' ')

/-- A line break at the cursor, in the form in which it enters a scalar, and the cursor after it.
There may be none. -/
def lineBreak (cur : Cursor) : List Char × Cursor :=
  match cur.rest with
  | '\r' :: '\n' :: _ => (['\n'], cur.skip 2)
  | c :: _ =>
    if c = '\u2028' ∨ c = '\u2029' then ([c], cur.next)
    else if isBreak c then (['\n'], cur.next)
    else ([], cur)
  | [] => ([], cur)

/-- A line of three equal marks, as between documents, begins here. -/
def seesMarker (cur : Cursor) (c : Char) : Bool :=
  cur.sees c && cur.sees c 1 && cur.sees c 2 && cur.endsOr isSeparator 3

/-- A mark between documents begins here. -/
def seesDocumentMarker (cur : Cursor) : Bool := cur.seesMarker '-' || cur.seesMarker '.'

/-- The cursor after a comment, if there is one here. -/
def skipComment (cur : Cursor) : Cursor :=
  if cur.sees '#' then cur.skipRun (!isBreak ·) else cur

/-- The cursor after the rest of a line that may hold a comment and nothing else. -/
def finishLine? (cur : Cursor) : Option Cursor :=
  let cur := cur.skipSpaces.skipComment
  if cur.endsOr isBreak then some cur.lineBreak.2 else none

end Cursor

end Stowage.Yaml
