import Stowage.Text.Quoted
import Stowage.Yaml.Cursor

/-!
The text of scalars: plain, in quotes, and in blocks.

A scalar may run over several lines. A single line break between two lines is then read as a
space, and of several the first is dropped.
-/

namespace Stowage.Yaml

/-- What a line break and the empty lines after it become inside a scalar. -/
def fold (first : List Char) (more : List Char) : List Char :=
  if first ≠ ['\n'] then first ++ more
  else if more.isEmpty then [' '] else more

/-! ## Plain scalars -/

/-- Whether a plain scalar ends before the character at the cursor. -/
def endsPlain (inFlow : Bool) (cur : Cursor) : Bool :=
  match cur.peek? with
  | none => true
  | some c =>
    isSeparator c ||
      (c == ':' && cur.endsOr (fun d => isSeparator d || (inFlow && ",[]\x7b\x7d".contains d)) 1) ||
      (inFlow && ",?[]\x7b\x7d".contains c)

/-- The characters of a plain scalar up to the next blank or its end. -/
def plainRun (inFlow : Bool) : Nat → Cursor → List Char × Cursor
  | 0, cur => ([], cur)
  | fuel + 1, cur =>
    if endsPlain inFlow cur then ([], cur)
    else match cur.rest with
      | [] => ([], cur)
      | c :: _ => let (cs, after) := plainRun inFlow fuel cur.next; (c :: cs, after)

/-- Empty lines and leading spaces between two lines of a plain scalar: the breaks and the cursor
after them, or nothing at a mark between documents. -/
def plainBreaks? : Nat → Cursor → Option (List Char × Cursor)
  | 0, cur => some ([], cur)
  | fuel + 1, cur =>
    match cur.peek? with
    | some ' ' => plainBreaks? fuel cur.next
    | some c =>
      if isBreak c then
        let (b, cur) := cur.lineBreak
        if cur.seesDocumentMarker then none
        else (plainBreaks? fuel cur).map fun (bs, cur) => (b ++ bs, cur)
      else some ([], cur)
    | none => some ([], cur)

/-- Blanks after a part of a plain scalar. -/
structure PlainGap where
  /-- What the blanks become if the scalar goes on; empty when it cannot. -/
  text : List Char
  /-- The blanks hold a line break. -/
  broken : Bool
  cursor : Cursor

/-- The blanks after a part of a plain scalar. -/
def plainGap (cur : Cursor) : PlainGap :=
  let (spaces, cur) := cur.run (· == ' ')
  match cur.peek? with
  | some c =>
    if isBreak c then
      let (first, cur) := cur.lineBreak
      if cur.seesDocumentMarker then ⟨[], true, cur⟩
      else match plainBreaks? (cur.rest.length + 1) cur with
        | some (more, after) => ⟨fold first more, true, after⟩
        | none => ⟨[], true, cur.skipRun isSpaceOrBreak⟩
    else ⟨spaces, false, cur⟩
  | none => ⟨spaces, false, cur⟩

/-- A plain scalar as far as it has been read. -/
structure PlainScalar where
  text : List Char
  /-- The blanks after its last part hold a line break. -/
  broken : Bool
  cursor : Cursor

/-- A plain scalar whose lines after the first are indented by at least `indent`. -/
def scanPlain (inFlow : Bool) (indent : Nat) : Nat → List Char → PlainScalar → PlainScalar
  | 0, _, found => found
  | fuel + 1, gap, found =>
    if found.cursor.sees '#' then found
    else
      let (cs, cur) := plainRun inFlow (found.cursor.rest.length + 1) found.cursor
      if cs.isEmpty then found
      else
        let blanks := plainGap cur
        let found := ⟨found.text ++ gap ++ cs, blanks.broken, blanks.cursor⟩
        if blanks.text.isEmpty || blanks.cursor.sees '#' ||
            (!inFlow && blanks.cursor.column < indent) then found
        else scanPlain inFlow indent fuel blanks.text found

/-! ## Scalars in quotes -/

/-- The character that a letter after a backslash stands for. -/
def escapedChar? : Char → Option Char
  | '0' => some '\x00'
  | 'a' => some '\x07'
  | 'b' => some '\x08'
  | 't' => some '\t'
  | '\t' => some '\t'
  | 'n' => some '\n'
  | 'v' => some '\x0b'
  | 'f' => some '\x0c'
  | 'r' => some '\r'
  | 'e' => some '\x1b'
  | ' ' => some ' '
  | '"' => some '"'
  | '\\' => some '\\'
  | '/' => some '/'
  | 'N' => some '\x85'
  | '_' => some '\xa0'
  | 'L' => some '\u2028'
  | 'P' => some '\u2029'
  | _ => none

/-- The number of hexadecimal digits after a letter that introduces a code. -/
def codeWidth? : Char → Option Nat
  | 'x' => some 2
  | 'u' => some 4
  | 'U' => some 8
  | _ => none

/-- The number that hexadecimal digits denote. -/
def hexValue? (cs : List Char) : Option Nat :=
  cs.foldl (fun n c => do some (16 * (← n) + (← Text.hexDigit? c))) (some 0)

/-- The greatest code that stands for a character. -/
def maxCode : Nat := 0x10ffff

/-- The characters of codes. Two halves of a surrogate pair make up one character; a half on its own
stands for the replacement character. -/
def ofCodes : List Nat → List Char
  | [] => []
  | [n] => [if 0xd800 ≤ n ∧ n < 0xe000 then '\ufffd' else Char.ofNat n]
  | n :: m :: r =>
    if 0xd800 ≤ n ∧ n < 0xdc00 ∧ 0xdc00 ≤ m ∧ m < 0xe000 then
      Char.ofNat (0x10000 + (n - 0xd800) * 0x400 + (m - 0xdc00)) :: ofCodes r
    else (if 0xd800 ≤ n ∧ n < 0xe000 then '\ufffd' else Char.ofNat n) :: ofCodes (m :: r)

/-- Empty lines and leading blanks inside quotes. -/
def quotedBreaks? : Nat → Cursor → Option (List Char × Cursor)
  | 0, _ => none
  | fuel + 1, cur =>
    if cur.seesDocumentMarker then none
    else
      let cur := cur.skipRun fun c => c == ' ' || c == '\t'
      match cur.lineBreak with
      | ([], cur) => some ([], cur)
      | (b, cur) => (quotedBreaks? fuel cur).map fun (bs, cur) => (b ++ bs, cur)

/-- The codes of the rest of a scalar after its opening quote. Single quotes know no escape but the
doubled quote. A code that stands for no character is the last. -/
def scanQuoted (double : Bool) : Nat → Cursor → Option (List Nat × Cursor)
  | 0, _ => none
  | fuel + 1, cur =>
    let quote := if double then '"' else '\''
    match cur.peek? with
    | none => none
    | some c =>
      if c = quote then
        if !double && cur.sees '\'' 1 then do
          let (cs, after) ← scanQuoted double fuel (cur.skip 2)
          some ('\''.toNat :: cs, after)
        else some ([], cur.next)
      else if c = ' ' ∨ c = '\t' then do
        let (blanks, cur) := cur.run fun c => c == ' ' || c == '\t'
        match cur.lineBreak with
        | ([], cur) =>
          let (cs, after) ← scanQuoted double fuel cur
          some (blanks.map Char.toNat ++ cs, after)
        | (first, cur) =>
          let (more, cur) ← quotedBreaks? (cur.rest.length + 1) cur
          let (cs, after) ← scanQuoted double fuel cur
          some ((fold first more).map Char.toNat ++ cs, after)
      else if isBreak c then do
        let (first, cur) := cur.lineBreak
        let (more, cur) ← quotedBreaks? (cur.rest.length + 1) cur
        let (cs, after) ← scanQuoted double fuel cur
        some ((fold first more).map Char.toNat ++ cs, after)
      else if double && c == '\\' then do
        let cur := cur.next
        let e ← cur.peek?
        if isBreak e then
          let (more, cur) ← quotedBreaks? (cur.rest.length + 1) cur.lineBreak.2
          let (cs, after) ← scanQuoted double fuel cur
          some (more.map Char.toNat ++ cs, after)
        else match escapedChar? e, codeWidth? e with
          | some d, _ =>
            let (cs, after) ← scanQuoted double fuel cur.next
            some (d.toNat :: cs, after)
          | none, some width =>
            let digits := cur.next.rest.take width
            if digits.length < width then none
            else
              let n ← hexValue? digits
              let cur := cur.next.skip width
              if maxCode < n then some ([n], cur)
              else
                let (cs, after) ← scanQuoted double fuel cur
                some (n :: cs, after)
          | none, none => none
      else do
        let (cs, after) ← scanQuoted double fuel cur.next
        some (c.toNat :: cs, after)

/-! ## Scalars in blocks -/

/-- What happens to the line breaks at the end of a block. -/
inductive Chomping where
  | strip | clip | keep
  deriving DecidableEq

/-- The signs after the sign that opens a block: how to end it and how far it is indented. -/
structure BlockHeader where
  chomping : Chomping
  indent : Option Nat
  cursor : Cursor

/-- The sign that tells how a block ends, if there is one. -/
def chompingSign? : Option Char → Option Chomping
  | some '+' => some .keep
  | some '-' => some .strip
  | _ => none

/-- The digit that tells how far a block is indented, if there is one. Zero is refused. -/
def indentSign (cur : Cursor) : Option (Option Nat × Cursor) :=
  match cur.peek? with
  | some c =>
    if c = '0' then none
    else if c.isDigit then some (some (c.toNat - 48), cur.next)
    else some (none, cur)
  | none => some (none, cur)

/-- The signs after the sign that opens a block, in either order, and the rest of the line. -/
def blockHeader? (cur : Cursor) : Option BlockHeader := do
  let (chomping, indent, cur) ← match chompingSign? cur.peek? with
    | some chomping => do
      let (indent, cur) ← indentSign cur.next
      some (chomping, indent, cur)
    | none => do
      let (indent, cur) ← indentSign cur
      match indent, chompingSign? cur.peek? with
      | some _, some chomping => some (chomping, indent, cur.next)
      | _, _ => some (.clip, indent, cur)
  if cur.endsOr isSpaceOrBreak then
    some ⟨chomping, indent, ← cur.finishLine?⟩
  else none

/-- Empty lines before the first line of a block whose indentation shows only there: the breaks,
the greatest column reached and the cursor after them. -/
def leadingLines : Nat → Nat → Cursor → List Char × Nat × Cursor
  | 0, deepest, cur => ([], deepest, cur)
  | fuel + 1, deepest, cur =>
    match cur.peek? with
    | some ' ' => let cur := cur.next; leadingLines fuel (max deepest cur.column) cur
    | some c =>
      if isBreak c then
        let (b, cur) := cur.lineBreak
        let (bs, deepest, cur) := leadingLines fuel deepest cur
        (b ++ bs, deepest, cur)
      else ([], deepest, cur)
    | none => ([], deepest, cur)

/-- The cursor after at most as many spaces as lead to the column `indent`. -/
def skipIndent (indent : Nat) (cur : Cursor) : Cursor :=
  cur.skip (min (indent - cur.column) (cur.rest.takeWhile (· == ' ')).length)

/-- Empty lines inside a block, and the indentation of the line after them. -/
def blockBreaks (indent : Nat) : Nat → Cursor → List Char × Cursor
  | 0, cur => ([], cur)
  | fuel + 1, cur =>
    let cur := skipIndent indent cur
    match cur.lineBreak with
    | ([], cur) => ([], cur)
    | (b, cur) => let (bs, cur) := blockBreaks indent fuel cur; (b ++ bs, cur)

/-- What stands between a line of a block and the next. -/
def blockJoint (folded leadsWithText : Bool) (lineBreak : List Char) (cur : Cursor)
    (breaks : List Char) : List Char :=
  let nextLeadsWithText := !(cur.sees ' ' || cur.sees '\t')
  if folded && lineBreak == ['\n'] && leadsWithText && nextLeadsWithText then
    if breaks.isEmpty then [' '] else breaks
  else lineBreak ++ breaks

/-- The lines of a block, from the first character of one of them on. -/
def blockLines (folded : Bool) (chomping : Chomping) (indent : Nat) :
    Nat → Cursor → List Char × Cursor
  | 0, cur => ([], cur)
  | fuel + 1, cur =>
    let leadsWithText := !(cur.sees ' ' || cur.sees '\t')
    let (text, cur) := cur.run (!isBreak ·)
    let (lineBreak, cur) := cur.lineBreak
    let (breaks, cur) := blockBreaks indent (cur.rest.length + 1) cur
    if cur.column = indent ∧ !cur.atEnd then
      let joint := blockJoint folded leadsWithText lineBreak cur breaks
      let (rest, after) := blockLines folded chomping indent fuel cur
      (text ++ joint ++ rest, after)
    else match chomping with
      | .strip => (text, cur)
      | .clip => (text ++ lineBreak, cur)
      | .keep => (text ++ lineBreak ++ breaks, cur)

/-- A block scalar after the sign that opens it, inside a structure indented by `outer`. -/
def scanBlock? (folded : Bool) (outer : Int) (cur : Cursor) : Option (List Char × Cursor) := do
  let header ← blockHeader? cur
  let cur := header.cursor
  let least := (max 1 (outer + 1)).toNat
  let (breaks, indent, cur) := match header.indent with
    | some n =>
      let indent := least + n - 1
      let (breaks, cur) := blockBreaks indent (cur.rest.length + 1) cur
      (breaks, indent, cur)
    | none =>
      let (breaks, deepest, cur) := leadingLines (cur.rest.length + 1) 0 cur
      (breaks, max least deepest, cur)
  if cur.column = indent ∧ !cur.atEnd then
    let (text, cur) := blockLines folded header.chomping indent (cur.rest.length + 1) cur
    some (breaks ++ text, cur)
  else match header.chomping with
    | .keep => some (breaks, cur)
    | _ => some ([], cur)

end Stowage.Yaml
