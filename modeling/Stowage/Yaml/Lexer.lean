import Stowage.Yaml.ScalarText
import Stowage.Yaml.Token

/-!
From a YAML text to its tokens.

The lexer keeps the columns of the open block structures, and for every level of brackets the place
where a key without a question mark may have begun. When a colon proves that it was one, the tokens
that introduce the key are put in at that place. Such a key stands on one line and has at most 1024
characters.
-/

namespace Stowage.Yaml

/-- Where a key may have begun: the level of brackets, the number of tokens before it, and its
place in the text. A required one must turn out to be a key. -/
structure KeyPlace where
  level : Nat
  tokens : Nat
  index : Nat
  line : Nat
  column : Nat
  required : Bool

/-- The state between two tokens. `indents` holds the columns of the block structures around the
current one, whose column is `indent`; outside all structures that is -1. -/
structure Lexer where
  cursor : Cursor
  tokens : Array Token
  level : Nat
  indent : Int
  indents : List Int
  keyAllowed : Bool
  keys : List KeyPlace

namespace Lexer

def start (text : List Char) : Lexer := ⟨Cursor.start text, #[], 0, -1, [], true, []⟩

/-- Not inside brackets. -/
def inBlock (lex : Lexer) : Bool := lex.level == 0

def push (lex : Lexer) (token : Token) : Lexer := { lex with tokens := lex.tokens.push token }

/-! ## Indentation -/

/-- Close the block structures that are indented further than a column. -/
def closeBlocks (column : Int) : List Int → Lexer → Lexer
  | [], lex => lex
  | outer :: more, lex =>
    if lex.indent > column then
      closeBlocks column more { lex.push .blockEnd with indent := outer, indents := more }
    else lex

/-- Close the block structures that end before a column. Inside brackets indentation does not
count. -/
def unwind (lex : Lexer) (column : Int) : Lexer :=
  if lex.inBlock then closeBlocks column lex.indents lex else lex

/-- Whether a structure at a column begins here, and the state inside it. -/
def indentTo (lex : Lexer) (column : Nat) : Bool × Lexer :=
  if lex.indent < column then
    (true, { lex with indents := lex.indent :: lex.indents, indent := column })
  else (false, lex)

/-! ## Keys -/

/-- Whether a key place is too far away. -/
def isStale (lex : Lexer) (k : KeyPlace) : Bool :=
  k.line != lex.cursor.line || lex.cursor.index - k.index > 1024

/-- Drop the key places that are too far away; a required one among them is an error. -/
def dropStaleKeys? (lex : Lexer) : Option Lexer :=
  if lex.keys.any fun k => lex.isStale k && k.required then none
  else some { lex with keys := lex.keys.filter fun k => !lex.isStale k }

/-- Drop the key place of the current level; a required one is an error. -/
def dropKey? (lex : Lexer) : Option Lexer :=
  if lex.keys.any fun k => k.level == lex.level && k.required then none
  else some { lex with keys := lex.keys.filter fun k => k.level != lex.level }

/-- Note that a key may begin here. -/
def noteKey? (lex : Lexer) : Option Lexer :=
  if lex.keyAllowed then do
    let required := lex.inBlock && lex.indent == (lex.cursor.column : Int)
    let cleared ← lex.dropKey?
    let place : KeyPlace := ⟨lex.level, lex.tokens.size, lex.cursor.index, lex.cursor.line,
      lex.cursor.column, required⟩
    some { cleared with keys := place :: cleared.keys }
  else some lex

/-! ## Tokens -/

/-- The cursor at the next token: past spaces, comments and line breaks. A line break outside
brackets makes room for a key. -/
def skipToToken : Nat → Lexer → Lexer
  | 0, lex => lex
  | fuel + 1, lex =>
    let cur := lex.cursor.skipSpaces.skipComment
    match cur.lineBreak with
    | ([], cur) => { lex with cursor := cur }
    | (_, cur) =>
      skipToToken fuel { lex with cursor := cur, keyAllowed := lex.keyAllowed || lex.inBlock }

/-- A token of one character. -/
def mark (lex : Lexer) (token : Token) : Lexer :=
  { lex.push token with cursor := lex.cursor.next }

/-- A mark between documents. -/
def documentMark? (lex : Lexer) (token : Token) : Option Lexer := do
  let lex ← (lex.unwind (-1)).dropKey?
  some { lex.push token with keyAllowed := false, cursor := lex.cursor.skip 3 }

/-- An opening bracket. -/
def openFlow? (lex : Lexer) (token : Token) : Option Lexer := do
  let lex ← lex.noteKey?
  some { lex.mark token with level := lex.level + 1, keyAllowed := true }

/-- A closing bracket. -/
def closeFlow? (lex : Lexer) (token : Token) : Option Lexer := do
  let lex ← lex.dropKey?
  if lex.level = 0 then none
  else some { lex.mark token with level := lex.level - 1, keyAllowed := false }

/-- A comma between brackets. -/
def flowEntry? (lex : Lexer) : Option Lexer := do
  let lex ← lex.dropKey?
  if lex.inBlock then none else some { lex.mark .flowEntry with keyAllowed := true }

/-- A hyphen that introduces an item. Inside brackets it is a token though none fits there. -/
def blockEntry? (lex : Lexer) : Option Lexer := do
  let lex ←
    if lex.inBlock then
      if lex.keyAllowed then
        let (begins, lex) := lex.indentTo lex.cursor.column
        some (if begins then lex.push .blockSequence else lex)
      else none
    else some lex
  let lex ← lex.dropKey?
  some { lex.mark .blockEntry with keyAllowed := true }

/-- A question mark that introduces a key. -/
def key? (lex : Lexer) : Option Lexer := do
  let lex ←
    if lex.inBlock then
      if lex.keyAllowed then
        let (begins, lex) := lex.indentTo lex.cursor.column
        some (if begins then lex.push .blockMapping else lex)
      else none
    else some lex
  let lex ← lex.dropKey?
  some { lex.mark .key with keyAllowed := lex.inBlock }

/-- The tokens with some of them put in at a place. -/
def insertAt (tokens : Array Token) (place : Nat) (new : List Token) : Array Token :=
  (tokens.toList.take place ++ new ++ tokens.toList.drop place).toArray

/-- A colon that introduces a value. -/
def value? (lex : Lexer) : Option Lexer :=
  match lex.keys.find? fun k => k.level == lex.level with
  | some place =>
    let lex := { lex with keys := lex.keys.filter fun k => k.level != lex.level }
    let (begins, lex) := if lex.inBlock then lex.indentTo place.column else (false, lex)
    let new := if begins then [.blockMapping, .key] else [.key]
    let lex := { lex with tokens := insertAt lex.tokens place.tokens new, keyAllowed := false }
    some (lex.mark .value)
  | none => do
    let lex ←
      if lex.inBlock then
        if lex.keyAllowed then
          let (begins, lex) := lex.indentTo lex.cursor.column
          some (if begins then lex.push .blockMapping else lex)
        else none
      else some lex
    let lex ← lex.dropKey?
    some { lex.mark .value with keyAllowed := lex.inBlock }

/-- The name of an anchor or an alias. -/
def anchorName? (lex : Lexer) : Option (String × Lexer) :=
  let (name, cur) := lex.cursor.next.run isWordChar
  if name.isEmpty then none
  else if cur.endsOr fun c => isSeparator c || "?:,]\x7d%@\x60".contains c then
    some (String.ofList name, { lex with cursor := cur })
  else none

/-- The byte that two hexadecimal digits after a percent sign stand for. -/
def percentByte? : List Char → Option Nat
  | [a, b] => do some (16 * (← Text.hexDigit? a) + (← Text.hexDigit? b))
  | _ => none

/-- The characters of a tag. Escaped bytes are those of ASCII characters. -/
def tagChars? : Nat → Cursor → Option (List Char × Cursor)
  | 0, _ => none
  | fuel + 1, cur =>
    match cur.peek? with
    | some '%' => do
      let byte ← percentByte? (cur.next.rest.take 2)
      if byte < 128 then
        let (cs, after) ← tagChars? fuel (cur.skip 3)
        some (Char.ofNat byte :: cs, after)
      else none
    | some c =>
      if c.isAlphanum || "-;/?:@&=+$,_.!~*'()[]".contains c then do
        let (cs, after) ← tagChars? fuel cur.next
        some (c :: cs, after)
      else some ([], cur)
    | none => some ([], cur)

/-- The characters of a tag, at least one. -/
def tagText? (cur : Cursor) : Option (String × Cursor) := do
  let (cs, after) ← tagChars? (cur.rest.length + 1) cur
  if after.index = cur.index then none else some (String.ofList cs, after)

/-- The handle of a tag: an exclamation mark, or a word between two. -/
def tagHandle? (cur : Cursor) : Option (String × Cursor) :=
  if cur.sees '!' then
    if cur.endsOr (· == ' ') 1 then some ("!", cur.next)
    else
      let (word, after) := cur.next.run isWordChar
      if after.sees '!' then some ("!" ++ String.ofList word ++ "!", after.next) else none
  else none

/-- The tag at the cursor. -/
def tagName? (cur : Cursor) : Option (TagName × Cursor) := do
  let (name, after) ←
    if cur.sees '<' 1 then do
      let (suffix, after) ← tagText? (cur.skip 2)
      if after.sees '>' then some (TagName.mk none suffix, after.next) else none
    else if cur.endsOr isSeparator 1 then some (TagName.mk none "!", cur.next)
    else do
      let ahead := cur.next.rest.takeWhile fun c => !isSpaceOrBreak c
      let (handle, after) ← if ahead.contains '!' then tagHandle? cur else some ("!", cur.next)
      let (suffix, after) ← tagText? after
      some (TagName.mk (some handle) suffix, after)
  if after.endsOr isSpaceOrBreak then some (name, after) else none

/-- A token that may turn out to be a key. -/
def content? (lex : Lexer) (scan : Lexer → Option (Token × Cursor)) : Option Lexer := do
  let lex ← lex.noteKey?
  let lex := { lex with keyAllowed := false }
  let (token, cur) ← scan lex
  some { lex.push token with cursor := cur }

/-- A plain scalar. A line break after it makes room for a key. -/
def plain? (lex : Lexer) : Option Lexer := do
  let lex ← lex.noteKey?
  let found := scanPlain (!lex.inBlock) (lex.indent + 1).toNat (lex.cursor.rest.length + 1) []
    ⟨[], false, lex.cursor⟩
  some { lex.push (.scalar (String.ofList found.text) true) with
    cursor := found.cursor, keyAllowed := found.broken }

/-- A scalar in quotes. -/
def quoted? (double : Bool) (lex : Lexer) : Option (Token × Cursor) := do
  let (codes, cur) ← scanQuoted double (lex.cursor.rest.length + 1) lex.cursor.next
  match codes.find? (maxCode < ·) with
  | some code => some (.badCode code, cur)
  | none => some (.scalar (String.ofList (ofCodes codes)) false, cur)

/-- A scalar in a block. -/
def block? (folded : Bool) (lex : Lexer) : Option Lexer := do
  let lex ← lex.dropKey?
  let (cs, cur) ← scanBlock? folded lex.indent lex.cursor.next
  some { lex.push (.scalar (String.ofList cs) false) with cursor := cur, keyAllowed := true }

/-! ## Directives -/

/-- A version number part. -/
def versionPart? (cur : Cursor) : Option (Nat × Cursor) :=
  let (ds, after) := cur.run Char.isDigit
  if ds.isEmpty then none else some (ds.foldl (fun n c => 10 * n + (c.toNat - 48)) 0, after)

/-- The rest of a directive after its name. -/
def directiveValue? (name : String) (cur : Cursor) : Option (Directive × Cursor) :=
  if name = "YAML" then do
    let (major, cur) ← versionPart? cur.skipSpaces
    if cur.sees '.' then
      let (minor, cur) ← versionPart? cur.next
      if cur.endsOr isSpaceOrBreak then some (.version major minor, cur) else none
    else none
  else if name = "TAG" then do
    let (handle, cur) ← tagHandle? cur.skipSpaces
    if cur.sees ' ' then
      let (tagStart, cur) ← tagText? cur.skipSpaces
      if cur.endsOr isSpaceOrBreak then some (.tag handle tagStart, cur) else none
    else none
  else some (.other, cur.skipRun (!isBreak ·))

/-- A directive. -/
def directive? (lex : Lexer) : Option Lexer := do
  let lex ← (lex.unwind (-1)).dropKey?
  let (name, cur) := lex.cursor.next.run isWordChar
  if name.isEmpty || !cur.endsOr isSpaceOrBreak then none
  else
    let (directive, cur) ← directiveValue? (String.ofList name) cur
    let cur ← cur.finishLine?
    some { lex.push (.directive directive) with cursor := cur, keyAllowed := false }

/-! ## The whole text -/

/-- A plain scalar may begin with this character. -/
def startsPlain (lex : Lexer) (c : Char) : Bool :=
  !(isSeparator c || "-?:,[]\x7b\x7d#&*!|>'\"%@\x60".contains c) ||
    (!lex.cursor.endsOr isSeparator 1 && (c == '-' || (lex.inBlock && (c == '?' || c == ':'))))

/-- The token at the cursor, which stands at the character `c`. -/
def token? (lex : Lexer) (c : Char) : Option Lexer :=
  let cur := lex.cursor
  let separates (n : Nat) : Bool := cur.endsOr isSeparator n
  if c = '%' ∧ cur.column = 0 then lex.directive?
  else if cur.column = 0 ∧ cur.seesMarker '-' then lex.documentMark? .documentStart
  else if cur.column = 0 ∧ cur.seesMarker '.' then lex.documentMark? .documentEnd
  else if c = '[' then lex.openFlow? .flowSequence
  else if c = '{' then lex.openFlow? .flowMapping
  else if c = ']' then lex.closeFlow? .flowSequenceEnd
  else if c = '}' then lex.closeFlow? .flowMappingEnd
  else if c = ',' then lex.flowEntry?
  else if c = '-' ∧ separates 1 then lex.blockEntry?
  else if c = '?' ∧ (!lex.inBlock || separates 1) then lex.key?
  else if c = ':' ∧ (!lex.inBlock || separates 1) then lex.value?
  else if c = '*' then
    lex.content? fun lex => lex.anchorName?.map fun (name, lex) => (.alias name, lex.cursor)
  else if c = '&' then
    lex.content? fun lex => lex.anchorName?.map fun (name, lex) => (.anchor name, lex.cursor)
  else if c = '!' then
    lex.content? fun lex => (tagName? lex.cursor).map fun (name, cur) => (.tag name, cur)
  else if c = '|' ∧ lex.inBlock then lex.block? false
  else if c = '>' ∧ lex.inBlock then lex.block? true
  else if c = '\'' then lex.content? (quoted? false)
  else if c = '"' then lex.content? (quoted? true)
  else if lex.startsPlain c then lex.plain?
  else none

/-- The code in the last token that stands for no character. -/
def badCode? (lex : Lexer) : Option Nat :=
  match lex.tokens.back? with
  | some (.badCode code) => some code
  | _ => none

/-- The number of tokens that are known for sure before more of the text is looked at: those before
the first place where a key may still have begun. -/
def settled (lex : Lexer) : Nat :=
  (lex.keys.filter fun k => !lex.isStale k).foldl (fun n k => min n k.tokens) lex.tokens.size

/-- All tokens from the cursor on. A code that stands for no character hides what is not known for
sure before it. -/
def run? : Nat → Lexer → Option Lexer
  | 0, _ => none
  | fuel + 1, lex => do
    let known := lex.settled
    let lex ← (skipToToken (lex.cursor.rest.length + 1) lex).dropStaleKeys?
    let lex := lex.unwind lex.cursor.column
    match lex.cursor.peek? with
    | none => (lex.unwind (-1)).dropKey?
    | some c => do
      let lex ← lex.token? c
      match lex.badCode? with
      | some code => some { lex with tokens := (lex.tokens.take known).push (.badCode code) }
      | none => run? fuel lex

end Lexer

/-- A character that a YAML text may hold. -/
def isAllowed (c : Char) : Bool :=
  let n := c.toNat
  n == 9 || n == 10 || n == 13 || (0x20 ≤ n && n ≤ 0x7e) || n == 0x85 ||
    (0xa0 ≤ n && n ≤ 0xd7ff) || (0xe000 ≤ n && n ≤ 0xfffd) || 0x10000 ≤ n

/-- A text with each carriage return, and the line feed after it, as one line feed. -/
def unifyBreaks : List Char → List Char
  | [] => []
  | '\r' :: '\n' :: r => '\n' :: unifyBreaks r
  | '\r' :: r => '\n' :: unifyBreaks r
  | c :: r => c :: unifyBreaks r

/-- A text without the byte order mark before it. -/
def dropMark : List Char → List Char
  | '\ufeff' :: r => r
  | cs => cs

/-- The tokens of a text, or nothing when it cannot be cut into tokens. -/
def Token.ofText? (s : String) : Option (List Token) :=
  let cs := unifyBreaks s.toList
  if cs.all isAllowed then
    (Lexer.run? (2 * cs.length + 2) (Lexer.start (dropMark cs))).map (·.tokens.toList)
  else none

end Stowage.Yaml
