import Stowage.Charset.Basic
import Stowage.Failure.Basic
import Stowage.Http.Percent

/-!
Content types: what the bytes of a body are said to be.

A content type is a kind with parameters after it, all divided by semicolons outside of quotes. The
value of a parameter may be split over numbered parts, and may name the charset and the language
that it is itself written in.
-/

namespace Stowage.Http.ContentType

/-! ## Parameters -/

/-- The pieces between semicolons outside of quotes. A quote after a backslash is none; `last` is
the character before, within the piece. -/
def pieces (quoted : Bool) (last : Option Char) : List Char → List (List Char)
  | [] => [[]]
  | c :: r =>
    if c = ';' ∧ !quoted then [] :: pieces false none r
    else
      let turns := c = '"' && last != some '\\'
      match pieces (quoted != turns) (some c) r with
      | [] => [[c]]
      | piece :: rest => (c :: piece) :: rest

/-- Text without the blanks around it. -/
def trimmed (cs : List Char) : List Char := Text.trimChars Text.isBlank cs

/-- A piece as a name and a value. A name that has a value is in lower case. -/
def parameter (piece : List Char) : List Char × List Char :=
  match Text.cut '=' piece with
  | (name, some value) => ((Text.lower (String.ofList (trimmed name))).toList, trimmed value)
  | (name, none) => (trimmed name, [])

/-- All names and values; the first is the kind, if it is one. -/
def parameters (contentType : String) : List (List Char × List Char) :=
  (pieces false none contentType.toList).map parameter

/-! ## Values -/

/-- Text with each `before` in it, a pair of characters, replaced by one character. -/
def replacePair (before : Char × Char) (after : Char) : List Char → List Char
  | a :: b :: r =>
    if a = before.1 ∧ b = before.2 then after :: replacePair before after r
    else a :: replacePair before after (b :: r)
  | cs => cs

/-- Text without the quotes or the angles around it, backslashes before quotes and backslashes
undone. -/
def unquote (cs : List Char) : List Char :=
  match cs with
  | '"' :: c :: r =>
    if (c :: r).getLast? = some '"' then
      replacePair ('\\', '"') '"' (replacePair ('\\', '\\') '\\' (c :: r).dropLast)
    else cs
  | '<' :: c :: r => if (c :: r).getLast? = some '>' then (c :: r).dropLast else cs
  | _ => cs

/-- Text with backslashes before backslashes and quotes. -/
def quote (cs : List Char) : List Char :=
  cs.flatMap fun c => if c = '\\' ∨ c = '"' then ['\\', c] else [c]

/-- Text put in quotes and taken out of them again. -/
def requoted (cs : List Char) : List Char := unquote ('"' :: cs ++ ['"'])

/-! ## Split values -/

/-- A part of a split value: its number, if it has one, its text, and whether that has percent codes
in it. -/
structure Part where
  number : Option Nat
  text : List Char
  isCoded : Bool
  deriving DecidableEq, Repr

/-- A letter, digit or underscore of ASCII. -/
def isWord (c : Char) : Bool := c.isAlphanum || c == '_'

/-- The name and the number that the name of a part is made of. -/
def partName? (name : List Char) : Option (List Char × Option Nat) :=
  let (word, rest) := name.span isWord
  if word.isEmpty then none
  else match rest with
    | ['*'] => some (word, none)
    | '*' :: r =>
      let r := if r.getLast? = some '*' then r.dropLast else r
      if !r.isEmpty && r.all Char.isDigit then
        some (word, some (Decimal.ofDigits (r.map fun c => c.toNat - 48)))
      else none
    | _ => none

/-- The parts of split values, each with the name of its value. -/
def parts (parameters : List (List Char × List Char)) : List (List Char × Part) :=
  parameters.filterMap fun (name, value) => (partName? name).map fun (word, number) =>
    (word, { number, text := unquote value, isCoded := name.getLast? = some '*' })

/-- Whether a part comes before another of its number: by text, then one without codes first. -/
def Part.textBefore (p q : Part) : Bool :=
  let s := String.ofList p.text
  let t := String.ofList q.text
  s < t || s == t && (!p.isCoded || q.isCoded)

/-- Whether a part comes before another: by number, then by text. -/
def Part.comesBefore (p q : Part) : Bool :=
  match p.number, q.number with
  | some m, some n => m < n || m == n && p.textBefore q
  | _, _ => p.textBefore q

/-- The failure of putting parts in order when only some of them have numbers. -/
def orderFault? : List Part → Option Failure
  | p :: q :: r =>
    match p.number, q.number with
    | none, some _ => some (.badType
        "'<' not supported between instances of 'int' and 'NoneType'")
    | some _, none => some (.badType
        "'<' not supported between instances of 'NoneType' and 'int'")
    | _, _ => orderFault? (q :: r)
  | _ => none

/-- Text out of its parts, and whether any of them has percent codes, which stand for the characters
of their number. -/
def joined (parts : List Part) : List Char × Bool :=
  let sorted := parts.mergeSort Part.comesBefore
  ((sorted.flatMap fun p => if p.isCoded then (Percent.uncoded p.text).map Char.ofNat else p.text),
    parts.any Part.isCoded)

/-- A text in a charset of its own, read in it as far as that is possible. -/
def inCharset (charset text : List Char) : List Char :=
  let name := if charset.isEmpty then "us-ascii" else String.ofList charset
  ((Charset.find? name).bind fun c => c.decode? (text.map Char.toNat)).getD text

/-- What a split value says. When it has percent codes, a charset and a language stand in front of
it, each with a tick after it. -/
def splitValue (parts : List Part) : List Char :=
  let (text, isCoded) := joined parts
  let text := quote text
  if isCoded then
    match Text.cut '\'' text with
    | (charset, some rest) => match Text.cut '\'' rest with
      | (_, some value) => inCharset charset (requoted value)
      | (_, none) => inCharset [] (requoted text)
    | (_, none) => inCharset [] (requoted text)
  else requoted text

/-! ## The charset -/

/-- Whether a name is that of the charset. -/
def isCharset (name : List Char) : Bool := Text.lower (String.ofList name) == "charset"

/-- The name of the charset in a content type. The kind counts if it is a parameter; values that are
not split come before those that are. -/
def charsetName? (contentType : String) : Except Failure (Option (List Char)) :=
  match parameters contentType with
  | [] => .ok none
  | (first, value) :: rest =>
    let found := parts rest
    let groups := (found.map Prod.fst).eraseDups.map fun name =>
      (name, (found.filter fun p => p.1 == name).map Prod.snd)
    match groups.findSome? fun group => orderFault? group.2 with
    | some fault => .error fault
    | none =>
      if isCharset first then .ok (some (unquote value))
      else match rest.find? fun p => isCharset p.1 with
        | some (_, value) => .ok (some (requoted (quote (unquote value))))
        | none => .ok ((groups.find? fun group => isCharset group.1).map fun group =>
            splitValue group.2)

/-- The charset that a content type names, if it is known. -/
def charset? (contentType : String) : Except Failure (Option Charset) := do
  match ← charsetName? contentType with
  | some name =>
    .ok (if name.all fun c => c.toNat < 0x80 then Charset.find? (String.ofList name) else none)
  | none => .ok none

end Stowage.Http.ContentType
