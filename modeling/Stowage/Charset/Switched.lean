import Stowage.Charset.Page
import Stowage.Charset.Wide

/-!
Switched charsets: codings in seven bits, where the same bytes stand for characters of one
repertoire after another, and sequences of bytes between them tell of which.
-/

namespace Stowage.Charset

/-! ## Repertoires -/

/-- A repertoire that can be switched to. -/
inductive Repertoire where
  | ascii
  | roman
  | kana
  | latin
  | greek
  | jis208
  | jis212
  | jis213 (of2004 : Bool)
  | jis213Second (of2004 : Bool)
  | gb2312
  | ksx1001
  deriving DecidableEq, Repr

namespace Repertoire

/-- The number of bytes of a character. -/
def width : Repertoire → Nat
  | .ascii | .roman | .kana | .latin | .greek => 1
  | _ => 2

/-- What the bytes of a character stand for. Those of Latin and Greek are upper halves, for which
there is no switching as a whole. -/
def read? : Repertoire → List Nat → Option (List Char)
  | .ascii, [b] => some [Char.ofNat b]
  | .roman, [b] => some [if b = 0x5c then '¥' else if b = 0x7e then '‾' else Char.ofNat b]
  | .kana, [b] => if 0x21 ≤ b ∧ b < 0x60 then some [Char.ofNat (0xff40 + b)] else none
  | .jis208, [b, c] => one ((square? b c).bind Chart.jis208.find?)
  | .jis212, [b, c] => one ((square? b c).bind Chart.jis212.find?)
  | .jis213 of2004, [b, c] => (square? b c).bind (jis213? of2004)
  | .jis213Second of2004, [b, c] => one ((square? b c).bind (jis213Second? of2004))
  | .gb2312, [b, c] => one ((square? b c).bind Chart.gb2312.find?)
  | .ksx1001, [b, c] => one ((square? b c).bind Chart.ksx1001.find?)
  | _, _ => none
where
  one (c : Option Char) : Option (List Char) := c.map ([·])

/-- The upper half of Greek. Three of its signs are younger than the coding. -/
def greek? (b : Nat) : Option Char :=
  let isGreek (names : String) : Bool := (names.splitOn " ").contains "iso8859_7"
  let page := (CodePage.all.find? fun page => isGreek page.1).map Prod.snd
  match (page.getD []).piece b with
  | .char c => if b = 0xa4 ∨ b = 0xa5 ∨ b = 0xaa then none else some c
  | _ => none

end Repertoire

/-! ## Codings -/

/-- A coding with switching. -/
structure Switched where
  /-- The repertoires, each with how many bytes it takes and the byte that names it. -/
  repertoires : List (Nat × Char × Repertoire)
  /-- Whether there is a second place for a repertoire, and bytes that shift to it and back. -/
  shifts : Bool
  /-- Whether there is a third place, for one character at a time. -/
  singles : Bool
  /-- Whether a repertoire may be announced as revised. -/
  revisions : Bool
  deriving DecidableEq, Repr

namespace Switched

/-- A coding of Japanese beside the one of ASCII. -/
def japanese (repertoires : List (Nat × Char × Repertoire)) : Switched :=
  { repertoires, shifts := false, singles := false, revisions := true }

/-- The repertoires of all codings of Japanese that are older than JIS X 0213. -/
def common : List (Nat × Char × Repertoire) :=
  [(2, 'B', .jis208), (2, '@', .jis208), (1, 'J', .roman)]

/-- The codings, each after its names. -/
def all : List (String × Switched) := [
  ("iso2022_jp csiso2022jp iso2022jp iso_2022_jp", japanese common),
  ("iso2022_jp_1 iso2022jp_1 iso_2022_jp_1", japanese ((2, 'D', .jis212) :: common)),
  ("iso2022_jp_2 iso2022jp_2 iso_2022_jp_2",
    { japanese ([(2, 'D', .jis212), (2, 'C', .ksx1001), (2, 'A', .gb2312), (1, 'A', .latin),
        (1, 'F', .greek)] ++ common) with singles := true }),
  ("iso2022_jp_2004 iso2022jp_2004 iso_2022_jp_2004",
    japanese [(2, 'Q', .jis213 true), (2, 'B', .jis208), (2, 'P', .jis213Second true)]),
  ("iso2022_jp_3 iso2022jp_3 iso_2022_jp_3",
    japanese [(2, 'O', .jis213 false), (2, 'B', .jis208), (2, 'P', .jis213Second false)]),
  ("iso2022_jp_ext iso2022jp_ext iso_2022_jp_ext",
    japanese ([(2, 'D', .jis212), (1, 'I', .kana)] ++ common)),
  ("iso2022_kr csiso2022kr iso2022kr iso_2022_kr",
    { repertoires := [(2, 'C', .ksx1001)], shifts := true, singles := false, revisions := false })]

/-- The repertoire of a width and a name. That of ASCII is known everywhere. -/
def repertoire? (coding : Switched) (width : Nat) (name : Nat) : Option Repertoire :=
  if width = 1 ∧ name = 'B'.toNat then some .ascii
  else (coding.repertoires.find? fun entry => entry.1 = width ∧ entry.2.1.toNat = name).map
    (·.2.2)

/-! ## Places -/

/-- Where a reader is: the repertoires of the three places, whether the second counts, and whether
it is within a sequence that is none of switching. -/
structure Place where
  first : Repertoire := .ascii
  second : Repertoire := .ascii
  third : Repertoire := .ascii
  shifted : Bool := false
  inOther : Bool := false
  deriving DecidableEq, Repr

/-- Put a repertoire at a place. -/
def Place.put (place : Place) (which : Nat) (repertoire : Repertoire) : Place :=
  match which with
  | 0 => { place with first := repertoire }
  | 1 => { place with second := repertoire }
  | _ => { place with third := repertoire }

/-! ## Sequences -/

/-- Whether a byte is the last of a sequence. -/
def isLast (b : Nat) : Bool := 0x40 ≤ b && b ≤ 0x5a

/-- Where a sequence ends. -/
inductive Ending where
  /-- The last of so many bytes. -/
  | after (length : Nat)
  /-- There are too many bytes. -/
  | never
  /-- There may be more bytes. -/
  | unknown
  deriving DecidableEq, Repr

/-- The end of a sequence of which `read` bytes are read, out of less than sixteen. What announces a
revision does not end it. -/
def ending (revisions : Bool) (read : Nat) (bs : List Nat) : Ending :=
  if 16 ≤ read then .never
  else match bs with
    | [] => .unknown
    | b :: r =>
      if isLast b then .after (read + 1)
      else if revisions && b = '&'.toNat && r.head? = some '@'.toNat then
        match r with
        | _ :: _ :: r => ending revisions (read + 3) r
        | _ => if 13 ≤ read then .never else .unknown
      else ending revisions (read + 1) r
termination_by bs.length
decreasing_by all_goals simp only [List.length_cons]; omega

/-- The place and the repertoire that a sequence tells; of the bytes the first, which begins every
sequence, is left out. -/
def told? (coding : Switched) (bytes : List Nat) : Option (Nat × Repertoire) :=
  let place? (b : Nat) : Option Nat :=
    if b = '('.toNat then some 0 else if b = ')'.toNat then some 1 else none
  match bytes with
  | [b, c] =>
    if b = '$'.toNat then (coding.repertoire? 2 c).map (0, ·)
    else if coding.singles && b = '.'.toNat then (coding.repertoire? 1 c).map (2, ·)
    else (place? b).bind fun which => (coding.repertoire? 1 c).map (which, ·)
  | [b, c, d] =>
    if b = '$'.toNat then
      (place? c).bind fun which => (coding.repertoire? 2 d).map (which, ·)
    else none
  | [_, _, 0x1b, c, d] =>
    if coding.revisions && c = '$'.toNat && d = 'B'.toNat then
      (coding.repertoire? 2 d).map (0, ·)
    else none
  | _ => none

/-! ## Reading -/

/-- Why a text cannot be read at all. -/
inductive Stop where
  /-- What is left at the end is too long to be a part of a sequence. -/
  | overflow
  /-- The third place has a repertoire that cannot be there. -/
  | misplaced
  deriving DecidableEq, Repr

/-- What is found at a place: pieces, the number of further bytes, and the place behind them. -/
abbrev Found := List Text.Piece × Nat × Place

/-- The bytes from a first one to the end are not complete. More than eight cannot be waited with.
-/
def incomplete (place : Place) (rest : List Nat) : Except Stop Found :=
  if 8 ≤ rest.length then .error .overflow else .ok ([.bad], rest.length, place)

/-- What follows the byte that begins a sequence. -/
def sequence (coding : Switched) (place : Place) : List Nat → Except Stop Found
  | [] => incomplete place []
  | c :: rest =>
    if "()$.&".toList.any fun kind => kind.toNat = c then
      match ending coding.revisions 1 (c :: rest) with
      | .unknown => incomplete place (c :: rest)
      | .never => .ok ([.bad], 0, place)
      | .after length =>
        match coding.told? ((c :: rest).take (length - 1)) with
        | some (which, repertoire) => .ok ([], length - 1, place.put which repertoire)
        | none => .ok ([.bad], length - 1, place)
    else if coding.singles && c = 'N'.toNat then
      match rest, place.third with
      | [], _ => incomplete place [c]
      | b :: _, .ascii => .ok ([if b < 0x80 then .char (Char.ofNat b) else .bad], 2, place)
      | b :: _, .latin => .ok ([if b < 0x80 then .char (Char.ofNat (b + 0x80)) else .bad], 2, place)
      | b :: _, .greek =>
        let high := if b < 0x80 then b + 0x80 else b - 0x80
        .ok ([((Repertoire.greek? high).map Text.Piece.char).getD .bad], 2, place)
      | _, _ => .error .misplaced
    else .ok ([.char '\x1b'], 0, { place with inOther := true })

/-- What is found where a byte is followed by others. -/
def step (coding : Switched) (place : Place) (b : Nat) (rest : List Nat) : Except Stop Found :=
  if place.inOther then
    .ok ([.char (Char.ofNat b)], 0, { place with inOther := !isLast b })
  else if b = 0x1b then coding.sequence place rest
  else if coding.shifts && b = 0x0e then .ok ([], 0, { place with shifted := true })
  else if coding.shifts && b = 0x0f then .ok ([], 0, { place with shifted := false })
  else if b = 0x0a then .ok ([.char '\n'], 0, { place with shifted := false })
  else if b < 0x20 then .ok ([.char (Char.ofNat b)], 0, place)
  else if 0x80 ≤ b then .ok ([.bad], 0, place)
  else
    let repertoire := if place.shifted then place.second else place.first
    let bytes := (b :: rest).take repertoire.width
    if bytes.length < repertoire.width then incomplete place rest
    else match repertoire.read? bytes with
      | some cs => .ok (cs.map .char, repertoire.width - 1, place)
      | none => .ok ([.bad], repertoire.width - 1, place)

/-- What bytes stand for from a place on. -/
def read (coding : Switched) (place : Place) : List Nat → Except Stop (List Text.Piece)
  | [] => .ok []
  | b :: r =>
    match coding.step place b r with
    | .ok (pieces, further, next) => do
      let others ← coding.read next (r.drop further)
      .ok (pieces ++ others)
    | .error stop => .error stop
termination_by bs => bs.length
decreasing_by simp only [List.length_drop, List.length_cons]; omega

end Switched

/-! ## HZ -/

/-- Text in HZ, `inside` a section of GB 2312 or outside. A tilde begins every mark. -/
def readHz (inside : Bool) : List Nat → List Text.Piece
  | [] => []
  | 0x7e :: [] => [.bad]
  | 0x7e :: c :: r =>
    if !inside && c = 0x7e then .char '~' :: readHz inside r
    else if !inside && c = 0x7b then readHz true r
    else if !inside && c = 0x0a then readHz inside r
    else if inside && c = 0x7d then readHz false r
    else .bad :: readHz inside (c :: r)
  | b :: r =>
    if 0x80 ≤ b then .bad :: readHz inside r
    else if !inside then .char (Char.ofNat b) :: readHz inside r
    else match r with
      | [] => [.bad]
      | c :: rest => match (square? b c).bind Chart.gb2312.find? with
        | some d => .char d :: readHz inside rest
        | none => .bad :: readHz inside (c :: rest)
termination_by bs => bs.length
decreasing_by all_goals simp only [List.length_cons]; omega

end Stowage.Charset
