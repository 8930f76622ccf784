import Stowage.Charset.Chart.Chinese
import Stowage.Charset.Chart.Japanese
import Stowage.Charset.Chart.Korean
import Stowage.Text.Coding

/-!
Wide charsets: codings of the scripts of East Asia, in which a character takes one byte or several.

The first byte of a character tells how many there are. Bytes that stand for nothing are refused one
at a time; what is left at the end when bytes are missing is refused together. Where a coding tells
the letters of Hangul one by one, they are put together to syllables (`Hangul.compose?`).
-/

namespace Stowage.Charset.Hangul

/-- The letters that begin a syllable, in the order of syllables. -/
def initials : List Char := "ㄱㄲㄴㄷㄸㄹㅁㅂㅃㅅㅆㅇㅈㅉㅊㅋㅌㅍㅎ".toList

/-- The vowels. -/
def vowels : List Char := "ㅏㅐㅑㅒㅓㅔㅕㅖㅗㅘㅙㅚㅛㅜㅝㅞㅟㅠㅡㅢㅣ".toList

/-- The letters that end a syllable. -/
def finals : List Char := "ㄱㄲㄳㄴㄵㄶㄷㄹㄺㄻㄼㄽㄾㄿㅀㅁㅂㅄㅅㅆㅇㅈㅊㅋㅌㅍㅎ".toList

/-- The syllable of an initial, a vowel, and a final if there is one. -/
def syllable? (initial vowel : Char) (final : Option Char) : Option Char := do
  let i ← initials.idxOf? initial
  let v ← vowels.idxOf? vowel
  let f ← match final with
    | none => some 0
    | some c => (finals.idxOf? c).map (· + 1)
  some (Char.ofNat (0xac00 + (i * 21 + v) * 28 + f))

/-- Letters of which one or two may be missing. No letter at all is a wide blank; a letter by itself
stands for itself. -/
def compose? : Option Char → Option Char → Option Char → Option Char
  | none, none, none => some '\u3000'
  | some c, none, none | none, some c, none | none, none, some c => some c
  | some initial, some vowel, final => syllable? initial vowel final
  | _, _, _ => none

end Stowage.Charset.Hangul

namespace Stowage.Charset

/-- A coding in which characters take several bytes. The codings of JIS X 0213 are as of 2004, or
older and without ten characters. -/
inductive Wide where
  | gb2312
  | gbk
  | gb18030
  | big5
  | big5Windows
  | big5HongKong
  | eucKorean
  | unifiedHangul
  | johab
  | eucJapanese
  | euc213 (of2004 : Bool)
  | shifted
  | shiftedWindows
  | shifted213 (of2004 : Bool)
  deriving DecidableEq, Repr

/-! ## Cells -/

/-- The cell of a pair of bytes in a square of 94 rows and columns. -/
def square? (b c : Nat) : Option Nat :=
  if 0x21 ≤ b ∧ b < 0x7f ∧ 0x21 ≤ c ∧ c < 0x7f then some ((b - 0x21) * 94 + (c - 0x21)) else none

/-- The cell of a pair of high bytes. -/
def highSquare? (b c : Nat) : Option Nat := square? (b - 0x80) (c - 0x80)

/-- The column of a second byte that is no control character. -/
def column? (c : Nat) : Option Nat :=
  if 0x40 ≤ c ∧ c < 0x7f then some (c - 0x40)
  else if 0x80 ≤ c ∧ c < 0xff then some (c - 0x41)
  else none

/-- The cell of GBK, in rows of 190. -/
def gbkCell? (b c : Nat) : Option Nat :=
  if 0x81 ≤ b then (column? c).map ((b - 0x81) * 190 + ·) else none

/-- The cell of Big5, in rows of 157. -/
def big5Cell? (b c : Nat) : Option Nat :=
  if b < 0x81 then none
  else if 0x40 ≤ c ∧ c < 0x7f then some ((b - 0x81) * 157 + (c - 0x40))
  else if 0xa1 ≤ c ∧ c < 0xff then some ((b - 0x81) * 157 + (c - 0x62))
  else none

/-- The cell of the extension of KS X 1001, in rows of 178. -/
def hangulCell? (b c : Nat) : Option Nat :=
  if b < 0x81 then none
  else if 0x41 ≤ c ∧ c < 0x5b then some ((b - 0x81) * 178 + (c - 0x41))
  else if 0x61 ≤ c ∧ c < 0x7b then some ((b - 0x81) * 178 + (c - 0x47))
  else if 0x81 ≤ c ∧ c < 0xff then some ((b - 0x81) * 178 + (c - 0x4d))
  else none

/-- The cell of a shifted pair. The first byte makes room for single bytes; two rows of 94 cells
share one. -/
def shiftedCell? (b c : Nat) : Option Nat := do
  let row ←
    if 0x81 ≤ b ∧ b < 0xa0 then some (b - 0x81)
    else if 0xe0 ≤ b ∧ b < 0xfd then some (b - 0xc1)
    else none
  if c < 0xfd then (column? c).map (row * 188 + ·) else none

/-! ## Charts of two bytes -/

/-- GBK. -/
def gbk? (b c : Nat) : Option Char :=
  ((gbkCell? b c).bind Chart.gbk.find?).or ((highSquare? b c).bind Chart.gb2312.find?)

/-- The zones of GB 18030 for private use: of the high cells two, and one of those below. -/
def privateUse? (b c : Nat) : Option Char :=
  if 0xa1 ≤ c ∧ c < 0xff then
    if 0xaa ≤ b ∧ b < 0xb0 then some (Char.ofNat (0xe000 + (b - 0xaa) * 94 + (c - 0xa1)))
    else if 0xf8 ≤ b ∧ b < 0xff then some (Char.ofNat (0xe234 + (b - 0xf8) * 94 + (c - 0xa1)))
    else none
  else if 0xa1 ≤ b ∧ b < 0xa8 then
    (column? c).map fun column => Char.ofNat (0xe4c6 + (b - 0xa1) * 96 + column)
  else none

/-- The cells of Big5 in which Hong Kong has a letter together with its mark. -/
def hongKongMarked? (cell : Nat) : Option (List Char) :=
  match cell with
  | 1133 => some ['Ê', '\u0304']
  | 1135 => some ['Ê', '\u030c']
  | 1164 => some ['ê', '\u0304']
  | 1166 => some ['ê', '\u030c']
  | _ => none

/-- What Hong Kong has in a cell. -/
def hongKong? (cell : Nat) : Option (List Char) :=
  match Chart.big5HongKong.cell? cell with
  | some c => if c = '\ufffd' then none else some [c]
  | none => (hongKongMarked? cell).or ((Chart.big5.find? cell).map ([·]))

/-- The cells of the first plane of JIS X 0213 that are taken only since 2004. -/
def since2004 : List Nat := [1222, 1409, 4375, 4417, 7808, 8831, 8832, 8833, 8834, 8835]

/-- What the first plane of JIS X 0213 has in a cell. -/
def jis213? (of2004 : Bool) (cell : Nat) : Option (List Char) :=
  if !of2004 && since2004.contains cell then none
  else
    (((Chart.jis208.find? cell).or (Chart.jis213.find? cell)).map ([·])).or
      ((Chart.jis213Marked.lookup cell).map String.toList)

/-- What the second plane of JIS X 0213 has in a cell. -/
def jis213Second? (of2004 : Bool) (cell : Nat) : Option Char :=
  if !of2004 && cell = 8674 then some '鬝' else Chart.jis213Second.find? cell

/-- The rows of the second plane, as they follow the first one in shifted codes. -/
def secondPlaneRow (row : Nat) : Nat :=
  if 9 ≤ row then row + 68 else if 5 ≤ row ∨ row = 1 then row + 6 else row

/-- What is in a cell of the first plane where the tilde is a wide one. -/
def euc213? (of2004 : Bool) (cell : Nat) : Option (List Char) :=
  if cell = 111 then some ['～'] else jis213? of2004 cell

/-- What is in a cell of the planes of JIS X 0213 one after the other. Here the backward stroke is a
narrow one. -/
def shifted213? (of2004 : Bool) (cell : Nat) : Option (List Char) :=
  if cell = 31 then some ['\\']
  else if cell < 94 * 94 then jis213? of2004 cell
  else
    let cell := cell - 94 * 94
    (jis213Second? of2004 (secondPlaneRow (cell / 94) * 94 + cell % 94)).map ([·])

/-- What vendors have in the cell of a shifted pair. -/
def vendor932? (b cell : Nat) : Option Char :=
  (Chart.vendor932.find? cell).or
    (if 0xf0 ≤ b ∧ b < 0xfa then some (Char.ofNat (0xe000 + (cell - 47 * 188)))
    else Chart.jis208.find? cell)

/-! ## Johab -/

/-- A vowel of Johab; three of eight numbers are left out. -/
def johabVowel? (n : Nat) : Option (Option Char) :=
  if n = 2 then some none
  else if n % 8 < 2 then none
  else (Hangul.vowels[n / 8 * 6 + n % 8 - 3]?).map some

/-- A syllable of Johab: five bits each for initial, vowel and final. -/
def johabSyllable? (n : Nat) : Option Char := do
  let initial := n / 1024 % 32
  let final := n % 32
  let i ← if initial = 1 then some none else if initial = 0 then none else
    (Hangul.initials[initial - 2]?).map some
  let v ← johabVowel? (n / 32 % 32)
  let f ← if final = 1 then some none else if final = 0 ∨ final = 18 then none else
    (Hangul.finals[if final < 18 then final - 2 else final - 3]?).map some
  Hangul.compose? i v f

/-- What a pair of Johab stands for that is no syllable. -/
def johabOther? (b c : Nat) : Option Char := do
  let row ←
    if 0xd9 ≤ b ∧ b < 0xdf then some (2 * (b - 0xd9))
    else if 0xe0 ≤ b ∧ b < 0xfa then some (2 * b - 0x197)
    else none
  let column ←
    if 0x31 ≤ c ∧ c < 0x7f then some (c - 0x31)
    else if 0x91 ≤ c ∧ c < 0xff then some (c - 0x43)
    else none
  if b = 0xda ∧ 0xa1 ≤ c ∧ c < 0xd4 then none
  else Chart.ksx1001.find? (row * 94 + column)

/-! ## Reading -/

namespace Wide

/-- What a byte stands for by itself. -/
def single? (wide : Wide) (b : Nat) : Option Char :=
  let isKana := 0xa1 ≤ b ∧ b < 0xe0
  match wide with
  | .shifted => if isKana then some (Char.ofNat (0xfec0 + b)) else ascii
  | .shifted213 _ =>
    if isKana then some (Char.ofNat (0xfec0 + b))
    else if b = 0x5c then some '¥'
    else if b = 0x7e then some '‾'
    else ascii
  | .shiftedWindows =>
    if isKana then some (Char.ofNat (0xfec0 + b))
    else if b = 0x80 then some '\u0080'
    else if b = 0xa0 then some '\uf8f0'
    else if 0xfd ≤ b then some (Char.ofNat (0xf8f1 + (b - 0xfd)))
    else ascii
  | _ => ascii
where
  ascii : Option Char := if b < 0x80 then some (Char.ofNat b) else none

/-- What two bytes stand for. -/
def pair? (wide : Wide) (b c : Nat) : Option (List Char) :=
  match wide with
  | .gb2312 => one ((highSquare? b c).bind Chart.gb2312.find?)
  | .gbk => one (gbk? b c)
  | .gb18030 =>
    one ((gbk? b c).or (((gbkCell? b c).bind Chart.gb18030.find?).or (privateUse? b c)))
  | .big5 => one ((big5Cell? b c).bind Chart.big5.find?)
  | .big5Windows =>
    one ((big5Cell? b c).bind fun cell =>
      (Chart.big5Windows.find? cell).or (Chart.big5.find? cell))
  | .big5HongKong => (big5Cell? b c).bind hongKong?
  | .eucKorean => one ((highSquare? b c).bind Chart.ksx1001.find?)
  | .unifiedHangul =>
    one (((highSquare? b c).bind Chart.ksx1001.find?).or ((hangulCell? b c).bind Chart.uhc.find?))
  | .johab => one (if b < 0xd8 then johabSyllable? (b * 256 + c) else johabOther? b c)
  | .eucJapanese => if b = 0x8e then kana else one ((highSquare? b c).bind Chart.jis208.find?)
  | .euc213 of2004 => if b = 0x8e then kana else (highSquare? b c).bind (euc213? of2004)
  | .shifted => one ((shiftedCell? b c).bind Chart.jis208.find?)
  | .shiftedWindows => one ((shiftedCell? b c).bind (vendor932? b))
  | .shifted213 of2004 => (shiftedCell? b c).bind (shifted213? of2004)
where
  one (c : Option Char) : Option (List Char) := c.map ([·])
  /-- A narrow sign of Kana. -/
  kana : Option (List Char) :=
    if 0xa1 ≤ c ∧ c < 0xe0 then some [Char.ofNat (0xfec0 + c)] else none

/-- What a cell stands for that takes three bytes. -/
def third? (wide : Wide) (cell : Nat) : Option Char :=
  match wide with
  | .euc213 of2004 => (jis213Second? of2004 cell).or (Chart.jis212.find? cell)
  | _ => Chart.jis212.find? cell

/-- Whether two bytes stand for a character that is younger than the coding. They are refused
together. -/
def isLater (wide : Wide) (b c : Nat) : Bool :=
  let cell? := match wide with
    | .euc213 false => highSquare? b c
    | .shifted213 false => shiftedCell? b c
    | _ => none
  (cell?.map since2004.contains).getD false

/-- What four bytes of GB 18030 stand for. The second and the fourth are digits. -/
def four? (b c d e : Nat) : Option Char :=
  if b < 0x81 ∨ b = 0xff ∨ d < 0x81 ∨ d = 0xff ∨ e < 0x30 ∨ 0x3a ≤ e then none
  else
    let n := (((b - 0x81) * 10 + (c - 0x30)) * 126 + (d - 0x81)) * 10 + (e - 0x30)
    if n < 39420 then
      (Chart.gb18030Stretches.reverse.find? fun stretch => stretch.1 ≤ n).map fun stretch =>
        Char.ofNat (stretch.2 + (n - stretch.1))
    else if 189000 ≤ n ∧ n < 189000 + 0x100000 then some (Char.ofNat (0x10000 + (n - 189000)))
    else none

/-- A syllable of EUC for Korean that is spelled out; each letter is a pair whose first byte is the
same. A cell of its own stands for no letter. -/
def spelled? (bytes : List Nat) : Option Char :=
  let letter (n : Nat) : Char := Char.ofNat (0x3131 + (n - 0xa1))
  match bytes with
  | [0xa4, i, 0xa4, v, 0xa4, f] =>
    if i < 0xa1 ∨ v < 0xa1 ∨ f < 0xa1 then none
    else Hangul.syllable? (letter i) (letter v) (if f = 0xd4 then none else some (letter f))
  | _ => none

/-- The pieces at the front, after their first byte, and the number of further bytes they take. -/
def step (wide : Wide) (b : Nat) (rest : List Nat) : List Text.Piece × Nat :=
  match wide.single? b with
  | some c => ([.char c], 0)
  | none => match wide, rest with
    | _, [] => ([.bad], 0)
    | .gb18030, c :: rest =>
      if 0x30 ≤ c ∧ c < 0x3a then
        match rest with
        | d :: e :: _ => taken ((four? b c d e).map ([·])) 3
        | _ => ([.bad], rest.length + 1)
      else taken (pair? .gb18030 b c) 1
    | .eucKorean, c :: rest =>
      if b = 0xa4 ∧ c = 0xd4 then
        if rest.length < 6 then ([.bad], rest.length + 1)
        else taken ((spelled? (rest.take 6)).map ([·])) 7
      else taken (pair? .eucKorean b c) 1
    | wide, c :: rest =>
      if b = 0x8f ∧ (wide = .eucJapanese ∨ wide = .euc213 true ∨ wide = .euc213 false) then
        match rest with
        | d :: _ => taken (((highSquare? c d).bind wide.third?).map ([·])) 2
        | [] => ([.bad], 1)
      else if wide.isLater b c then ([.bad], 1)
      else taken (wide.pair? b c) 1
where
  /-- Characters that take `further` bytes, or a byte that stands for nothing. -/
  taken (cs : Option (List Char)) (further : Nat) : List Text.Piece × Nat :=
    match cs with
    | some cs => (cs.map .char, further)
    | none => ([.bad], 0)

/-- What bytes stand for. -/
def read (wide : Wide) : List Nat → List Text.Piece
  | [] => []
  | b :: r => (wide.step b r).1 ++ wide.read (r.drop (wide.step b r).2)
termination_by bs => bs.length
decreasing_by simp only [List.length_drop, List.length_cons]; omega

end Wide

end Stowage.Charset
