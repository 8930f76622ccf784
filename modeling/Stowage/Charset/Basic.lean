import Stowage.Charset.Spelled
import Stowage.Charset.Switched
import Stowage.Charset.Utf7
import Stowage.Failure.Fault
import Stowage.Hostname.Punycode
import Stowage.Text.Split

/-!
Charsets: the codings of text that can be named, and how bytes are read in them.

`Charset.find?` knows a charset by any of its names. `Charset.pieces` reads bytes and marks those
that stand for nothing; reading fails only where a coding of Unicode is to begin with a mark and
does not, where too long a sequence of switching breaks off, and for names that are known but stand
for no coding of text.
-/

namespace Stowage

/-- A charset. Codings in which the order of bytes is not told begin with a mark that tells it. -/
inductive Charset where
  | ascii
  | page (page : CodePage)
  | utf7
  | utf8 (marked : Bool)
  | utf16 (bigEndian : Option Bool)
  | utf32 (bigEndian : Option Bool)
  | wide (coding : Charset.Wide)
  | switched (coding : Charset.Switched)
  | hz
  | spelled (raw : Bool)
  | punycode
  /-- A coding that is not for text; how reading text in it fails. -/
  | other (fault : Fault) (words : Option String)
  deriving DecidableEq, Repr

namespace Charset

/-! ## Names -/

/-- A coding of bytes as bytes. -/
def ofBytes : Charset := .other .assertionError none

/-- The charsets that are no code pages, each after its names. -/
def named : List (String × Charset) := [
  ("ascii 646 ansi_x3.4_1968 ansi_x3.4_1986 ansi_x3_4_1968 cp367 csascii ibm367 iso646_us " ++
    "iso_646.irv_1991 iso_ir_6 us us_ascii", .ascii),
  ("latin_1 8859 cp819 csisolatin1 ibm819 iso8859 iso8859_1 iso_8859_1 iso_8859_1_1987 " ++
    "iso_ir_100 l1 latin latin1 charmap", .page []),
  ("utf_7 u7 unicode_1_1_utf_7 utf7", .utf7),
  ("utf_8 cp65001 u8 utf utf8 utf8_ucs2 utf8_ucs4", .utf8 false),
  ("utf_8_sig", .utf8 true),
  ("utf_16 u16 utf16", .utf16 none),
  ("utf_16_be unicodebigunmarked utf_16be", .utf16 (some true)),
  ("utf_16_le unicodelittleunmarked utf_16le", .utf16 (some false)),
  ("utf_32 u32 utf32", .utf32 none),
  ("utf_32_be utf_32be", .utf32 (some true)),
  ("utf_32_le utf_32le", .utf32 (some false)),
  ("big5 big5_tw csbig5 x_mac_trad_chinese", .wide .big5),
  ("big5hkscs big5_hkscs hkscs", .wide .big5HongKong),
  ("cp932 932 ms932 ms_kanji mskanji", .wide .shiftedWindows),
  ("cp949 949 ms949 uhc", .wide .unifiedHangul),
  ("cp950 950 ms950", .wide .big5Windows),
  ("euc_jis_2004 euc_jis2004 eucjis2004 jisx0213", .wide (.euc213 true)),
  ("euc_jisx0213 eucjisx0213", .wide (.euc213 false)),
  ("euc_jp eucjp u_jis ujis", .wide .eucJapanese),
  ("euc_kr euckr korean ks_c_5601 ks_c_5601_1987 ks_x_1001 ksc5601 ksx1001 x_mac_korean",
    .wide .eucKorean),
  ("gb18030 gb18030_2000", .wide .gb18030),
  ("gb2312 chinese csiso58gb231280 euc_cn euccn eucgb2312_cn gb2312_1980 gb2312_80 iso_ir_58 " ++
    "x_mac_simp_chinese", .wide .gb2312),
  ("gbk 936 cp936 ms936", .wide .gbk),
  ("johab cp1361 ms1361", .wide .johab),
  ("shift_jis csshiftjis s_jis shiftjis sjis x_mac_japanese", .wide .shifted),
  ("shift_jis_2004 s_jis_2004 shiftjis2004 sjis_2004", .wide (.shifted213 true)),
  ("shift_jisx0213 s_jisx0213 shiftjisx0213 sjisx0213", .wide (.shifted213 false)),
  ("hz hz_gb hz_gb_2312 hzgb", .hz),
  ("unicode_escape", .spelled false),
  ("raw_unicode_escape", .spelled true),
  ("punycode", .punycode),
  ("base64_codec base64 base_64", ofBytes),
  ("bz2_codec bz2", ofBytes),
  ("hex_codec hex", ofBytes),
  ("quopri_codec quopri quoted_printable quotedprintable", ofBytes),
  ("uu_codec uu", ofBytes),
  ("zlib_codec zip zlib", ofBytes),
  ("rot_13 rot13", .other .typeError (some
    "descriptor 'translate' for 'str' objects doesn't apply to a 'bytes' object")),
  ("idna", .other .unicodeError (some "Unsupported error handling replace")),
  ("undefined", .other .unicodeError (some "undefined encoding"))]

/-- A name in the form in which charsets are looked up: in lower case, and with a single underscore
between runs of letters, digits and dots. -/
def plainName (cs : List Char) : List Char :=
  let runs := Text.splitAt (fun c => !(c.isAlphanum || c == '.')) (cs.map Char.toLower)
  ['_'].intercalate (runs.filter fun run => !run.isEmpty)

/-- The charset of which `isName` finds a name among all its names. -/
def findBy? (isName : List String → Bool) : Option Charset :=
  let called (names : String) := isName (names.splitOn " ")
  ((named.find? fun charset => called charset.1).map Prod.snd).or
    (((CodePage.all.find? fun page => called page.1).map fun page => .page page.2).or
      ((Switched.all.find? fun coding => called coding.1).map fun coding => .switched coding.2))

/-- The charset of a name. Dots may stand for underscores, but not in the first name of a
charset. -/
def find? (name : String) : Option Charset :=
  let plain := plainName name.toList
  let spelled := String.ofList plain
  let undotted := String.ofList (plain.map fun c => if c = '.' then '_' else c)
  (findBy? fun names => names.contains spelled).or
    (findBy? fun names => (names.drop 1).contains undotted)

/-! ## Reading -/

/-- Whether high bytes come first, as a mark at the front tells, and the bytes after the mark. -/
def marked? (bigMark littleMark bs : List Nat) : Option (Bool × List Nat) :=
  if bs.take bigMark.length = bigMark then some (true, bs.drop bigMark.length)
  else if bs.take littleMark.length = littleMark then some (false, bs.drop littleMark.length)
  else none

/-- The mark of UTF-8. -/
def mark8 : List Nat := [0xef, 0xbb, 0xbf]

/-- The marks of UTF-16 and UTF-32, with the high bytes first and with the low bytes first. -/
def marks16 : List Nat × List Nat := ([0xfe, 0xff], [0xff, 0xfe])

def marks32 : List Nat × List Nat := ([0, 0, 0xfe, 0xff], [0xff, 0xfe, 0, 0])

/-- How reading fails when a mark is missing. -/
def unmarked (name : String) : Fault × Option String :=
  (.unicodeError, some (name ++ " stream does not start with BOM"))

/-- What bytes in Punycode stand for, as far as they make sense. Behind the last hyphen all have to
be ASCII. -/
def punycodePieces (bs : List Nat) : Except (Fault × Option String) (List Text.Piece) :=
  let code := (bs.reverse.takeWhile (· != 0x2d)).reverse
  match code.findIdx? (0x80 ≤ ·) with
  | some place => .error (.unicodeDecodeError, some ("'ascii' codec can't decode byte 0x" ++
      String.ofList (Text.hexDigits 2 (code.getD place 0)) ++ " in position " ++ toString place ++
      ": ordinal not in range(128)"))
  | none =>
    let cs := bs.map fun b => if b < 0x80 then Char.ofNat b else '\ufffd'
    .ok ((Hostname.Punycode.decode cs).map .char)

/-- What bytes stand for. Of a text without the mark that it needs, less than one unit stands for
nothing and more is refused. -/
def pieces : Charset → List Nat → Except (Fault × Option String) (List Text.Piece)
  | _, [] => .ok []
  | .ascii, bs => .ok (bs.map fun b => if b < 0x80 then .char (Char.ofNat b) else .bad)
  | .page codePage, bs => .ok (bs.map codePage.piece)
  | .utf7, bs => .ok (Utf7.read none bs)
  | .utf8 marked, bs =>
    if marked && bs.length < 3 && mark8.take bs.length == bs then .ok []
    else
      let bs := if marked && bs.take 3 == mark8 then bs.drop 3 else bs
      .ok (Text.Coding.strict (Text.Coding.utf8 bs))
  | .utf16 (some big), bs => .ok (Text.Coding.utf16 big bs)
  | .utf16 none, bs => match marked? marks16.1 marks16.2 bs with
    | some (big, bs) => .ok (Text.Coding.utf16 big bs)
    | none => if bs.length < 2 then .ok [.bad] else .error (unmarked "UTF-16")
  | .utf32 (some big), bs => .ok (Text.Coding.utf32 big bs)
  | .utf32 none, bs => match marked? marks32.1 marks32.2 bs with
    | some (big, bs) => .ok (Text.Coding.utf32 big bs)
    | none => if bs.length < 4 then .ok [.bad] else .error (unmarked "UTF-32")
  | .wide coding, bs => .ok (coding.read bs)
  | .switched coding, bs => match coding.read {} bs with
    | .ok pieces => .ok pieces
    | .error .overflow => .error (.unicodeError, some "pending buffer overflow")
    | .error .misplaced => .error (.runtimeError, some "internal codec error")
  | .hz, bs => .ok (readHz false bs)
  | .spelled raw, bs => .ok (Spelled.read raw bs)
  | .punycode, bs => punycodePieces bs
  | .other fault words, _ => .error (fault, words)

/-- Bytes as text, with replacement characters for those that stand for nothing. -/
def decode (charset : Charset) (bs : List Nat) : Except (Fault × Option String) (List Char) :=
  (charset.pieces bs).map Text.Coding.lenient

/-- The coding with the low bytes first, where nothing tells the order of bytes. -/
def assumed : Charset → Charset
  | .utf16 none => .utf16 (some false)
  | .utf32 none => .utf32 (some false)
  | charset => charset

/-- Bytes as text, if all of them stand for something. Here a mark may be missing. -/
def decode? (charset : Charset) (bs : List Nat) : Option (List Char) :=
  if charset = .punycode then
    if bs.all (· < 0x80) then Hostname.Punycode.decode? (bs.map Char.ofNat) else none
  else
    let pieces? := (charset.pieces bs).toOption.or (charset.assumed.pieces bs).toOption
    pieces?.bind fun pieces => pieces.mapM fun
      | .char c => some c
      | _ => none

end Charset

end Stowage
