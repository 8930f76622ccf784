import Stowage.Text.Coding
import Stowage.Text.Quoted

/-!
Percent coding: how characters that a part of a URL cannot hold are written.

A character is coded as its bytes in UTF-8, each as a percent sign and two hexadecimal digits in
upper case. Codes that are there already stay as they are. Read back, codes stand for bytes in UTF-8,
and bytes that stand for nothing become the replacement character.
-/

namespace Stowage.Http.Percent

/-- The code of a character. -/
def code (c : Char) : List Char :=
  (String.utf8EncodeChar c).flatMap fun b => '%' :: (Text.hexDigits 2 b.toNat).map Char.toUpper

/-- Letters, digits and marks that every part of a URL can hold. -/
def isUnreserved (c : Char) : Bool := c.isAlphanum || ['-', '.', '_', '~'].contains c

/-- Marks that separate the parts of a component. -/
def isDelimiter (c : Char) : Bool :=
  ['!', '$', '&', '\'', '(', ')', '*', '+', ',', ';', '='].contains c

/-- The printable characters of ASCII without the space. -/
def isVisible (c : Char) : Bool := 0x20 < c.toNat && c.toNat < 0x7f

/-- What a query can hold. -/
def inQuery (c : Char) : Bool := isVisible c && !(['"', '#', '<', '>'].contains c)

/-- What a path can hold. -/
def inPath (c : Char) : Bool := inQuery c && !(['?', '\x60', '{', '}'].contains c)

/-- What the name and the password of a user can hold together. -/
def inUserInfo (c : Char) : Bool :=
  inPath c && !(['/', ';', '=', '@', '[', '\\', ']', '^', '|'].contains c)

/-- What a fragment can hold. -/
def inFragment (c : Char) : Bool := isVisible c && !(['"', '<', '>', '\x60'].contains c)

/-- What the name of a host can hold. -/
def inHost (c : Char) : Bool :=
  isDelimiter c || ['"', '\x60', '{', '}', '%', '|', '\\'].contains c

/-- A character as it is, if it may stand so, or its code. -/
def codeUnless (allowed : Char → Bool) (c : Char) : List Char :=
  if isUnreserved c || allowed c then [c] else code c

/-- Text in which only allowed characters and codes remain. -/
def encode (allowed : Char → Bool) : List Char → List Char
  | [] => []
  | '%' :: a :: b :: r =>
    if (Text.hexDigit? a).isSome && (Text.hexDigit? b).isSome then
      '%' :: a :: b :: encode allowed r
    else codeUnless allowed '%' ++ encode allowed (a :: b :: r)
  | c :: r => codeUnless allowed c ++ encode allowed r

/-- Text as a name or a value in a form. -/
def encodeForm (cs : List Char) : List Char :=
  cs.flatMap fun c => if c = ' ' then ['+'] else codeUnless (fun _ => false) c

/-! ## Reading -/

/-- Bytes out of percent codes; what is no code stands for itself. -/
def uncoded : List Char → List Nat
  | [] => []
  | '%' :: a :: b :: r =>
    match Text.hexDigit? a, Text.hexDigit? b with
    | some high, some low => (high * 16 + low) :: uncoded r
    | _, _ => '%'.toNat :: uncoded (a :: b :: r)
  | c :: r => c.toNat :: uncoded r

/-- Text with percent codes in it, each run of ASCII decoded by itself. -/
def decoded (cs : List Char) : List Char :=
  match cs with
  | [] => []
  | c :: r =>
    if c.toNat < 0x80 then
      let run := r.takeWhile fun c => c.toNat < 0x80
      Text.Coding.lenient (Text.Coding.strict (Text.Coding.utf8 (uncoded (c :: run)))) ++
        decoded (r.drop run.length)
    else c :: decoded r
termination_by cs.length
decreasing_by all_goals simp only [List.length_drop, List.length_cons]; omega

end Stowage.Http.Percent
