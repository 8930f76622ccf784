/-!
Cutting text at separators.
-/

namespace Stowage.Text

/-- The pieces between the characters that satisfy `p`; as many as there are separators, and one
more. -/
def splitAt (p : Char → Bool) : List Char → List (List Char)
  | [] => [[]]
  | c :: r =>
    if p c then [] :: splitAt p r
    else match splitAt p r with
      | [] => [[c]]
      | piece :: rest => (c :: piece) :: rest

/-- The pieces between doubled characters `sep`, found from the left: of three in a row the first
two separate and the third belongs to the next piece. -/
def splitAtDouble (sep : Char) : List Char → List (List Char)
  | [] => [[]]
  | [c] => [[c]]
  | c :: d :: r =>
    if c = sep ∧ d = sep then [] :: splitAtDouble sep r
    else match splitAtDouble sep (d :: r) with
      | [] => [[c]]
      | piece :: rest => (c :: piece) :: rest

/-- Join pieces with a separator between them. -/
def join (sep : String) : List String → String
  | [] => ""
  | [s] => s
  | s :: r => s ++ sep ++ join sep r

/-- The part before the first `sep` and, if there is one, the part after it. -/
def cut (sep : Char) : List Char → List Char × Option (List Char)
  | [] => ([], none)
  | c :: r =>
    if c = sep then ([], some r)
    else let (before, after) := cut sep r; (c :: before, after)

/-- `t` with the start `s` taken off, when it begins so. -/
def dropStart? : List Char → List Char → Option (List Char)
  | [], t => some t
  | _ :: _, [] => none
  | c :: s, d :: t => if c = d then dropStart? s t else none

/-- Whether a character ends a line. -/
def endsLine (c : Char) : Bool :=
  "\n\r\x0b\x0c\x1c\x1d\x1e\u0085\u2028\u2029".toList.contains c

/-- The lines of a text after the characters `line` of the first one, which are in reverse. -/
def linesFrom (line : List Char) : List Char → List String
  | [] => if line.isEmpty then [] else [String.ofList line.reverse]
  | '\r' :: '\n' :: r => String.ofList line.reverse :: linesFrom [] r
  | c :: r =>
    if endsLine c then String.ofList line.reverse :: linesFrom [] r else linesFrom (c :: line) r

/-- The lines of a text without what ends them. -/
def lines (s : String) : List String := linesFrom [] s.toList

end Stowage.Text
