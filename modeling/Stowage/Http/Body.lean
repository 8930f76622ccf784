import Stowage.Http.ContentType
import Stowage.Json.Reader

/-!
Bodies of answers: bytes as text and as JSON.

Text is in the charset that the content type names, or in UTF-8 when it names none that is known;
bytes that stand for nothing become replacement characters. JSON is in a coding of Unicode that the
first bytes give away, and there such bytes count as a fault.
-/

namespace Stowage.Http.Body

/-! ## Text -/

/-- Bytes as text, `contentType` being what the answer says of them. No bytes are no text, whatever
they are said to be. -/
def text (contentType : Option String) (bs : List Nat) : Except Failure String :=
  if bs.isEmpty then .ok ""
  else do
    let charset ← match contentType with
      | some contentType => ContentType.charset? contentType
      | none => .ok none
    match (charset.getD (.utf8 false)).decode bs with
    | .ok cs => .ok (String.ofList cs)
    | .error (fault, words) => .error (.fault fault (words.map Value.text))

/-! ## JSON -/

/-- Why bytes are no JSON document. -/
inductive Fault where
  /-- The bytes are no text. -/
  | undecodable
  | refused (refusal : Json.Refusal)
  deriving DecidableEq, Repr

/-- The kind of failure that a fault counts as. -/
def Fault.kind : Fault → String
  | undecodable => "UnicodeDecodeError"
  | refused .malformed => "JSONDecodeError"
  | refused (.overlong _) => "ValueError"

/-- The bytes of a document as pieces of text. The coding is told by a mark at the front or else
by where zeros stand among the first bytes. -/
def documentPieces (bs : List Nat) : List Text.Piece :=
  match bs with
  | 0 :: 0 :: 0xfe :: 0xff :: r => Text.Coding.utf32 true r
  | 0xff :: 0xfe :: 0 :: 0 :: r => Text.Coding.utf32 false r
  | 0xfe :: 0xff :: r => Text.Coding.utf16 true r
  | 0xff :: 0xfe :: r => Text.Coding.utf16 false r
  | 0xef :: 0xbb :: 0xbf :: r => Text.Coding.utf8 r
  | 0 :: 0 :: _ :: _ :: _ => Text.Coding.utf32 true bs
  | 0 :: _ :: _ :: _ :: _ => Text.Coding.utf16 true bs
  | _ :: 0 :: 0 :: 0 :: _ => Text.Coding.utf32 false bs
  | _ :: 0 :: _ :: _ :: _ => Text.Coding.utf16 false bs
  | [0, _] => Text.Coding.utf16 true bs
  | [_, 0] => Text.Coding.utf16 false bs
  | _ => Text.Coding.utf8 bs

/-- Bytes as a JSON document. -/
def json (bs : List Nat) : Except Fault Json :=
  match Text.Coding.paired (documentPieces bs) with
  | none => .error .undecodable
  | some cs => match Json.readList cs with
    | .ok j => .ok j
    | .error refusal => .error (.refused refusal)

end Stowage.Http.Body
