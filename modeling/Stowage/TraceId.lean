import Stowage.Text.Quoted
import Stowage.Text.Split

/-!
Trace identifiers: one for each request to a datanode, never used again.

An identifier is a random number of 122 bits in the canonical text of version 4: five groups of
hexadecimal digits, with the version and the variant at fixed places.
-/

namespace Stowage.TraceId

/-- The identifier made of the lowest 122 bits of a number. -/
def ofBits (bits : Nat) : String :=
  let low := bits % Nat.pow 2 62
  let middle := bits / Nat.pow 2 62 % Nat.pow 2 12
  let high := bits / Nat.pow 2 74 % Nat.pow 2 48
  let group (width n : Nat) : String := String.ofList (Text.hexDigits width n)
  group 8 (high / Nat.pow 2 16) ++ "-" ++ group 4 high ++ "-4" ++ group 3 middle ++ "-" ++
    group 4 (Nat.pow 2 15 + low / Nat.pow 2 48) ++ "-" ++ group 12 low

/-- Whether a text has the form of an identifier of version 4, in lower case. -/
def isCanonical (s : String) : Bool :=
  let isHex (c : Char) : Bool := ('0' ≤ c && c ≤ '9') || ('a' ≤ c && c ≤ 'f')
  match Text.splitAt (· == '-') s.toList with
  | [a, b, '4' :: c, d :: e, f] =>
    (a ++ b ++ c ++ e ++ f).all isHex && ['8', '9', 'a', 'b'].contains d &&
      [a.length, b.length, c.length, e.length, f.length] == [8, 4, 3, 3, 12]
  | _ => false

end Stowage.TraceId
