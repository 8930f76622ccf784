import Stowage.Deflate.Envelope
import Stowage.Http.Message

/-!
Content encodings: how the body of a response was packed.

Encodings are named in the order in which they were applied. What is no known encoding does not
count.
-/

namespace Stowage.Http

/-- A way to pack a body. -/
inductive ContentEncoding where
  | identity
  | gzip
  /-- Deflated data, with something around it or bare. -/
  | deflate
  deriving DecidableEq, Repr

namespace ContentEncoding

/-- An encoding by its name. -/
def ofName? (name : String) : Option ContentEncoding :=
  match name with
  | "identity" => some .identity
  | "gzip" => some .gzip
  | "deflate" => some .deflate
  | _ => none

/-- The encodings that are named by a header. -/
def ofHeader (value : String) : List ContentEncoding :=
  (value.splitOn ",").filterMap fun name => ofName? (Text.lower (Text.trim name))

/-- A body unpacked. -/
def unpack : ContentEncoding → List Nat → Except Deflate.Fault (List Nat)
  | .identity, bytes => .ok bytes
  | .gzip, bytes => Deflate.Envelope.gzip.inflate bytes
  | .deflate, bytes =>
    match Deflate.Envelope.zlib.inflate bytes with
    | .ok out => .ok out
    | .error _ => Deflate.Envelope.bare.inflate bytes

end ContentEncoding

/-- A response with its body unpacked, from the last encoding to the first. The length is still
reported as it was received. -/
def Response.unpacked (r : Response) : Except Deflate.Fault Response :=
  match (r.headers.get? "Content-Encoding").map ContentEncoding.ofHeader with
  | none | some [] => .ok r
  | some encodings => do
    let body ← encodings.foldrM ContentEncoding.unpack r.body
    .ok { r with headers := r.allHeaders, body }

end Stowage.Http
