import Courier.Compression.Container
import Courier.Exchange.Message
import Courier.Text.Blank

/-!
# Content codings

How the bytes of a body are taken out of what the reply carries. A reply names its codings in the
order in which they were applied; unknown ones are ignored. Decoding goes piece by piece: a piece
gives what can be decoded with it and could not be before.
-/

namespace Courier

/-- A coding. -/
inductive Coding where
  | identity
  | gzip
  | deflate
  deriving DecidableEq, Repr

/-- What pieces decode to: one output for each piece up to the first that is corrupt. -/
structure Decoded where
  pieces : List (List UInt8)
  corruption : Option Compression.Corruption
  deriving DecidableEq, Repr

namespace Coding

/-- The coding of a name. -/
def ofName? (name : String) : Option Coding :=
  match name with
  | "identity" => some .identity
  | "gzip" => some .gzip
  | "deflate" => some .deflate
  | _ => none

/-- The codings that a reply names. -/
def ofHeaders (headers : Headers) : List Coding :=
  let values := (headers.filter fun h => Headers.sameName h.1 "Content-Encoding").map Prod.snd
  (values.flatMap fun v => Text.splitAtAll (· == ',') v.toList).filterMap fun name =>
    ofName? (Text.lower (Text.trim (String.ofList name)))

/-- Decodes pieces that follow `before`, of which `known` bytes of output are known already. -/
def decompressFrom (c : Compression.Container) (before : List UInt8) (known : Nat) :
    List (List UInt8) → Decoded
  | [] => ⟨[], none⟩
  | piece :: rest =>
    let input := before ++ piece
    match Compression.decompress c input with
    | .error corruption => ⟨[], some corruption⟩
    | .ok output =>
      let later := decompressFrom c input output.length rest
      { later with pieces := output.drop known :: later.pieces }

/-- The frame of deflated data: the short one unless the first piece does not fit it. -/
def deflateContainer (pieces : List (List UInt8)) : Compression.Container :=
  match pieces with
  | [] => .short
  | first :: _ =>
    match Compression.decompress .short first with
    | .ok _ => .short
    | .error _ => .bare

/-- Takes one coding off. -/
def decode (c : Coding) (pieces : List (List UInt8)) : Decoded :=
  match c with
  | .identity => ⟨pieces, none⟩
  | .gzip => decompressFrom .file [] 0 pieces
  | .deflate => decompressFrom (deflateContainer pieces) [] 0 pieces

/-- Takes codings off, the last one first. -/
def decodeAll (codings : List Coding) (pieces : List (List UInt8)) : Decoded :=
  codings.reverse.foldl (fun d c =>
    let next := decode c d.pieces
    { next with corruption := next.corruption.orElse fun _ => d.corruption }) ⟨pieces, none⟩

end Coding

namespace Reply

/-- The body as a reader sees it: pieces that are not empty, and the fault that ends them. -/
structure Body where
  pieces : List (List UInt8)
  fault : Option Fault
  deriving DecidableEq, Repr

/-- The body of a reply. -/
def body (r : Reply) : Body :=
  let decoded := Coding.decodeAll (Coding.ofHeaders r.headers)
    (r.chunks.filter fun c => !c.isEmpty)
  { pieces := decoded.pieces.filter fun p => !p.isEmpty
    fault := match decoded.corruption with
      | some c => some (Fault.of .decodingError c.message)
      | none => r.fault }

end Reply

end Courier
