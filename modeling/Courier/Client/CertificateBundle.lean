import Courier.Files
import Courier.Text.Base64
import Courier.Text.EncodingFault

/-!
# Certificate bundles

A bundle is a text with blocks between lines that begin and end one. Every block of certificates
has to be readable, and there has to be at least one. What stands outside the blocks is a remark.
-/

namespace Courier.CertificateBundle

/-- Why a bundle cannot be used. -/
inductive Error where
  | file (e : FileError)
  | badPath
  /-- The path has a surrogate that keeps no byte. -/
  | unwritable (fault : Text.EncodingFault)
  | noCertificate
  | unreadable
  /-- The file for the secrets of connections, which is opened with the certificates. -/
  | secrets (path : String) (e : FileError)
  deriving DecidableEq, Repr

/-- The words for an error. -/
def Error.message : Error → String
  | .file e => e.reason
  | .badPath => "embedded null byte"
  | .unwritable fault => fault.message
  | .noCertificate =>
    "[X509: NO_CERTIFICATE_OR_CRL_FOUND] no certificate or crl found (_ssl.c:4166)"
  | .unreadable => "[X509] PEM lib (_ssl.c:4166)"
  | .secrets path e => e.reason ++ ": " ++ Text.quoted path

/-- A line without the white space at its end. -/
def trimEnd (line : List Char) : List Char :=
  (line.reverse.dropWhile fun c => c = ' ' || c = '\r' || c = '\t').reverse

/-- The lines of a text. -/
def lines (s : String) : List (List Char) :=
  (Text.splitAtAll (· == '\n') s.toList).map trimEnd

/-- The label of a line that begins or ends a block. -/
def label? (word : String) (line : List Char) : Option (List Char) :=
  let front := ("-----" ++ word ++ " ").toList
  let back := "-----".toList
  if front.isPrefixOf line && back.isSuffixOf (line.drop front.length) then
    some ((line.drop front.length).take (line.length - front.length - back.length))
  else none

/-- The label and the content of a block. -/
structure Block where
  label : List Char
  content : List Char
  deriving DecidableEq, Repr

/-- Reads blocks; none where one does not end as it began. The second argument is the block that is
open, its content backwards. -/
def blocks : List (List Char) → Option Block → Option (List Block)
  | [], none => some []
  | [], some _ => none
  | line :: rest, none =>
    match label? "BEGIN" line with
    | some label => blocks rest (some ⟨label, []⟩)
    | none => blocks rest none
  | line :: rest, some b =>
    match label? "END" line with
    | some label => if label = b.label then (blocks rest none).map (b :: ·) else none
    | none => blocks rest (some { b with content := b.content ++ line })

/-- Whether the label of a block is one of certificates. -/
def isCertificate (b : Block) : Bool :=
  ["CERTIFICATE", "X509 CERTIFICATE", "TRUSTED CERTIFICATE", "X509 CRL"].contains
    (String.ofList b.label)

/-- The length that a record announces, with what follows the length. -/
def recordLength? (bytes : List UInt8) : Option (Nat × List UInt8) :=
  match bytes with
  | [] => none
  | b :: rest =>
    if b < 0x80 then some (b.toNat, rest)
    else
      let count := b.toNat - 0x80
      let digits := rest.take count
      if count = 0 || digits.length < count then none
      else some (digits.foldl (fun n d => 256 * n + d.toNat) 0, rest.drop count)

/-- Whether the content of a block is one record that holds records. -/
def isReadable (b : Block) : Bool :=
  match Text.Base64.decode? b.content with
  | some (kind :: rest) =>
    kind == 0x30 && (match recordLength? rest with
      | some (length, content) => length == content.length && content.head? == some 0x30
      | none => false)
  | _ => false

/-- Checks the content of a bundle. -/
def check (content : List UInt8) : Except Error Unit :=
  match blocks (lines (Text.Utf8.decodeLossy content)) none with
  | none => .error .unreadable
  | some all =>
    let certificates := all.filter isCertificate
    if !certificates.all isReadable then .error .unreadable
    else if certificates.isEmpty then .error .noCertificate
    else .ok ()

/-- Checks a bundle by its path. There is no file whose name has bytes that are no text. -/
def load (fs : Files) (path : CodeText) : Except Error Unit :=
  match Text.EncodingFault.inBytes? path.codes with
  | some fault => .error (.unwritable fault)
  | none =>
    if path.contains (.char '\x00') then .error .badPath
    else
      match path.toString? with
      | none => .error (.file (.missing path.shown))
      | some path =>
        match fs.content (FilePath.ofText path) with
        | .error e => .error (.file e)
        | .ok content => check content

end Courier.CertificateBundle
