import Courier.Text.Utf8
import Courier.Header
import Courier.Text.Percent
import Courier.Text.Blank

/-!
# Form data

Fields as the parts of one body. A delimiter with the boundary stands before each part, and a
closing delimiter after the last; a part is a header with the name of its field, an empty line and
the value. `split` takes such a body apart again.
-/

namespace Courier.Multipart

/-- One character of a name between quotes: quotes, backslashes and most control characters are
escaped. -/
def nameChar (c : Char) : List Char :=
  if c = '"' then ['%', '2', '2']
  else if c = '\\' then ['\\', '\\']
  else if c.toNat < 0x20 ∧ c.toNat ≠ 0x1B then Text.percentByte (UInt8.ofNat c.toNat)
  else [c]

/-- A name between quotes. -/
def escapeName (name : String) : String :=
  String.ofList (name.toList.flatMap nameChar)

/-- The header of a part. -/
def partHeader (name : String) : String :=
  "Content-Disposition: form-data; name=\"" ++ escapeName name ++ "\"\r\n\r\n"

/-- A part with its delimiter. -/
def partBytes (boundary : List UInt8) (field : String × String) : List UInt8 :=
  Text.Utf8.encode "--" ++ boundary ++ Text.Utf8.encode "\r\n" ++
    Text.Utf8.encode (partHeader field.1) ++ Text.Utf8.encode field.2 ++ Text.Utf8.encode "\r\n"

/-- Fields as one body. -/
def body (boundary : List UInt8) (fields : List (String × String)) : List UInt8 :=
  fields.flatMap (partBytes boundary) ++
    (Text.Utf8.encode "--" ++ boundary ++ Text.Utf8.encode "--\r\n")

/-- The boundary that a content type announces for form data. -/
def boundaryOf? (contentType : String) : Option String :=
  let cs := contentType.toList
  if "multipart/form-data".toList.isPrefixOf cs && cs.contains ';' then
    let mark := "boundary=".toList
    let sections := (Text.splitAtAll (· == ';') cs).map (Text.trimWhile Text.isAsciiBlank)
    (sections.find? fun s => mark.isPrefixOf (Text.lowerAscii (String.ofList s)).toList).map
      fun s => String.ofList (Text.trimWhile (· == '"') (s.drop mark.length))
  else none

/-- The pieces of bytes between the occurrences of a delimiter, which are taken from the left. -/
def splitAtMark (mark : List UInt8) : List UInt8 → Nat → List UInt8 → List (List UInt8)
  | piece, _, [] => [piece.reverse]
  | piece, skip + 1, _ :: rest => splitAtMark mark piece skip rest
  | piece, 0, b :: rest =>
    if mark.isPrefixOf (b :: rest) then
      piece.reverse :: splitAtMark mark [] (mark.length - 1) rest
    else splitAtMark mark (b :: piece) 0 rest

/-- The parts of a body: what stands between its delimiters, without the line break at either end.
There are none where the closing delimiter is missing. -/
def split (boundary body : List UInt8) : Option (List (List UInt8)) :=
  let pieces := splitAtMark (Text.Utf8.encode "--" ++ boundary) [] 0 body
  let lineBreak := Text.Utf8.encode "\r\n"
  match pieces.head?, pieces.getLast? with
  | some [], some tail =>
    if tail = Text.Utf8.encode "--\r\n" then
      (pieces.drop 1).dropLast.mapM fun p =>
        if lineBreak.isPrefixOf p && lineBreak.isSuffixOf (p.drop 2) then
          some ((p.drop 2).take (p.length - 4))
        else none
    else none
  | _, _ => none

end Courier.Multipart
