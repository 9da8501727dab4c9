import Courier.Model.Body
import Courier.Header
import Courier.Text.EncodingFault

/-!
# Payloads

What a body is sent as: bytes as they are, or form fields, with the content type that is announced
unless the author gives one.
-/

namespace Courier

/-- What a body is sent as (`EncodedBody`). -/
structure Payload where
  content : Option (List UInt8)
  fields : Option (List (CodeText × CodeText))
  contentType : Option String
  deriving DecidableEq, Repr

namespace Payload

/-- Nothing to send. -/
def absent : Payload := ⟨none, none, none⟩

/-- The content type of JSON. -/
def jsonType : String := "application/json"

/-- The content type of form data between boundaries. -/
def multipartType (boundary : String) : String := "multipart/form-data; boundary=" ++ boundary

/-- Whether one of the headers in use gives a content type (`has_content_type_header`). -/
def namesContentType (headers : List Entry) : Bool :=
  headers.any fun h => h.enabled && h.key.toString?.any (Text.lower · == "content-type")

/-- A content type, unless the headers give one. -/
def defaultType (headers : List Entry) (type : String) : Option String :=
  if namesContentType headers then none else some type

/-- The delimiter that closes form data. -/
def closingLine (boundary : String) : String := "--" ++ boundary ++ "--\r\n"

/-- Content as it is sent. It has to be UTF-8. -/
def ofContent (content : CodeText) (type : Option String) : Except Text.EncodingFault Payload :=
  content.utf8.map fun s => ⟨some (Text.Utf8.encode s), none, type⟩

/-- What a body is sent as (`encode_body`). Form data without an active field is only the closing
delimiter; other form data is written later. The text of a file is not read here. -/
def ofBody (boundary : String) (body : Body) (headers : List Entry) :
    Except Text.EncodingFault Payload :=
  match body.kind with
  | .none => .ok absent
  | .file => .ok absent
  | .text =>
    match body.content with
    | none => .ok absent
    | some content => ofContent content none
  | .json =>
    match body.content with
    | none => .ok absent
    | some content => ofContent content (defaultType headers jsonType)
  | .formData =>
    match body.formData with
    | none => .ok absent
    | some entries =>
      let pairs := activePairs entries
      if pairs.isEmpty then
        .ok ⟨some (Text.Utf8.encode (closingLine boundary)), none,
          defaultType headers (multipartType boundary)⟩
      else .ok ⟨none, some pairs, none⟩

end Payload

end Courier
