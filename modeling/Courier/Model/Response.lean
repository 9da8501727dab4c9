import Courier.Model.Entry

/-!
# Responses

What is kept of a response. Header names are in lower case and each has one value.
-/

namespace Courier

open Schema

/-- A response (`ResponseData`): its status, its headers and its body as text, with the time in
milliseconds and the size in bytes. -/
structure Response where
  status : Int
  statusText : String
  headers : List (String × String)
  body : String
  time : Int
  size : Int
  deriving DecidableEq, Repr, Inhabited

namespace Response

/-- The field with the words for the status. -/
def statusTextField : FieldName := ⟨"statusText", "status_text"⟩

/-- All fields. -/
def fields : List FieldName :=
  [.plain "status", statusTextField, .plain "headers", .plain "body", .plain "time",
    .plain "size"]

/-- The greatest status. -/
def maxStatus : Int := 65535

/-- Reads an integer that is not negative and at most `greatest`. -/
def readCount (greatest : Option Int) (v : Data) : Check Int :=
  (asInt v).andThen (inRange 0 greatest)

/-- Reads a response; no other entries are allowed. -/
def read (v : Data) : Check Response :=
  (asRecord "ResponseData" v).andThen fun r =>
    (fun status statusText headers body time size (_ : Unit) =>
        Response.mk status statusText headers body time size)
      <$> (FieldName.plain "status").required (readCount (some maxStatus)) r
      <*> statusTextField.required asCharacters r
      <*> (FieldName.plain "headers").optional [] asTextMap r
      <*> (FieldName.plain "body").optional "" asCharacters r
      <*> (FieldName.plain "time").required (readCount none) r
      <*> (FieldName.plain "size").required (readCount none) r
      <*> onlyFields fields r

/-- The response as a mapping. -/
def dump (r : Response) : Data :=
  .map [(.text "status", .int r.status), (.text "statusText", .text r.statusText),
    (.text "headers", .map (r.headers.map fun h => (.text h.1, .text h.2))),
    (.text "body", .text r.body), (.text "time", .int r.time), (.text "size", .int r.size)]

/-- One line on the response. -/
def headline (r : Response) : String :=
  toString r.status ++ " " ++ r.statusText ++ " in " ++ toString r.time ++ "ms, " ++
    toString r.size ++ " bytes"

end Response

end Courier
