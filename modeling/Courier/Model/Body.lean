import Courier.Model.Entry

/-!
# Bodies of requests

How a request's body is given: as text, as JSON text, as the text of a file, or as form fields.
-/

namespace Courier

open Schema

/-- The form of a body (`BodyType`). -/
inductive BodyKind where
  | none
  | text
  | json
  | file
  | formData
  deriving DecidableEq, Repr, Inhabited

namespace BodyKind

/-- The kinds with their names. -/
def names : List (String × BodyKind) :=
  [("none", .none), ("text", .text), ("json", .json), ("file", .file), ("form-data", .formData)]

/-- The name of a kind. -/
def name : BodyKind → String
  | .none => "none"
  | .text => "text"
  | .json => "json"
  | .file => "file"
  | .formData => "form-data"

/-- Other spellings: any case, underscores for hyphens, and form data in one word. -/
def respell (s : String) : String :=
  let t := Text.lower (String.ofList (s.toList.map fun c => if c = '_' then '-' else c))
  if t = "formdata" then "form-data" else t

/-- Reads a kind. -/
def read : Data → Check BodyKind :=
  asChoice names fun s => some (respell s)

end BodyKind

/-- A body (`RequestBody`). Form fields are read for form data only, the content for the other
kinds. -/
structure Body where
  kind : BodyKind
  content : Option CodeText
  formData : Option (List Entry)
  deriving DecidableEq, Repr, Inhabited

namespace Body

/-- No body. -/
def absent : Body := ⟨.none, none, none⟩

/-- The field with the form fields. -/
def formDataField : FieldName := ⟨"formData", "form_data"⟩

/-- Reads form fields, null standing for none. -/
def readFormData : Data → Check (Option (List Entry))
  | .null => .accepted none
  | v => (asList Entry.read v).map some

/-- Reads a body. -/
def read (v : Data) : Check Body :=
  (asRecord "RequestBody" v).andThen fun r =>
    Body.mk <$> (FieldName.plain "type").optional .none BodyKind.read r
      <*> (FieldName.plain "content").optional none (asOptionalText true) r
      <*> formDataField.optional none readFormData r

/-- The body as a mapping. -/
def dump (b : Body) : Data :=
  .map [(.text "type", .text b.kind.name), (.text "content", optionalText b.content),
    (.text "formData", match b.formData with
      | none => .null
      | some fields => dumpList Entry.dump fields)]

end Body

end Courier
