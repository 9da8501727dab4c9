import Courier.Schema.Scalar

/-!
# Records

A mapping read as a record. Each field has a name in the mapping and a second spelling; the first
is looked for first. Some records refuse entries that no field has read.
-/

namespace Courier.Schema

/-- The entries of a mapping that should describe a `name`. -/
def asRecord (name : String) : Data → Check (List (Data × Data))
  | .map entries => .accepted entries
  | _ => .refuse (.notModel name)

/-- The spellings of a field: the one that is written, and another one that is read as well. -/
structure FieldName where
  wire : String
  alternative : String
  deriving DecidableEq, Repr

namespace FieldName

/-- A field with one spelling. -/
def plain (name : String) : FieldName := ⟨name, name⟩

/-- The spelling under which the field stands in a mapping, and its value. -/
def find? (f : FieldName) (entries : List (Data × Data)) : Option (String × Data) :=
  match Data.lookup? entries (.text f.wire) with
  | some v => some (f.wire, v)
  | none => (Data.lookup? entries (.text f.alternative)).map fun v => (f.alternative, v)

/-- Reads a field that must be there. -/
def required {α : Type} (f : FieldName) (read : Data → Check α) (entries : List (Data × Data)) :
    Check α :=
  match f.find? entries with
  | some (name, v) => (read v).under (.field name)
  | none => .refused (.issues [⟨[.field f.wire], .missing⟩])

/-- Reads a field that has a default. -/
def optional {α : Type} (f : FieldName) (default : α) (read : Data → Check α)
    (entries : List (Data × Data)) : Check α :=
  match f.find? entries with
  | some (name, v) => (read v).under (.field name)
  | none => .accepted default

end FieldName

/-- The issue of an entry that no field has read. -/
def unexpectedIssue (key : Data) : Issue :=
  match key with
  | .text s => ⟨[.field s], .unexpected⟩
  | .bool b => ⟨[.index (if b then 1 else 0)], .badKey⟩
  | .int n => ⟨[.index n], .badKey⟩
  | k => ⟨[.field (k.literal?.getD "")], .badKey⟩

/-- Refuses entries that none of the fields reads. -/
def onlyFields (fields : List FieldName) (entries : List (Data × Data)) : Check Unit :=
  let used := fields.filterMap fun f => (f.find? entries).map Prod.fst
  let rest := entries.filter fun e =>
    match e.1 with
    | .text s => !used.contains s
    | _ => true
  if rest.isEmpty then .accepted ()
  else .refused (.issues (rest.map fun e => unexpectedIssue e.1))

/-- Texts with another one in front. A name that comes again keeps its last text, in the place of the
first. -/
def putText (name text : String) (rest : List (String × String)) : List (String × String) :=
  (name, (rest.lookup name).getD text) :: rest.filter fun e => e.1 != name

/-- A mapping from texts to texts. -/
def asTextMap (v : Data) : Check (List (String × String)) :=
  match v with
  | .map entries => entries.foldr (fun e rest =>
      let key : Check String := match asCharacters e.1 with
        | .accepted k => .accepted k
        | .refused why =>
          let step : Step := match e.1 with
            | .int n => .index n
            | .bool b => .index (if b then 1 else 0)
            | k => .field (k.literal?.getD "")
          .refused ((why.under (.field "[key]")).under step)
      let value : Check String :=
        (asCharacters e.2).under (match e.1 with
          | .text s => .field s
          | .int n => .index n
          | k => .field (k.literal?.getD ""))
      ((Check.map putText key).apply value).apply rest) (.accepted [])
  | _ => .refuse .notMapping

end Courier.Schema
