import Courier.Schema.Record

/-!
# Entries

A name with a value: a header, a query parameter, a form field or a variable. An entry that is
switched off or has no name is inert.
-/

namespace Courier

open Schema

/-- A name with a value (`KeyValue`). -/
structure Entry where
  id : CodeText
  key : CodeText
  value : CodeText
  enabled : Bool
  deriving DecidableEq, Repr, Inhabited

namespace Entry

/-- Whether the entry has any effect. -/
def isActive (e : Entry) : Bool :=
  e.enabled && !e.key.isEmpty

/-- Reads an entry. -/
def read (v : Data) : Check Entry :=
  (asRecord "KeyValue" v).andThen fun r =>
    Entry.mk <$> (FieldName.plain "id").optional "" (asText true) r
      <*> (FieldName.plain "key").optional "" (asText true) r
      <*> (FieldName.plain "value").optional "" (asText true) r
      <*> (FieldName.plain "enabled").optional true asBool r

/-- The entry as a mapping. -/
def dump (e : Entry) : Data :=
  .map [(.text "id", .ofCodeText e.id), (.text "key", .ofCodeText e.key),
    (.text "value", .ofCodeText e.value), (.text "enabled", .bool e.enabled)]

end Entry

/-- The active entries of a list, as pairs of name and value. -/
def activePairs (entries : List Entry) : List (CodeText × CodeText) :=
  (entries.filter Entry.isActive).map fun e => (e.key, e.value)

/-- A text or null. -/
def optionalText : Option CodeText → Data
  | none => .null
  | some t => .ofCodeText t

/-- A list of dumped values. -/
def dumpList {α : Type} (dump : α → Data) (xs : List α) : Data :=
  .list (xs.map dump)

end Courier
