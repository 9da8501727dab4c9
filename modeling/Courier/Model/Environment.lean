import Courier.Model.Entry

/-!
# Environments

Named sets of variables, and the outcome of looking for variables in them.
-/

namespace Courier

open Schema

/-- A named set of variables. -/
structure Environment where
  id : CodeText
  name : CodeText
  entries : List Entry
  deriving DecidableEq, Repr, Inhabited

namespace Environment

/-- Reads an environment. -/
def read (v : Data) : Check Environment :=
  (asRecord "Environment" v).andThen fun r =>
    Environment.mk <$> (FieldName.plain "id").optional "" (asText true) r
      <*> (FieldName.plain "name").optional "" (asText true) r
      <*> (FieldName.plain "variables").optional [] (asList Entry.read) r

/-- The environment as a mapping. -/
def dump (e : Environment) : Data :=
  .map [(.text "id", .ofCodeText e.id), (.text "name", .ofCodeText e.name),
    (.text "variables", dumpList Entry.dump e.entries)]

end Environment

/-- The variables that a text names, and those of them without a value. -/
structure VariableCheck where
  references : List CodeText
  missing : List CodeText
  deriving DecidableEq, Repr, Inhabited

namespace VariableCheck

/-- Whether every variable has a value. -/
def isValid (c : VariableCheck) : Bool := c.missing.isEmpty

/-- All fields. -/
def fields : List FieldName := [.plain "references", .plain "missing"]

/-- Reads a check; no other entries are allowed. -/
def read (v : Data) : Check VariableCheck :=
  (asRecord "VariableCheck" v).andThen fun r =>
    (fun references missing (_ : Unit) => VariableCheck.mk references missing)
      <$> (FieldName.plain "references").optional [] (asList (asText false)) r
      <*> (FieldName.plain "missing").optional [] (asList (asText false)) r
      <*> onlyFields fields r

/-- The check as a mapping. -/
def dump (c : VariableCheck) : Data :=
  .map [(.text "references", dumpList .ofCodeText c.references),
    (.text "missing", dumpList .ofCodeText c.missing)]

end VariableCheck

end Courier
