import Courier.Text.Lower

/-!
# Headers

Header fields in the order in which they are sent. Two names that differ in the case of letters
are the same name. Writing a header replaces the first field of its name in place and removes the
others.
-/

namespace Courier

/-- Header fields, each a name and a value. -/
abbrev Headers := List (String × String)

namespace Headers

/-- Whether two names are the same. -/
def sameName (a b : String) : Bool :=
  Text.lowerAscii a == Text.lowerAscii b

/-- Whether there is a field of a name. -/
def has (hs : Headers) (name : String) : Bool :=
  hs.any fun h => sameName h.1 name

/-- The values of all fields of a name, joined by commas. -/
def get? (hs : Headers) (name : String) : Option String :=
  let values := (hs.filter fun h => sameName h.1 name).map Prod.snd
  if values.isEmpty then none else some (", ".intercalate values)

/-- The fields of other names. -/
def erase (hs : Headers) (name : String) : Headers :=
  hs.filter fun h => !sameName h.1 name

/-- Writes a header. -/
def set (hs : Headers) (name value : String) : Headers :=
  match hs with
  | [] => [(name, value)]
  | h :: rest =>
    if sameName h.1 name then (name, value) :: erase rest name else h :: set rest name value

/-- Writes a header unless there is one of its name. -/
def setDefault (hs : Headers) (name value : String) : Headers :=
  if hs.has name then hs else hs ++ [(name, value)]

/-- Writes headers one after another. -/
def setAll (hs : Headers) (writes : Headers) : Headers :=
  writes.foldl (fun hs w => set hs w.1 w.2) hs

/-- Base fields with other fields in the place of those of the same names. -/
def update (base other : Headers) : Headers :=
  base.filter (fun h => !other.has h.1) ++ other

end Headers

end Courier
