import Courier.Text.Quoted

/-!
# Methods

A method is a token: one or more letters, digits and certain marks. It is sent as it is written.
-/

namespace Courier

/-- Whether a character may stand in a token. -/
def isTokenChar (c : Char) : Bool :=
  ('0' ≤ c && c ≤ '9') || ('A' ≤ c && c ≤ 'Z') || ('a' ≤ c && c ≤ 'z') ||
    "!#$%&'*+-.^_`|~".toList.contains c

/-- Whether a text is a token. -/
def isToken (s : String) : Bool :=
  !s.isEmpty && s.toList.all isTokenChar

/-- The token that a text is (`validate_method`). -/
def token? (t : CodeText) : Option String :=
  t.toString?.filter isToken

/-- The words for a text that is no method. -/
def badMethodMessage (t : CodeText) : String :=
  "Invalid HTTP method: " ++ t.quoted

end Courier
