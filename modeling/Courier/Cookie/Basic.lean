import Courier.Number.Numeral
import Courier.Text.Blank
import Courier.Text.Lower
import Courier.Text.Percent
import Courier.Url.Basic

/-!
# Cookies

A cookie and the place that a request goes to, as far as cookies depend on it. A host without a dot
counts as one of the local network.
-/

namespace Courier

/-- A cookie. A domain with a dot in front also holds for hosts below it. -/
structure Cookie where
  name : String
  value : Option String
  domain : String
  path : String
  /-- The ports that the cookie is kept to, as they are listed. -/
  ports : Option String
  secure : Bool
  /-- The moment it expires at, in seconds from the beginning of 1970. -/
  expires : Option Int
  deriving DecidableEq, Repr

/-- Whether a cookie has expired. -/
def Cookie.hasExpired (now : Int) (c : Cookie) : Bool :=
  match c.expires with
  | none => false
  | some moment => moment ≤ now

/-- Where a request goes to. -/
structure CookieOrigin where
  scheme : String
  /-- The host, in the local network if it has no dot. -/
  fullHost : String
  path : String
  port : Option String
  deriving DecidableEq, Repr

namespace CookieOrigin

open Text

/-- A text without a port at its end. -/
def withoutPort (s : String) : String :=
  let reversed := s.toList.reverse
  match reversed.takeWhile Numeral.isDigit, reversed.dropWhile Numeral.isDigit with
  | _ :: _, ':' :: r => String.ofList r.reverse
  | _, _ => s

/-- The port that follows the first colon. -/
def portOf (authority : String) : Option String :=
  match (percentDecode authority).toList.dropWhile (· != ':') with
  | [] => some "80"
  | _ :: digits =>
    if !digits.isEmpty && digits.all Numeral.isDigit then some (String.ofList digits) else none

/-- Escapes with their digits in upper case. -/
def upperEscapes : List Char → List Char
  | '%' :: a :: b :: r =>
    if (hexDigit? a).isSome && (hexDigit? b).isSome then
      '%' :: a.toUpper :: b.toUpper :: upperEscapes r
    else '%' :: upperEscapes (a :: b :: r)
  | c :: r => c :: upperEscapes r
  | [] => []

/-- Whether a character stays as it is in a path. -/
def isSafe (c : Char) : Bool :=
  isUnreserved c || "%/;:@&=+$,!~*'()".toList.contains c

/-- A path in the form in which paths are compared. -/
def escapePath (s : String) : String :=
  String.ofList (upperEscapes (s.toList.flatMap (percentUnless isSafe)))

/-- Where a request for a URL goes to. -/
def ofUrl (u : Url) : CookieOrigin :=
  let host := lowerAscii (withoutPort u.authority)
  let path := escapePath u.path
  { scheme := u.scheme
    fullHost := if host.toList.contains '.' then host else host ++ ".local"
    path := if "/".toList.isPrefixOf path.toList then path else "/" ++ path
    port := portOf u.authority }

end CookieOrigin

/-- Whether a text ends in another. -/
def endsIn (s tail : String) : Bool := tail.toList.isSuffixOf s.toList

/-- Whether a text begins with another. -/
def beginsWith (s start : String) : Bool := start.toList.isPrefixOf s.toList

/-- A domain with a dot in front. -/
def dotted (domain : String) : String :=
  if domain.isEmpty || beginsWith domain "." then domain else "." ++ domain

end Courier
