import Courier.Domain.Name
import Courier.Text.Percent
import Courier.Text.Quoted

/-!
# URLs

A URL in its parts, every part in ASCII with the escapes that its place needs. The host stands
without the brackets that an IPv6 address has in a URL, a port only if it is not the scheme's own,
and an empty query is not the same as none.
-/

namespace Courier

/-- The parts of a URL. -/
structure Url where
  scheme : String
  userinfo : String
  host : String
  port : Option Int
  path : String
  query : Option String
  fragment : Option String
  deriving DecidableEq, Repr, Inhabited

namespace Url

/-- The parts that can be given on their own. -/
inductive Component where
  | scheme
  | authority
  | host
  | path
  | query
  | fragment
  deriving DecidableEq, Repr

/-- The name of a part. -/
def Component.name : Component → String
  | .scheme => "scheme"
  | .authority => "authority"
  | .host => "host"
  | .path => "path"
  | .query => "query"
  | .fragment => "fragment"

/-- Why a text is no URL. -/
inductive Error where
  | tooLong
  | unprintable (c : Char) (position : Nat)
  | componentTooLong (part : Component)
  | componentUnprintable (part : Component) (c : Char) (position : Nat)
  | componentInvalid (part : Component)
  | ipv4 (host : CodeText)
  | ipv6 (host : CodeText)
  | domain (host : CodeText)
  | port (text : CodeText)
  | pathWithoutSlash
  | pathDoubleSlash
  | pathColon
  deriving DecidableEq, Repr

/-- The words for an error. -/
def Error.message : Error → String
  | .tooLong => "URL too long"
  | .unprintable c i =>
    "Invalid non-printable ASCII character in URL, " ++ Text.quoted (String.singleton c) ++
      " at position " ++ toString i ++ "."
  | .componentTooLong part => "URL component '" ++ part.name ++ "' too long"
  | .componentUnprintable part c i =>
    "Invalid non-printable ASCII character in URL " ++ part.name ++ " component, " ++
      Text.quoted (String.singleton c) ++ " at position " ++ toString i ++ "."
  | .componentInvalid part => "Invalid URL component '" ++ part.name ++ "'"
  | .ipv4 host => "Invalid IPv4 address: " ++ host.quoted
  | .ipv6 host => "Invalid IPv6 address: " ++ host.quoted
  | .domain host => "Invalid IDNA hostname: " ++ host.quoted
  | .port text => "Invalid port: " ++ text.quoted
  | .pathWithoutSlash => "For absolute URLs, path must be empty or begin with '/'"
  | .pathDoubleSlash => "Relative URLs cannot have a path starting with '//'"
  | .pathColon => "Relative URLs cannot have a path starting with ':'"

/-- The host as it stands in a URL. -/
def bracketedHost (u : Url) : String :=
  if u.host.toList.contains ':' then "[" ++ u.host ++ "]" else u.host

/-- Host and port. -/
def netloc (u : Url) : String :=
  u.bracketedHost ++ (match u.port with
    | some p => ":" ++ toString p
    | none => "")

/-- User information, host and port. -/
def authority (u : Url) : String :=
  (if u.userinfo.isEmpty then "" else u.userinfo ++ "@") ++ u.netloc

/-- The text of a URL. -/
def text (u : Url) : String :=
  (if u.scheme.isEmpty then "" else u.scheme ++ ":") ++
    (if u.authority.isEmpty then "" else "//" ++ u.authority) ++ u.path ++
    (match u.query with
      | some q => "?" ++ q
      | none => "") ++
    (match u.fragment with
      | some f => "#" ++ f
      | none => "")

/-- The path and the query as they are asked for. -/
def target (u : Url) : String :=
  (if u.path.isEmpty then "/" else u.path) ++ (match u.query with
    | some q => "?" ++ q
    | none => "")

/-- The path without escapes. -/
def decodedPath (u : Url) : String :=
  Text.percentDecode (if u.path.isEmpty then "/" else u.path)

/-- The fragment without escapes. -/
def decodedFragment (u : Url) : String :=
  Text.percentDecode (u.fragment.getD "")

/-- The host in its readable form; none where an encoded host does not decode. -/
def readableHost? (u : Url) : Option String :=
  if "xn--".toList.isPrefixOf u.host.toList then Domain.toUnicode? u.host else some u.host

/-- The port that a scheme uses by itself. -/
def defaultPort? (scheme : String) : Option Int :=
  match scheme with
  | "ftp" => some 21
  | "http" => some 80
  | "https" => some 443
  | "ws" => some 80
  | "wss" => some 443
  | _ => none

end Url

end Courier
