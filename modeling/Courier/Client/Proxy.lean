import Courier.ProcessEnvironment
import Courier.Text.Blank
import Courier.Text.Lower
import Courier.Url.Read

/-!
# Proxies

The proxies that the process environment names: one for a scheme, in a variable that ends in
`_proxy`, and hosts that are reached without any. A variable in lower case goes before others.

A value is taken as code points, since a byte of it that is no text is kept as a surrogate. Such a
byte has no escape, so a URL that would need one for it cannot be read.
-/

namespace Courier

/-- Why the proxies of the environment cannot be used. -/
inductive ProxyError where
  | malformed (e : Url.Error)
  | unwritable (f : Text.EncodingFault)
  | unknownScheme (url : Url)
  | unreadableHost
  | socks
  deriving DecidableEq, Repr

namespace Proxy

open Text

/-- The code points of a text. -/
def codes (s : String) : List Nat := s.toList.map Char.toNat

/-- The name of what a variable sets, in lower case, if it is about proxies. -/
def subject? (name : String) : Option String :=
  let cs := name.toList
  let size := cs.length
  let ending := String.ofList (cs.drop (size - 6))
  if 5 < size && Text.lower ending == "_proxy" then
    some (Text.lower (String.ofList (cs.take (size - 6))))
  else none

/-- Whether a variable is written in lower case at its end. -/
def isLower (name : String) : Bool := "_proxy".toList.isSuffixOf name.toList

/-- Sets a value, the name kept in its place. -/
def put (settings : List (String × List Nat)) (name : String) (value : List Nat) :
    List (String × List Nat) :=
  if settings.any fun s => s.1 == name then
    settings.map fun s => if s.1 = name then (name, value) else s
  else settings ++ [(name, value)]

/-- What the environment says about proxies. A program that answers requests itself does not take a
proxy from them. -/
def settings (env : ProcessEnvironment) : List (String × List Nat) :=
  let named := env.values.filterMap fun v => (subject? v.1).map fun name => (v.1, name, v.2)
  let all := named.foldl (fun found v => if v.2.2.isEmpty then found else put found v.2.1 v.2.2) []
  let trusted := if (env.value? (Utf8.encode "REQUEST_METHOD")).isSome then
      all.filter fun s => s.1 != "http"
    else all
  (named.filter fun v => isLower v.1).foldl (fun found v =>
    if v.2.2.isEmpty then found.filter fun s => s.1 != v.2.1 else put found v.2.1 v.2.2) trusted

/-- Whether a text has a scheme. -/
def hasScheme (text : List Nat) : Bool :=
  ((splitAtAll (· == ':'.toNat) text).drop 1).any fun r => (codes "//").isPrefixOf r

/-- A text without the white space at its ends. -/
def trimmed (text : List Nat) : List Nat :=
  let isBlank (n : Nat) : Bool := isBlankChar (Char.ofNat n)
  ((text.dropWhile isBlank).reverse.dropWhile isBlank).reverse

/-- The hosts that are reached without a proxy. -/
def exceptions (settings : List (String × List Nat)) : List (List Nat) :=
  (splitAtAll (· == ','.toNat) ((settings.lookup "no").getD [])).map trimmed

/-- The URLs of the proxies. A scheme that is an exception has none. -/
def urls (settings : List (String × List Nat)) : List (List Nat) :=
  ["http", "https", "all"].filterMap fun scheme => do
    let host ← settings.lookup scheme
    if host.isEmpty || (exceptions settings).contains (codes (scheme ++ "://")) then none
    return if hasScheme host then host else codes "http://" ++ host

/-- The form of an exception in which it is matched. -/
def pattern (host : List Nat) : List Nat :=
  let cs := (Url.standing Url.standIn (.ofCodes host)).toList
  if hasScheme host then host
  else if Url.isIpv4 (cs.takeWhile (· != '/')) then codes "all://" ++ host
  else if Url.isIpv6 (cs.takeWhile (· != '/')) then codes "all://[" ++ host ++ codes "]"
  else if Text.lower (String.ofList cs) == "localhost" then codes "all://" ++ host
  else codes "all://*" ++ host

/-- A result about a URL as one about a proxy. -/
def ofUrl (r : Except Url.Error Url) : Except ProxyError Url :=
  match r with
  | .ok u => .ok u
  | .error e => .error (.malformed e)

/-- Reads a URL. -/
def parse (text : List Nat) : Except ProxyError Url :=
  match Url.read (.ofCodes text) with
  | .ok u => .ok u
  | .error (.invalid e) => .error (.malformed e)
  | .error (.unwritable f) => .error (.unwritable f)

/-- The schemes of proxies. -/
def schemes : List String := ["http", "https", "socks5", "socks5h"]

/-- Reads the URL of a proxy. User information is taken out of it. -/
def read (text : List Nat) : Except ProxyError Url := do
  let u ← parse text
  if !schemes.contains u.scheme then throw (.unknownScheme u)
  if u.userinfo == "" || u.userinfo == ":" then return u
  ofUrl u.withoutUserinfo

/-- Refuses a proxy to which nothing can be sent. -/
def checkTransport (u : Url) : Except ProxyError Unit :=
  if u.scheme == "socks5" || u.scheme == "socks5h" then .error .socks
  else
    match EncodingFault.inAscii? u.host with
    | some f => .error (.unwritable f)
    | none => .ok ()

/-- Refuses an exception that is no URL. -/
def checkPattern (text : List Nat) : Except ProxyError Unit := do
  let u ← parse text
  if u.readableHost?.isNone then throw .unreadableHost

/-- The proxies of an environment and the exceptions; neither where everything is an exception. -/
def ofEnvironment (env : ProcessEnvironment) : List (List Nat) × List (List Nat) :=
  let found := settings env
  let hosts := exceptions found
  if hosts.contains (codes "*") then ([], [])
  else (urls found, (hosts.filter fun h => !h.isEmpty).map pattern)

/-- A URL for a message: the password is not shown. -/
def maskedText (u : Url) : String :=
  let cs := u.userinfo.toList
  let shown := if cs.contains ':' then String.ofList (cs.takeWhile (· != ':')) ++ ":[secure]"
    else u.userinfo
  { u with userinfo := shown }.text

end Proxy

/-- The words for an error. Those for an encoded host that does not decode differ by what is wrong
with it, and are left out. -/
def ProxyError.message : ProxyError → String
  | .malformed e => e.message
  | .unwritable f => f.message
  | .unknownScheme u =>
    "Unknown scheme for proxy URL URL(" ++ Text.quoted (Proxy.maskedText u) ++ ")"
  | .unreadableHost => "<detail>"
  | .socks => "Using SOCKS proxy, but the 'socksio' package is not installed. Make sure to " ++
      "install httpx using \x60pip install httpx[socks]\x60."

/-- Whether an error is one of the values that a client is built from. A text that is no URL and a
package that is missing are errors of their own. -/
def ProxyError.isValueError : ProxyError → Bool
  | .malformed _ => false
  | .socks => false
  | _ => true

end Courier
