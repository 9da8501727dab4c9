import Courier.Cookie.Jar
import Courier.Credential
import Courier.Multipart
import Courier.Payload
import Courier.Text.EncodingFault

/-!
# Requests on the wire

How a request is completed before it is handed to the transport: the client's own headers, which
give way to the author's; the cookies that fit; the length of the body and, for form data, its
type; and in front the host. Form data has to be UTF-8, cookies and the host have to be ASCII.
Credentials in the URL take the place of any other.
-/

namespace Courier

/-- The name that the client gives itself. -/
def clientName : String := "python-httpx/0.28.1"

/-- The headers that the client sends with every request. -/
def clientHeaders : Headers :=
  [("Accept", "*/*"), ("Accept-Encoding", "gzip, deflate"), ("Connection", "keep-alive"),
    ("User-Agent", clientName)]

/-- A body on the wire with the headers that describe it. -/
structure WireBody where
  headers : Headers
  bytes : List UInt8
  deriving DecidableEq, Repr

namespace WireBody

/-- No body. -/
def empty : WireBody := ⟨[], []⟩

/-- The length of a body as a header writes it. -/
def lengthText (bytes : List UInt8) : String := toString bytes.length

/-- Bytes as they are; nothing is said about a body without bytes. -/
def ofContent (bytes : List UInt8) : WireBody :=
  if bytes.isEmpty then empty else ⟨[("Content-Length", lengthText bytes)], bytes⟩

/-- Form data between boundaries: those that the content type announces, or the one given. -/
def ofFields (boundary : String) (contentType : Option String)
    (fields : List (String × String)) : WireBody :=
  let boundary := (contentType.bind Multipart.boundaryOf?).getD boundary
  let bytes := Multipart.body (Text.Utf8.encode boundary) fields
  ⟨[("Content-Length", lengthText bytes), ("Content-Type", Payload.multipartType boundary)], bytes⟩

/-- The body of a payload. -/
def ofPayload (boundary : String) (contentType : Option String) (p : Payload) :
    Except Text.EncodingFault WireBody :=
  match p.content, p.fields with
  | some bytes, _ => .ok (ofContent bytes)
  | none, some fields => (CodeText.utf8Pairs fields).map (ofFields boundary contentType)
  | none, none => .ok empty

end WireBody

/-- Whether a method is one that always has a body. -/
def expectsBody (method : String) : Bool :=
  ["POST", "PUT", "PATCH"].contains (Text.upperAscii method)

/-- The headers that stand in front unless they are given. -/
def leadingHeaders (method : String) (url : Url) (headers : Headers) : Headers :=
  (if headers.has "Host" then [] else [("Host", url.netloc)]) ++
    (if headers.has "Content-Length" || headers.has "Transfer-Encoding" || !expectsBody method then
      []
    else [("Content-Length", "0")])

/-- What ASCII lacks of the host, unless the headers give one. -/
def hostFault? (url : Url) (headers : Headers) : Option Text.EncodingFault :=
  if headers.has "Host" then none else Text.EncodingFault.inAscii? url.netloc

/-- Headers completed by those of a body, then by those that stand in front. -/
def completeHeaders (method : String) (url : Url) (headers : Headers) (body : WireBody) : Headers :=
  let described := body.headers.foldl (fun hs h => hs.setDefault h.1 h.2) headers
  leadingHeaders method url described ++ described

/-- Adds the cookies that fit, unless cookies are given. They have to be ASCII. -/
def addCookies (now : Int) (jar : CookieJar) (url : Url) (headers : Headers) :
    Except Text.EncodingFault Headers :=
  match jar.header? now url with
  | none => .ok headers
  | some value =>
    if headers.has "Cookie" then .ok headers
    else
      match Text.EncodingFault.inAscii? value with
      | some fault => .error fault
      | none => .ok (headers.set "Cookie" value)

/-- The header for the credentials of a URL. -/
def urlCredentials? (url : Url) : Option String :=
  let cs := url.userinfo.toList
  let name := Text.percentDecode (String.ofList (cs.takeWhile (· != ':')))
  let password := Text.percentDecode (String.ofList ((cs.dropWhile (· != ':')).drop 1))
  if name.isEmpty && password.isEmpty then none
  else some (Auth.basicHeader (name ++ ":" ++ password))

namespace WireRequest

/-- A request with the author's headers, completed. -/
def complete (now : Int) (boundary : String) (jar : CookieJar) (method : String) (url : Url)
    (headers : Headers) (payload : Payload) : Except Text.EncodingFault WireRequest := do
  let headers ← addCookies now jar url (clientHeaders.update headers)
  let body ← WireBody.ofPayload boundary (headers.get? "Content-Type") payload
  match hostFault? url headers with
  | some fault => throw fault
  | none => return ⟨method, url, completeHeaders method url headers body, body.bytes⟩

/-- The request with the credentials of its URL. -/
def withUrlCredentials (r : WireRequest) : WireRequest :=
  match urlCredentials? r.url with
  | none => r
  | some value => { r with headers := r.headers.set "Authorization" value }

end WireRequest

end Courier
