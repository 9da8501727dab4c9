import Courier.Exchange.Outgoing
import Courier.Exchange.Status
import Courier.Url.Join

/-!
# Redirects

The request that follows a reply which names another place. Some statuses turn it into a `GET`
without a body; credentials stay behind when the origin changes, and cookies are chosen anew.
-/

namespace Courier

/-- Why there is no request to follow a redirect with. -/
inductive RedirectError where
  /-- The place named is no URL. -/
  | location (e : Url.Error)
  /-- The place named does not make up a URL with the one before. -/
  | unfit (e : Url.Error)
  /-- An encoded host does not decode. -/
  | unreadableHost
  /-- The host or the cookies are not ASCII. -/
  | encoding (fault : Text.EncodingFault)
  deriving DecidableEq, Repr

namespace Redirect

/-- The method after a reply. -/
def method (status : Int) (method : String) : String :=
  if (status == 303 || status == 302) && method != "HEAD" then "GET"
  else if status == 301 && method == "POST" then "GET"
  else method

/-- An unfit URL as an error. -/
def unfit (r : Except Url.Error Url) : Except RedirectError Url :=
  match r with
  | .ok u => .ok u
  | .error e => .error (.unfit e)

/-- The readable host of a URL. -/
def host (u : Url) : Except RedirectError String :=
  match u.readableHost? with
  | some h => .ok h
  | none => .error .unreadableHost

/-- The place that a reply names, with the host of the request if it has a scheme but no host, and
relative to the URL of the request otherwise. -/
def resolve (base : Url) (location : String) : Except RedirectError Url :=
  match Url.parse location with
  | .error e => .error (.location e)
  | .ok u => do
    let u ← if u.scheme.isEmpty then pure u
      else if (← host u).isEmpty then unfit (u.withHost (← host base)) else pure u
    if u.scheme.isEmpty || u.host.isEmpty then unfit (base.join u) else return u

/-- The URL after a reply. A fragment stays unless there is a new one. -/
def url (base : Url) (location : String) : Except RedirectError Url := do
  let u ← resolve base location
  if base.decodedFragment.isEmpty || !u.decodedFragment.isEmpty then return u
  else unfit (u.withFragment base.decodedFragment)

/-- The port that a URL uses, if it is known. -/
def effectivePort (u : Url) : Option Int :=
  match u.port, u.scheme with
  | some p, _ => some p
  | none, "http" => some 80
  | none, "https" => some 443
  | none, _ => none

/-- Whether two URLs have one origin: scheme, host and port. -/
def sameOrigin (a b : Url) : Except RedirectError Bool := do
  if a.scheme != b.scheme then return false
  return (← host a) == (← host b) && effectivePort a == effectivePort b

/-- Whether the new URL is the old one with a secure scheme. -/
def isUpgrade (old new : Url) : Except RedirectError Bool := do
  return (← host old) == (← host new) && old.scheme == "http" && effectivePort old == some 80 &&
    new.scheme == "https" && effectivePort new == some 443

/-- The headers as far as they depend on the origin. -/
def originHeaders (old new : Url) (headers : Headers) : Except RedirectError Headers := do
  if ← sameOrigin new old then return headers
  let kept := if ← isUpgrade old new then headers else headers.erase "Authorization"
  match Text.EncodingFault.inAscii? new.netloc with
  | some fault => throw (.encoding fault)
  | none => return kept.set "Host" new.netloc

/-- The request after a reply that names a place. -/
def next (now : Int) (jar : CookieJar) (r : WireRequest) (status : Int) (location : String) :
    Except RedirectError WireRequest := do
  let method := Redirect.method status r.method
  let url ← Redirect.url r.url location
  let headers ← originHeaders r.url url r.headers
  let switched := method != r.method && method == "GET"
  let headers :=
    if switched then (headers.erase "Content-Length").erase "Transfer-Encoding" else headers
  match addCookies now jar url (headers.erase "Cookie") with
  | .error fault => throw (.encoding fault)
  | .ok headers =>
    let method := Text.upperAscii method
    if switched then
      return ⟨method, url, completeHeaders method url headers .empty, []⟩
    else return ⟨method, url, headers, r.body⟩

end Redirect

/-- The place that a reply sends the client to. -/
def Reply.location? (r : Reply) : Option String :=
  if Status.isRedirect r.status then r.headers.get? "Location" else none

end Courier
