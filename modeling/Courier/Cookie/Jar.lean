import Courier.Cookie.Attribute
import Courier.Exchange.Message

/-!
# Cookie jars

The cookies that replies have set, by domain, path and name. A cookie that replaces another takes
its place, and a request carries all cookies that fit its host, path, scheme and port, those of
longer paths first.
-/

namespace Courier

/-- Cookies by domain, path and name, in the order in which these appeared. -/
structure CookieJar where
  domains : List (String × List (String × List (String × Cookie)))
  deriving DecidableEq, Repr

namespace CookieJar

/-- Changes the value of a key, which is put at the end if it is new. -/
def alter {α : Type} (d : α) (f : α → α) (key : String) : List (String × α) → List (String × α)
  | [] => [(key, f d)]
  | (k, v) :: rest => if k = key then (k, f v) :: rest else (k, v) :: alter d f key rest

/-- No cookies. -/
def empty : CookieJar := ⟨[]⟩

/-- Puts a cookie into the jar. -/
def keep (jar : CookieJar) (c : Cookie) : CookieJar :=
  ⟨alter [] (alter [] (alter c (fun _ => c) c.name) c.path) c.domain jar.domains⟩

/-- Takes the cookie of the same domain, path and name out of the jar. -/
def drop (jar : CookieJar) (c : Cookie) : CookieJar :=
  ⟨jar.domains.map fun d => if d.1 = c.domain then
      (d.1, d.2.map fun p => if p.1 = c.path then
        (p.1, p.2.filter fun e => e.1 != c.name) else p)
    else d⟩

/-- The cookies, domain by domain. -/
def cookies (jar : CookieJar) : List Cookie :=
  jar.domains.flatMap fun d => d.2.flatMap fun p => p.2.map Prod.snd

/-- The fields of a reply that set cookies. -/
def settings (reply : Reply) : List String :=
  (reply.headers.filter fun h => Headers.sameName h.1 "Set-Cookie").map Prod.snd

/-- What a field does to the jar that is dropped from before anything is kept. -/
def dropAll (jar : CookieJar) (effects : List CookieField.Effect) : CookieJar :=
  effects.foldl (fun jar e =>
    match e with
    | .drop c => jar.drop c
    | _ => jar) jar

/-- Keeps the cookies of fields. -/
def keepAll (jar : CookieJar) (effects : List CookieField.Effect) : CookieJar :=
  effects.foldl (fun jar e =>
    match e with
    | .keep c => jar.keep c
    | _ => jar) jar

/-- The jar after a reply to a request for a URL: what has expired is dropped, then the cookies of
the reply are kept in order. -/
def afterReply (now : Int) (jar : CookieJar) (u : Url) (reply : Reply) : CookieJar :=
  let origin := CookieOrigin.ofUrl u
  let effects := (settings reply).map (CookieField.effect now origin)
  if effects.contains .spoil then jar else (jar.dropAll effects).keepAll effects

/-- Whether a cookie's domain covers the host of a request. -/
def domainFits (origin : CookieOrigin) (domain : String) : Bool :=
  let domain := dotted domain
  endsIn ("." ++ origin.fullHost) domain

/-- Whether a cookie's path covers the path of a request. -/
def pathFits (origin : CookieOrigin) (path : String) : Bool :=
  origin.path == path ||
    (beginsWith origin.path path &&
      (endsIn path "/" || (origin.path.toList.drop path.length).head? == some '/'))

/-- Whether a request carries a cookie. -/
def fits (now : Int) (origin : CookieOrigin) (c : Cookie) : Bool :=
  domainFits origin c.domain && pathFits origin c.path &&
    (!c.secure || origin.scheme == "https" || origin.scheme == "wss") &&
    !c.hasExpired now &&
    (match c.ports with
      | none => true
      | some ports => ports.isEmpty ||
          ((Text.splitAtAll (· == ',') ports.toList).map String.ofList).contains
            (origin.port.getD "80"))

/-- A cookie as a request carries it. -/
def pairText (c : Cookie) : String :=
  match c.value with
  | none => c.name
  | some v => c.name ++ "=" ++ v

/-- The value of the header with the cookies of a request; none where there are no cookies. -/
def header? (now : Int) (jar : CookieJar) (u : Url) : Option String :=
  let fitting := jar.cookies.filter (fits now (CookieOrigin.ofUrl u))
  let sorted := fitting.mergeSort fun a b => b.path.length ≤ a.path.length
  if sorted.isEmpty then none else some ("; ".intercalate (sorted.map pairText))

end CookieJar

end Courier
