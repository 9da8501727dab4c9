import Courier.Cookie.Basic
import Courier.Cookie.Date

/-!
# Reading cookies

What a reply says about a cookie: its name and value, and attributes behind semicolons. A cookie
with an attribute that lacks its value is dropped, one that has expired takes an earlier one with
it, and one for a foreign domain is refused.
-/

namespace Courier.CookieField

open Text

/-- A name and a value, which may be missing. -/
abbrev Pair := String × Option String

/-- Reads `name=value`. -/
def readPair (section_ : List Char) : Pair :=
  let cs := trimWhile isBlankChar section_
  let name := trimWhile isBlankChar (cs.takeWhile (· != '='))
  match cs.dropWhile (· != '=') with
  | [] => (String.ofList name, none)
  | _ :: value => (String.ofList name, some (String.ofList (trimWhile isBlankChar value)))

/-- A text without quotes at its ends. -/
def unquote (s : String) : String :=
  let cs := s.toList
  let cs := if cs.head? == some '"' then cs.drop 1 else cs
  String.ofList (if cs.getLast? == some '"' then cs.dropLast else cs)

/-- What the attributes of a cookie say, as far as they are read. -/
structure Attributes where
  version : Option String
  expires : Option Int
  hasAge : Bool
  domain : Option String
  path : Option String
  /-- The ports; the inner value is missing where only the request's own port counts. -/
  ports : Option (Option String)
  secure : Option Bool
  deriving Repr

/-- No attribute. -/
def Attributes.empty : Attributes := ⟨none, none, false, none, none, none, none⟩

/-- An integer as attributes write it. -/
def integer? (s : String) : Option Int :=
  (Numeral.integerDigits? s).map fun d => Numeral.ofSignedDigits d.1 d.2

/-- What a faulty attribute makes unusable. -/
inductive Fault where
  | cookie
  | reply
  deriving DecidableEq, Repr

/-- A value that must be there. -/
def needed (v : Option String) : Except Fault String :=
  match v with
  | some s => .ok s
  | none => .error .cookie

/-- The moment at which something of an age has expired. An age without a value spoils all cookies
of its reply. -/
def momentOfAge (now : Int) (v : Option String) : Except Fault Int :=
  match v with
  | none => .error .reply
  | some s =>
    match integer? s with
    | none => .error .cookie
    | some age => .ok (now + age)

/-- Adds an attribute to those before it. Only the first of a name counts, but an age overrides all
dates. -/
def Attributes.add (now : Int) (a : Attributes) (p : Pair) : Except Fault Attributes :=
  match Text.lower p.1 with
  | "secure" =>
    if a.secure.isSome then .ok a
    else .ok { a with secure := some ((p.2.map fun v => !v.isEmpty).getD true) }
  | "domain" =>
    if a.domain.isSome then .ok a
    else (needed p.2).map fun v => { a with domain := some (Text.lower v) }
  | "path" =>
    if a.path.isSome then .ok a else (needed p.2).map fun v => { a with path := some v }
  | "port" =>
    if a.ports.isSome then .ok a else .ok { a with ports := some p.2 }
  | "version" =>
    if a.version.isSome then .ok a
    else (needed p.2).map fun v => { a with version := some (unquote v) }
  | "expires" =>
    if a.hasAge || a.expires.isSome then .ok a
    else .ok { a with expires := p.2.bind fun v => CookieDate.read? now (unquote v) }
  | "max-age" =>
    (momentOfAge now p.2).map fun moment => { a with hasAge := true, expires := some moment }
  | _ => .ok a

/-- Adds attributes in order. -/
def Attributes.addAll (now : Int) : Attributes → List Pair → Except Fault Attributes
  | a, [] => .ok a
  | a, p :: rest =>
    if p.1.isEmpty then addAll now a rest
    else
      match a.add now p with
      | .ok a => addAll now a rest
      | .error f => .error f

/-- The version that a cookie is written in; none where it is no number. -/
def Attributes.version? (a : Attributes) : Option Int :=
  match a.version with
  | none => some 0
  | some v => integer? v

/-- The directory of a request's path, with its slash for cookies of the first version. -/
def defaultPath (version : Int) (path : String) : String :=
  let upTo := (path.toList.reverse.dropWhile (· != '/')).reverse
  let kept := if version = 0 then upTo.dropLast else upTo
  if kept.isEmpty then "/" else String.ofList kept

/-- The cookie of a field. -/
def cookie (origin : CookieOrigin) (first : Pair) (a : Attributes) (version : Int) : Cookie :=
  { name := first.1
    value := first.2
    domain := match a.domain with
      | none => origin.fullHost
      | some d => if beginsWith d "." then d else "." ++ d
    path := match a.path with
      | some p => if p.isEmpty then defaultPath version origin.path else CookieOrigin.escapePath p
      | none => defaultPath version origin.path
    ports := match a.ports with
      | none => none
      | some none => origin.port
      | some (some p) => some (String.ofList (p.toList.filter fun c => !isBlankChar c))
    secure := a.secure.getD false
    expires := a.expires }

/-- Whether a host may set cookies for a domain that it names. -/
def allowsDomain (origin : CookieOrigin) (domain : String) : Bool :=
  let bare := if beginsWith domain "." then String.ofList (domain.toList.drop 1) else domain
  (bare.toList.contains '.' || endsIn origin.fullHost ".local") &&
    (endsIn origin.fullHost domain || endsIn origin.fullHost (bare ++ ".local") ||
      beginsWith origin.fullHost "." || endsIn ("." ++ origin.fullHost) domain)

/-- Whether a listed port is the one that the request went to. -/
def allowsPorts (origin : CookieOrigin) (ports : String) : Bool :=
  let own := origin.port.getD "80"
  let listed := (splitAtAll (· == ',') ports.toList).map String.ofList
  let upTo := listed.takeWhile (· != own)
  upTo.all (fun p => (integer? p).isSome) && upTo.length < listed.length

/-- What a field does to the cookies that are kept. -/
inductive Effect where
  | none
  | keep (c : Cookie)
  | drop (c : Cookie)
  /-- No field of the reply does anything. -/
  | spoil
  deriving DecidableEq, Repr

/-- Whether a cookie may be kept. Versions from two on are unknown. -/
def allows (origin : CookieOrigin) (version : Int) (a : Attributes) (c : Cookie) : Bool :=
  version ≤ 1 && (a.domain.isNone || allowsDomain origin c.domain) &&
    (match a.ports, c.ports with
      | some (some _), some ports => allowsPorts origin ports
      | _, _ => true)

/-- Reads a field. -/
def effect (now : Int) (origin : CookieOrigin) (field : String) : Effect :=
  match (splitAtAll (· == ';') field.toList).map readPair with
  | [] => .none
  | first :: rest =>
    if first.1.isEmpty then .none
    else
      match Attributes.addAll now .empty rest with
      | .error .cookie => .none
      | .error .reply => .spoil
      | .ok a =>
        match a.version? with
        | Option.none => .none
        | some version =>
          let c := cookie origin first a version
          if c.hasExpired now then .drop c
          else if allows origin version a c then .keep c
          else .none

end Courier.CookieField
