import Courier.Url.Host

/-!
# Reading URLs

A text is cut at its marks into scheme, authority, path, query and fragment, each of which may be
missing, and every part is brought into its normal form. The same normalisation serves a URL that
is put together from parts.
-/

namespace Courier.Url

/-- The greatest length of a URL, and of any of its parts. -/
def maxLength : Nat := 65536

/-- ASCII characters that have no place in a URL. -/
def isControl (c : Char) : Bool :=
  c.toNat < 0x20 || c.toNat == 0x7F

/-- Marks with an escape in every part after the authority. -/
def isQuerySafe (c : Char) : Bool :=
  0x20 < c.toNat && c.toNat < 0x7F && !("\"#<>".toList.contains c)

/-- Marks that a fragment keeps. -/
def isFragmentSafe (c : Char) : Bool :=
  0x20 < c.toNat && c.toNat < 0x7F && !("\"<>`".toList.contains c)

/-- Marks that a path keeps. -/
def isPathSafe (c : Char) : Bool :=
  isQuerySafe c && !("?`\x7b\x7d".toList.contains c)

/-- Marks that user information keeps. -/
def isUserinfoSafe (c : Char) : Bool :=
  isPathSafe c && !("/;=@[\\]^|".toList.contains c)

/-- The parts of a text, before any normalisation. -/
structure Parts where
  scheme : String
  userinfo : String
  host : String
  port : String
  path : String
  query : Option String
  fragment : Option String
  deriving DecidableEq, Repr

/-- Whether a character may follow the first letter of a scheme. -/
def isSchemeChar (c : Char) : Bool :=
  ('a' ≤ c && c ≤ 'z') || ('A' ≤ c && c ≤ 'Z') || ('0' ≤ c && c ≤ '9') || c == '+' || c == '.' ||
    c == '-'

/-- Whether a text can be a scheme; it may be empty. -/
def isScheme (cs : List Char) : Bool :=
  match cs with
  | [] => true
  | c :: r => (('a' ≤ c && c ≤ 'z') || ('A' ≤ c && c ≤ 'Z')) && r.all isSchemeChar

/-- The scheme before the first colon, and what follows the colon. -/
def splitScheme (cs : List Char) : List Char × List Char :=
  let front := cs.takeWhile (· != ':')
  match cs.drop front.length with
  | ':' :: r => if isScheme front then (front, r) else ([], cs)
  | _ => ([], cs)

/-- The part before the first of some marks, and the rest with the mark. -/
def splitBefore (stop : Char → Bool) (cs : List Char) : List Char × List Char :=
  (cs.takeWhile fun c => !stop c, cs.dropWhile fun c => !stop c)

/-- User information, host and port of an authority. Everything up to the last `@` is user
information; a host in brackets ends at the last bracket. -/
def splitAuthority (cs : List Char) : List Char × List Char × List Char :=
  let rest := (cs.reverse.takeWhile (· != '@')).reverse
  let userinfo := if cs.contains '@' then cs.take (cs.length - rest.length - 1) else []
  let inBrackets := (rest.reverse.dropWhile (· != ']')).reverse
  let host :=
    if rest.head? == some '[' && !inBrackets.isEmpty then inBrackets
    else rest.takeWhile (· != ':')
  match rest.drop host.length with
  | ':' :: port => (userinfo, host, port)
  | port => (userinfo, host, port)

/-- Cuts a text at its marks. -/
def split (cs : List Char) : Parts :=
  let (scheme, r) := splitScheme cs
  let (authority, r) := match r with
    | '/' :: '/' :: t => splitBefore (fun c => c == '/' || c == '?' || c == '#') t
    | _ => ([], r)
  let (path, r) := splitBefore (fun c => c == '?' || c == '#') r
  let (query, r) := match r with
    | '?' :: t => let (q, r) := splitBefore (· == '#') t; (some q, r)
    | _ => (none, r)
  let fragment := match r with
    | '#' :: t => some t
    | _ => none
  let (userinfo, host, port) := splitAuthority authority
  ⟨.ofList scheme, .ofList userinfo, .ofList host, .ofList port, .ofList path,
    query.map .ofList, fragment.map .ofList⟩

/-- The port of its text; the scheme's own port is left out. -/
def readPort (text scheme : String) : Except Error (Option Int) :=
  if text.isEmpty then .ok none
  else
    match Numeral.integerDigits? text with
    | some (negative, digits) =>
      if 4300 < digits.length then .error (.port text)
      else
        let n := Numeral.ofSignedDigits negative digits
        .ok (if defaultPort? scheme = some n then none else some n)
    | none => .error (.port text)

/-- Resolves the components of a path that stand for the same and for the upper level. -/
def removeDots (components : List (List Char)) : List (List Char) :=
  components.foldl (fun done c =>
    if c = ['.'] then done
    else if c = ['.', '.'] then (if done = [[]] then done else done.dropLast)
    else done ++ [c]) []

/-- A path without such components. -/
def normalizePath (path : List Char) : List Char :=
  let components := Text.splitAtAll (· == '/') path
  if components.contains ['.'] || components.contains ['.', '.'] then
    List.intercalate ['/'] (removeDots components)
  else path

/-- Refuses a path that would be read as something else. -/
def checkPath (path : List Char) (hasScheme hasAuthority : Bool) : Except Error Unit :=
  if hasAuthority && !path.isEmpty && path.head? != some '/' then .error .pathWithoutSlash
  else if hasScheme || hasAuthority then .ok ()
  else if ['/', '/'].isPrefixOf path then .error .pathDoubleSlash
  else if path.head? == some ':' then .error .pathColon
  else .ok ()

/-- Escapes a part. -/
def quotePart (safe : Char → Bool) (s : String) : String :=
  String.ofList (Text.percentQuote safe s.toList)

/-- Brings parts into their normal form. -/
def ofParts (p : Parts) : Except Error Url := do
  let scheme := Text.lowerAscii p.scheme
  let userinfo := quotePart isUserinfoSafe p.userinfo
  let host ← encodeHost p.host
  let port ← readPort p.port p.scheme
  let hasScheme := !scheme.isEmpty
  let hasAuthority := !userinfo.isEmpty || !host.isEmpty || port.isSome
  checkPath p.path.toList hasScheme hasAuthority
  let path := if hasScheme || hasAuthority then normalizePath p.path.toList else p.path.toList
  .ok ⟨scheme, userinfo, host, port, String.ofList (Text.percentQuote isPathSafe path),
    p.query.map (quotePart isQuerySafe), p.fragment.map (quotePart isFragmentSafe)⟩

/-- The first control character of a text, and where it stands. -/
def control? (s : String) : Option (Char × Nat) :=
  let cs := s.toList
  (cs.find? isControl).map fun c => (c, (cs.takeWhile fun d => d != c).length)

/-- Reads a URL. -/
def parse (s : String) : Except Error Url :=
  if maxLength < s.length then .error .tooLong
  else
    match control? s with
    | some (c, i) => .error (.unprintable c i)
    | none => ofParts (split s.toList)

/-- Whether a text can be a part on its own. -/
def fitsComponent (part : Component) (cs : List Char) : Bool :=
  match part with
  | .scheme => isScheme cs
  | .authority => cs.all fun c => c != '/' && c != '?' && c != '#'
  | .path => cs.all fun c => c != '?' && c != '#'
  | .query => cs.all (· != '#')
  | .fragment => cs.all (· != '\n')
  | .host =>
    (cs.head? == some '[' && cs.getLast? == some ']' && 2 ≤ cs.length && !cs.contains '\n') ||
      !cs.contains ':'

/-- Refuses a text that cannot be a part. -/
def checkComponent (part : Component) (s : String) : Except Error Unit :=
  if maxLength < s.length then .error (.componentTooLong part)
  else
    match control? s with
    | some (c, i) => .error (.componentUnprintable part c i)
    | none => if fitsComponent part s.toList then .ok () else .error (.componentInvalid part)

/-- The parts of a URL as texts, with another host if one is given. -/
def toParts (u : Url) (host : Option String) : Parts :=
  let (userinfo, own, port) := splitAuthority u.authority.toList
  ⟨u.scheme, .ofList userinfo, host.getD (.ofList own), .ofList port, u.path, u.query, u.fragment⟩

/-- Checks the parts of a URL in the order in which they are given. -/
def checkParts (u : Url) : Except Error Unit := do
  checkComponent .scheme u.scheme
  checkComponent .authority u.authority
  checkComponent .path u.path
  (u.query.toList).forM (checkComponent .query)
  (u.fragment.toList).forM (checkComponent .fragment)

/-- The URL with another query. -/
def withQuery (u : Url) (query : String) : Except Error Url := do
  let v := { u with query := some query }
  checkParts v
  ofParts (v.toParts none)

/-- The URL with another fragment. -/
def withFragment (u : Url) (fragment : String) : Except Error Url := do
  let v := { u with fragment := some fragment }
  checkParts v
  ofParts (v.toParts none)

/-- The URL without user information. -/
def withoutUserinfo (u : Url) : Except Error Url := do
  checkParts u
  ofParts { u.toParts none with userinfo := "" }

/-- The URL with another host. -/
def withHost (u : Url) (host : String) : Except Error Url := do
  let cs := host.toList
  let host :=
    if cs.contains ':' && !(cs.head? == some '[' && cs.getLast? == some ']') then "[" ++ host ++ "]"
    else host
  checkParts u
  checkComponent .host host
  ofParts (u.toParts (some host))

end Courier.Url
