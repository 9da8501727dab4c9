import Courier.Url.Parse

/-!
# Resolving references

A reference without a scheme or host is read relative to a base URL: missing parts are taken from
the base, and a relative path replaces the last component of the base's path.
-/

namespace Courier.Url

/-- Schemes whose URLs can be relative. -/
def relativeSchemes : List String :=
  ["ftp", "http", "gopher", "nntp", "imap", "wais", "file", "https", "shttp", "mms", "prospero",
   "rtsp", "rtsps", "rtspu", "sftp", "svn", "svn+ssh", "ws", "wss"]

/-- Those of them whose last component may carry parameters after a semicolon. -/
def parameterSchemes : List String :=
  ["ftp", "prospero", "http", "imap", "https", "shttp", "rtsp", "rtsps", "rtspu", "mms", "sftp"]

/-- A path and the parameters of its last component. -/
def splitParameters (scheme : String) (path : List Char) : List Char × List Char :=
  let last := (path.reverse.takeWhile (· != '/')).reverse
  if parameterSchemes.contains scheme && last.contains ';' then
    let kept := path.length - last.length + (last.takeWhile (· != ';')).length
    (path.take kept, path.drop (kept + 1))
  else (path, [])

/-- The components of a relative path, after those of the base. Empty components inside are
dropped. -/
def joinComponents (base path : List Char) : List (List Char) :=
  let own := Text.splitAtAll (· == '/') path
  if path.head? == some '/' then own
  else
    let parts := Text.splitAtAll (· == '/') base
    let parts := if parts.getLast? == some [] then parts else parts.dropLast
    match parts ++ own with
    | [] => []
    | [c] => [c]
    | c :: rest => c :: (rest.dropLast.filter (fun s => !s.isEmpty) ++ (rest.getLast?).toList)

/-- Resolves the components that stand for the same and for the upper level. -/
def resolveComponents (components : List (List Char)) : List (List Char) :=
  let done := components.foldl (fun done c =>
    if c = ['.', '.'] then done.dropLast else if c = ['.'] then done else done ++ [c]) []
  match components.getLast? with
  | some ['.'] => done ++ [[]]
  | some ['.', '.'] => done ++ [[]]
  | _ => done

/-- A URL put together from its parts; an empty query or fragment is none. -/
def assemble (scheme authority : String) (path parameters : List Char) (query fragment : String) :
    String :=
  let path := if parameters.isEmpty then path else path ++ ';' :: parameters
  let path := if path.isEmpty || path.head? == some '/' then path else '/' :: path
  scheme ++ "://" ++ authority ++ String.ofList path ++
    (if query.isEmpty then "" else "?" ++ query) ++
    (if fragment.isEmpty then "" else "#" ++ fragment)

/-- The text of a reference resolved against a base. -/
def joinText (base ref : Url) : String :=
  let scheme := if ref.scheme.isEmpty then base.scheme else ref.scheme
  if ref.text.isEmpty then base.text
  else if scheme ≠ base.scheme ∨ ¬ relativeSchemes.contains scheme then ref.text
  else
    let (path, parameters) := splitParameters scheme ref.path.toList
    let (basePath, baseParameters) := splitParameters scheme base.path.toList
    let query := ref.query.getD ""
    let fragment := ref.fragment.getD ""
    if !ref.authority.isEmpty then
      assemble scheme ref.authority path parameters query fragment
    else if path.isEmpty && parameters.isEmpty then
      assemble scheme base.authority basePath baseParameters
        (if query.isEmpty then base.query.getD "" else query) fragment
    else
      let resolved := List.intercalate ['/'] (resolveComponents (joinComponents basePath path))
      assemble scheme base.authority (if resolved.isEmpty then ['/'] else resolved) parameters
        query fragment

/-- A reference resolved against a base. -/
def join (base ref : Url) : Except Error Url :=
  parse (joinText base ref)

end Courier.Url
