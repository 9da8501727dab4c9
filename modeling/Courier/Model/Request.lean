import Courier.Model.Auth
import Courier.Model.Body

/-!
# Requests

The description of one HTTP request.
-/

namespace Courier

open Schema

/-- A request as its author describes it (`RequestConfig`). -/
structure Request where
  method : CodeText
  url : CodeText
  headers : List Entry
  params : List Entry
  body : Body
  auth : Auth
  deriving DecidableEq, Repr, Inhabited

namespace Request

/-- Reads a request. -/
def read (v : Data) : Check Request :=
  (asRecord "RequestConfig" v).andThen fun r =>
    Request.mk <$> (FieldName.plain "method").required (asText true) r
      <*> (FieldName.plain "url").required (asText true) r
      <*> (FieldName.plain "headers").optional [] (asList Entry.read) r
      <*> (FieldName.plain "params").optional [] (asList Entry.read) r
      <*> (FieldName.plain "body").optional Body.absent Body.read r
      <*> (FieldName.plain "auth").optional Auth.absent Auth.read r

/-- The request as a mapping. -/
def dump (r : Request) : Data :=
  .map [(.text "method", .ofCodeText r.method), (.text "url", .ofCodeText r.url),
    (.text "headers", dumpList Entry.dump r.headers),
    (.text "params", dumpList Entry.dump r.params), (.text "body", r.body.dump),
    (.text "auth", r.auth.dump)]

/-- How much of a body a summary shows. -/
def previewLimit : Nat := 500

/-- One line on the request, and the beginning of its body if there is one
(`format_request_summary`). -/
def summary (r : Request) : CodeText :=
  let line := r.method ++ " " ++ r.url ++ (" (auth: " ++ r.auth.scheme.name ++ ", body: " ++
    r.body.kind.name ++ ")" : String)
  match r.body.content with
  | none => line
  | some content =>
    if content.isEmpty then line
    else
      let preview :=
        if previewLimit < content.length then content.take previewLimit ++ "...(+truncated)"
        else content
      line ++ ("\n  Body (" ++ toString content.length ++ " chars): " : String) ++ preview

end Request

end Courier
