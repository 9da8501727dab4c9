import Courier.Model.Entry

/-!
# Authentication settings

Which scheme a request authenticates with, and what the schemes need.
-/

namespace Courier

open Schema

/-- A way to authenticate (`AuthType`). -/
inductive AuthScheme where
  | none
  | basic
  | bearer
  | apiKey
  deriving DecidableEq, Repr, Inhabited

namespace AuthScheme

/-- The schemes with their names. -/
def names : List (String × AuthScheme) :=
  [("none", .none), ("basic", .basic), ("bearer", .bearer), ("apikey", .apiKey)]

/-- The name of a scheme. -/
def name : AuthScheme → String
  | .none => "none"
  | .basic => "basic"
  | .bearer => "bearer"
  | .apiKey => "apikey"

/-- Reads a scheme, in any case. -/
def read : Data → Check AuthScheme :=
  asChoice names fun s => some (Text.lower s)

end AuthScheme

/-- The scheme and everything that some scheme needs (`AuthConfig`). -/
structure Auth where
  scheme : AuthScheme
  username : Option CodeText
  password : Option CodeText
  token : Option CodeText
  apiKey : Option CodeText
  apiKeyHeader : Option CodeText
  deriving DecidableEq, Repr, Inhabited

namespace Auth

/-- No authentication. -/
def absent : Auth := ⟨.none, none, none, none, none, none⟩

/-- The field with the key. -/
def apiKeyField : FieldName := ⟨"apiKey", "api_key"⟩

/-- The field with the header's name. -/
def apiKeyHeaderField : FieldName := ⟨"apiKeyHeader", "api_key_header"⟩

/-- Reads authentication settings. -/
def read (v : Data) : Check Auth :=
  (asRecord "AuthConfig" v).andThen fun r =>
    Auth.mk <$> (FieldName.plain "type").optional .none AuthScheme.read r
      <*> (FieldName.plain "username").optional none (asOptionalText true) r
      <*> (FieldName.plain "password").optional none (asOptionalText true) r
      <*> (FieldName.plain "token").optional none (asOptionalText true) r
      <*> apiKeyField.optional none (asOptionalText true) r
      <*> apiKeyHeaderField.optional none (asOptionalText true) r

/-- The settings as a mapping. -/
def dump (a : Auth) : Data :=
  .map [(.text "type", .text a.scheme.name), (.text "username", optionalText a.username),
    (.text "password", optionalText a.password), (.text "token", optionalText a.token),
    (.text "apiKey", optionalText a.apiKey),
    (.text "apiKeyHeader", optionalText a.apiKeyHeader)]

end Auth

end Courier
