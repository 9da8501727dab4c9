import Courier.Model.Auth
import Courier.Header
import Courier.Text.Base64
import Courier.Text.EncodingFault

/-!
# Credentials

The header that authentication settings contribute. A scheme without everything that it needs
contributes none.
-/

namespace Courier

namespace Auth

/-- A user name and a password, with a colon between them, in the form of the basic scheme. -/
def basicHeader (pair : String) : String :=
  "Basic " ++ String.ofList (Text.Base64.encode (Text.Utf8.encode pair))

/-- A user name and a password in the form of the basic scheme (`_basic_auth`). They have to be
UTF-8. -/
def basicCredentials (username password : CodeText) : Except Text.EncodingFault String :=
  (username ++ ":" ++ password).utf8.map basicHeader

/-- The headers of the settings, at most one (`auth_headers`). -/
def headers (a : Auth) : Except Text.EncodingFault (List (CodeText × CodeText)) :=
  match a.scheme with
  | .none => .ok []
  | .basic =>
    match a.username, a.password with
    | some username, some password =>
      (basicCredentials username password).map fun value =>
        [CodeText.ofPair ("Authorization", value)]
    | _, _ => .ok []
  | .bearer => .ok (a.token.toList.map fun token => ("Authorization", "Bearer " ++ token))
  | .apiKey =>
    match a.apiKey, a.apiKeyHeader with
    | some key, some name => .ok [(name, key)]
    | _, _ => .ok []

end Auth

end Courier
