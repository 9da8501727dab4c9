import Courier.Model.Entry

/-!
# Transport settings

How requests are carried: for how long, with which certificates, and whether redirects are
followed.
-/

namespace Courier

open Schema

/-- Transport settings (`TransportConfig`). The defaults trust every certificate. -/
structure Transport where
  timeout : Double
  verifySsl : Bool
  caBundle : Option CodeText
  followRedirects : Bool
  deriving DecidableEq, Repr, Inhabited

namespace Transport

/-- The number of seconds after which an exchange is given up. -/
def defaultTimeout : Double := .ofInt 60

/-- The settings without any choice made. -/
def standard : Transport := ⟨defaultTimeout, false, none, true⟩

/-- All fields. -/
def fields : List FieldName :=
  [.plain "timeout", .plain "verify_ssl", .plain "ca_bundle", .plain "follow_redirects"]

/-- Reads a positive number of seconds. -/
def readTimeout (v : Data) : Check Double :=
  (asNumber v).andThen fun x =>
    if (Double.zero false).lt x then .accepted x else .refuse (.notAbove 0)

/-- Reads transport settings; no other entries are allowed. -/
def read (v : Data) : Check Transport :=
  (asRecord "TransportConfig" v).andThen fun r =>
    (fun timeout verify bundle follow (_ : Unit) => Transport.mk timeout verify bundle follow)
      <$> (FieldName.plain "timeout").optional defaultTimeout readTimeout r
      <*> (FieldName.plain "verify_ssl").optional false asBool r
      <*> (FieldName.plain "ca_bundle").optional none (asOptionalText false) r
      <*> (FieldName.plain "follow_redirects").optional true asBool r
      <*> onlyFields fields r

/-- The settings as a mapping. -/
def dump (t : Transport) : Data :=
  .map [(.text "timeout", .float t.timeout), (.text "verify_ssl", .bool t.verifySsl),
    (.text "ca_bundle", optionalText t.caBundle),
    (.text "follow_redirects", .bool t.followRedirects)]

end Transport

end Courier
