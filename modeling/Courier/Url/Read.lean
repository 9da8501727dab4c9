import Courier.Text.EncodingFault
import Courier.Url.Parse

/-!
# Reading texts of code points

A text with surrogates may still be a URL: a surrogate is refused where its part is escaped, and a
part that is dropped is not. To see where surrogates end up, such a text is read twice, with
different characters in their place.
-/

namespace Courier.Url

/-- Why a text of code points is no URL. -/
inductive ReadError where
  | invalid (e : Error)
  /-- A part that is escaped has a surrogate. -/
  | unwritable (fault : Text.EncodingFault)
  deriving DecidableEq, Repr

/-- A text with characters in the place of its surrogates: those from `first` on. -/
def standing (first : Nat) (t : CodeText) : String :=
  String.ofList (t.map fun
    | .char c => c
    | .surrogate distance => Char.ofNat (first + distance))

/-- The characters for surrogates. -/
def standIn : Nat := 0xE000

/-- Other characters for the same surrogates. -/
def otherStandIn : Nat := 0xE800

/-- A text with its surrogates again, from two forms of it: they differ where there is one. -/
def restore (seen other : CodeText) : CodeText :=
  List.zipWith (fun c d => if c = d then c else .ofNat (c.toNat - standIn + 0xD800)) seen other

/-- An error with the surrogates of its text again. -/
def Error.restore : Error → Error → Error
  | .ipv6 seen, .ipv6 other => .ipv6 (Url.restore seen other)
  | .domain seen, .domain other => .domain (Url.restore seen other)
  | .port seen, .port other => .port (Url.restore seen other)
  | e, _ => e

/-- Refuses a part with a surrogate. -/
def refuseSurrogate (seen other : String) : Except ReadError Unit :=
  match (restore seen other).find? fun p => p.char?.isNone with
  | some p => .error (.unwritable ⟨"utf-8", "surrogates not allowed", 0, [p.toNat]⟩)
  | none => .ok ()

/-- Refuses user information with a surrogate, in a text that is not refused as a whole. -/
def refuseUserinfo (seen other : String) : Except ReadError Unit :=
  if seen.length ≤ maxLength && (control? seen).isNone then
    refuseSurrogate (split seen.toList).userinfo (split other.toList).userinfo
  else .ok ()

/-- Reads a text with surrogates. User information is escaped before the host and the port are
looked at, the other parts afterwards. In the zone of an address a surrogate is not looked at, and
the character in its place stays. -/
def readBroken (t : CodeText) : Except ReadError Url := do
  let seen := standing standIn t
  let other := standing otherStandIn t
  refuseUserinfo seen other
  match parse seen, parse other with
  | .error e, .error f => throw (.invalid (e.restore f))
  | .error e, .ok _ => throw (.invalid e)
  | .ok u, other =>
    let v := other.toOption.getD u
    refuseSurrogate (Text.percentDecode u.path) (Text.percentDecode v.path)
    refuseSurrogate (Text.percentDecode (u.query.getD "")) (Text.percentDecode (v.query.getD ""))
    refuseSurrogate (Text.percentDecode (u.fragment.getD ""))
      (Text.percentDecode (v.fragment.getD ""))
    return u

/-- Reads a text. -/
def read (t : CodeText) : Except ReadError Url :=
  match t.toString? with
  | some s => (parse s).mapError .invalid
  | none => readBroken t

end Courier.Url
