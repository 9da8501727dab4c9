import Courier.Exchange.Fault
import Courier.Header
import Courier.Text.Utf8
import Courier.Url.Basic

/-!
# Messages

What goes over the wire: requests as they are handed to the transport, and replies as they come
back. A server is known by its script, the events that answer one request after another; the last
event of a script repeats.
-/

namespace Courier

/-- A request as it is handed to the transport. -/
structure WireRequest where
  method : String
  url : Url
  headers : Headers
  body : List UInt8
  deriving DecidableEq, Repr

/-- A reply: its status, its header fields, the pieces of its body, and the fault that ends the
body too early. -/
structure Reply where
  status : Int
  fields : List (List UInt8 × List UInt8)
  chunks : List (List UInt8)
  fault : Option Fault
  deriving DecidableEq, Repr

/-- What happens to a request. -/
inductive WireEvent where
  | reply (r : Reply)
  | fault (f : Fault)
  deriving DecidableEq, Repr

/-- The events that answer requests, in order. -/
abbrev Script := List WireEvent

namespace Reply

/-- A reply without a fault on the way. -/
def plain (status : Int) (body : List UInt8) : Reply := ⟨status, [], [body], none⟩

/-- Bytes as characters of the same numbers. -/
def latinText (bs : List UInt8) : String :=
  String.ofList (bs.map fun b => Char.ofNat b.toNat)

/-- The fields as text: UTF-8 where every name and value is, otherwise one character a byte. -/
def headers (r : Reply) : Headers :=
  let decoded := r.fields.mapM fun f => do
    return (← Text.Utf8.decode? f.1, ← Text.Utf8.decode? f.2)
  decoded.getD (r.fields.map fun f => (latinText f.1, latinText f.2))

/-- The fields as they are kept: a value that is not UTF-8 is dropped, names are in lower case, and
the last value of a name stands in the place of the first. -/
def flatHeaders (r : Reply) : List (String × String) :=
  r.fields.foldl (fun kept f =>
    match Text.Utf8.decode? f.2 with
    | none => kept
    | some value =>
      let name := Text.lower (latinText f.1)
      if kept.any fun h => h.1 == name then
        kept.map fun h => if h.1 == name then (name, value) else h
      else kept ++ [(name, value)]) []

end Reply

namespace Script

/-- The event for the request of a number. -/
def event (s : Script) (n : Nat) : WireEvent :=
  (s[n]?.orElse fun _ => s.getLast?).getD (.reply (Reply.plain 200 []))

end Script

end Courier
