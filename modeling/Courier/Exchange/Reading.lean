import Courier.Exchange.Coding
import Courier.Exchange.MediaType
import Courier.Number.Layout

/-!
# Reading a body

A body is read piece by piece, with a look at the clock after each. A body that is late or breaks
off is replaced by words about it; otherwise it is decoded in the character set that the reply
announces.
-/

namespace Courier

/-- The times that a clock shows, one look after another; the last one repeats. -/
abbrev Clock := List Double

/-- What the clock shows at the look of a number. -/
def Clock.reading (clock : Clock) (n : Nat) : Double :=
  (clock[n]?.orElse fun _ => clock.getLast?).getD (Double.zero false)

/-- How the reading of a body ends. -/
inductive BodyEnd where
  | complete
  | overdue
  | broken (f : Fault)
  deriving DecidableEq, Repr

namespace Reply.Body

/-- Reads pieces (`_read_body`); `looks` is the number of looks at the clock so far, and the result
has it too. -/
def readPieces (clock : Clock) (deadline : Double) (fault : Option Fault) :
    Nat → List (List UInt8) → BodyEnd × Nat
  | looks, [] =>
    match fault with
    | none => (.complete, looks)
    | some f => (.broken f, looks)
  | looks, _ :: rest =>
    if deadline.lt (clock.reading looks) then (.overdue, looks + 1)
    else readPieces clock deadline fault (looks + 1) rest

/-- The bytes of a body. -/
def content (b : Body) : List UInt8 := b.pieces.flatten

end Reply.Body

/-- The words in the place of a body that is late. -/
def overdueText (timeout : Double) : String :=
  "Failed to read response body: timed out after " ++ timeout.toGeneralText ++ "s"

/-- The words in the place of a body that breaks off. -/
def brokenText (f : Fault) : String :=
  "Failed to read response body: " ++ f.message

/-- The character set that the content type of a reply names (`_text_encoding`). -/
def Reply.charset (r : Reply) : Except MediaType.Unordered (Option String) :=
  match r.headers.get? "Content-Type" with
  | some contentType => MediaType.charset? contentType
  | none => .ok none

/-- The code points of a body that was read to its end. A content type with pieces that cannot be put
in order spoils the whole reply. -/
def Reply.bodyCodes (r : Reply) : Except MediaType.Unordered (List Nat) :=
  r.charset.map fun name => Text.Charset.decodeNamed (name.getD "utf-8") r.body.content

end Courier
