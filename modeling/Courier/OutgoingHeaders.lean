import Courier.Credential
import Courier.Payload
import Courier.Text.EncodingFault

/-!
# Outgoing headers

The headers of a request before it is handed to the client: those of the authentication settings,
then the author's, then the content type of the payload, each write replacing earlier ones of the
same name. Names and values have to be ASCII, and what the settings write as base64 has to be UTF-8.
-/

namespace Courier

/-- The headers that are written after those of the settings, in order. -/
def givenWrites (entries : List Entry) (payload : Payload) : List (CodeText × CodeText) :=
  activePairs entries ++
    payload.contentType.toList.map fun type => CodeText.ofPair ("Content-Type", type)

/-- The first fault among the names and values of headers. -/
def headerFault? (writes : List (CodeText × CodeText)) : Option Text.EncodingFault :=
  writes.findSome? fun w =>
    (Text.EncodingFault.inAscii? w.1).orElse fun _ => Text.EncodingFault.inAscii? w.2

/-- Headers that are ASCII. -/
def writtenHeaders (writes : List (CodeText × CodeText)) : Headers :=
  writes.map fun w => (w.1.characters, w.2.characters)

/-- The headers of a request (`build_headers`). -/
def buildHeaders (auth : Auth) (entries : List Entry) (payload : Payload) :
    Except Text.EncodingFault Headers := do
  let writes := (← auth.headers) ++ givenWrites entries payload
  match headerFault? writes with
  | some fault => throw fault
  | none => return Headers.setAll [] (writtenHeaders writes)

end Courier
