import Courier.Exchange.Reading
import Courier.Exchange.Session
import Courier.Method
import Courier.Model.Request
import Courier.Model.Response
import Courier.OutgoingHeaders
import Courier.Url.Target

/-!
# Executing a request

One pass from a request's description to what is kept of the response. Its target, its method and
its content are checked before anything is built, its headers before anything is sent. The timeout
caps the whole exchange: a reply whose headers are late is none, and a body that is late is
replaced.
-/

namespace Courier

/-- Why there is no response (`ExecutorError`). -/
inductive ExecuteError where
  | target (e : TargetError)
  | method (text : CodeText)
  /-- The content has surrogates, so that it is not sent. -/
  | unencodable (fault : Text.EncodingFault)
  | timeout
  | network
  | failed (detail : String)
  /-- A fault that is none of the exchange's own. -/
  | foreign (f : Fault)
  /-- A redirect leads to what is no URL. -/
  | unfitRedirect (e : Url.Error)
  /-- A redirect leads to an encoded host that does not decode. -/
  | unreadableHost
  | closed
  /-- The content type has pieces of a parameter with and without numbers. -/
  | unordered (e : MediaType.Unordered)
  /-- The body has surrogates that are no pair, so that it has no size. -/
  | unpaired (f : Text.EncodingFault)
  /-- The response has a status that is out of range. -/
  | status (why : Schema.Refusal)
  /-- The time between two looks at the clock is no number. -/
  | unmeasured (elapsed : Double)
  deriving DecidableEq, Repr

namespace ExecuteError

/-- The words for a request that took too long. -/
def timeoutMessage : String := "Request timeout - The request took too long to complete"

/-- The words for a server that cannot be reached. -/
def networkMessage : String :=
  "Network error - Unable to connect to the server. Check if the server is running."

/-- The words for an error. -/
def message : ExecuteError → String
  | target e => e.message
  | method text => badMethodMessage text
  | unencodable fault => fault.message
  | timeout => timeoutMessage
  | network => networkMessage
  | failed detail => "Request failed: " ++ detail
  | foreign f => f.message
  | unfitRedirect e => e.message
  | unreadableHost => ""
  | closed => Session.closedMessage
  | unordered e => e.message
  | unpaired f => f.message
  | status _ => ""
  | unmeasured .nan => "cannot convert float NaN to integer"
  | unmeasured _ => "cannot convert float infinity to integer"

/-- Whether an error is reported to the author of the request; others end the program. -/
def isReported : ExecuteError → Bool
  | target .unreadableHost => false
  | target (.unfitQuery _) => false
  | target (.unwritable _) => false
  | target _ => true
  | method _ => true
  | timeout => true
  | network => true
  | failed _ => true
  | _ => false

/-- A fault as an error. -/
def ofFault (f : Fault) : ExecuteError :=
  match f.kind.family with
  | .timeout => timeout
  | .connect => network
  | .request => failed f.text
  | _ => foreign f

/-- Characters outside ASCII in the headers as an error. -/
def ofEncodingFault (f : Text.EncodingFault) : ExecuteError :=
  failed ("non-ASCII character " ++ f.literal ++ " in request headers")

/-- A redirect that cannot be followed as an error. -/
def ofRedirectError : RedirectError → ExecuteError
  | .location e => failed ("Invalid URL in location header: " ++ e.message ++ ".")
  | .unfit e => unfitRedirect e
  | .unreadableHost => unreadableHost
  | .encoding f => ofEncodingFault f

/-- What went wrong with sending as an error. -/
def ofSendError : SendError → ExecuteError
  | .fault f => ofFault f
  | .redirect e => ofRedirectError e
  | .closed => closed

end ExecuteError

/-- A request that has passed the checks. -/
structure Prepared where
  url : Url
  method : String
  payload : Payload
  deriving DecidableEq, Repr

/-- Checks the target, then the method, then the content. -/
def Request.prepare (boundary : String) (r : Request) : Except ExecuteError Prepared :=
  match Target.build r.url r.params with
  | .error e => .error (.target e)
  | .ok url =>
    match token? r.method with
    | none => .error (.method r.method)
    | some method =>
      match Payload.ofBody boundary r.body r.headers with
      | .error fault => .error (.unencodable fault)
      | .ok payload => .ok ⟨url, method, payload⟩

/-- The first request on the wire. -/
def Request.toWire (w : Surroundings) (s : Session) (r : Request) :
    Except ExecuteError WireRequest := do
  let p ← r.prepare w.boundary
  let wire := do
    let headers ← buildHeaders r.auth r.headers p.payload
    WireRequest.complete w.now w.boundary s.jar p.method p.url headers p.payload
  match wire with
  | .ok request => return request
  | .error f => throw (.ofEncodingFault f)

/-- The milliseconds between two times, in whole numbers and never negative. -/
def elapsed (start finish : Double) : Except ExecuteError Int :=
  let time := (finish.sub start).mul (.ofInt 1000)
  match time.trunc? with
  | some n => .ok (max n 0)
  | none => .error (.unmeasured time)

/-- What is kept of a reply with a body of some code points (`_convert_response`). -/
def Reply.toResponse (r : Reply) (codes : List Nat) (time : Int) : Except ExecuteError Response :=
  match Text.EncodingFault.inUtf8? codes with
  | some f => .error (.unpaired f)
  | none =>
    let body := String.ofList (codes.map Char.ofNat)
    match (Schema.inRange 0 (some Response.maxStatus) r.status).under (.field "status") with
    | .accepted status => .ok
        { status := status, statusText := Status.text status, headers := r.flatHeaders
          body := body, time := time, size := (Text.Utf8.encode body).length }
    | .refused why => .error (.status why)

/-- Reads a reply: its headers must not be late, and its body is read up to the deadline. Two looks
at the clock have been taken before. -/
def Reply.receive (clock : Clock) (timeout : Double) (r : Reply) :
    Except ExecuteError Response := do
  let start := clock.reading 0
  let deadline := start.add timeout
  if deadline.lt (clock.reading 1) then throw .timeout
  let (ending, looks) := Reply.Body.readPieces clock deadline r.body.fault 2 r.body.pieces
  let codes ← match ending with
    | .complete => r.bodyCodes.mapError .unordered
    | .overdue => pure (Text.Charset.codes (overdueText timeout))
    | .broken f =>
      if f.spoilsBody then pure (Text.Charset.codes (brokenText f)) else throw (.foreign f)
  r.toResponse codes (← elapsed start (clock.reading looks))

/-- What came of a request: the client afterwards, the requests that were handed over, and the
response. -/
structure Execution where
  session : Session
  sent : List WireRequest
  outcome : Except ExecuteError Response

/-- Executes a request (`Executor.execute`). -/
def Session.execute (w : Surroundings) (clock : Clock) (s : Session) (r : Request) : Execution :=
  match r.toWire w s with
  | .error e => ⟨s, [], .error e⟩
  | .ok wire =>
    let sending := s.send w wire
    ⟨sending.session, sending.sent,
      match sending.outcome with
      | .error e => .error (.ofSendError e)
      | .ok reply => reply.receive clock s.settings.timeout⟩

end Courier
