import Courier.Exchange.Coding
import Courier.Exchange.Redirect
import Courier.Model.Transport

/-!
# Sessions

A client and what it keeps from one request to the next: its cookies and whether it is closed. A
request is handed to the transport and, if the settings say so, redirects are followed up to a
limit. Every request that is handed over is recorded.
-/

namespace Courier

/-- What a client meets: the events that answer its requests, the boundary of its form data, and
the present moment, in seconds from the beginning of 1970. -/
structure Surroundings where
  script : Script
  boundary : String
  now : Int

/-- A client (`Executor`). -/
structure Session where
  settings : Transport
  jar : CookieJar
  /-- How many requests have been handed over. -/
  position : Nat
  isClosed : Bool
  deriving DecidableEq, Repr

namespace Session

/-- A client with given settings that has not done anything. -/
def start (settings : Transport) : Session := ⟨settings, .empty, 0, false⟩

/-- The client after it has been closed (`Executor.close`). -/
def close (s : Session) : Session := { s with isClosed := true }

/-- The greatest number of redirects that are followed. -/
def maxRedirects : Nat := 20

/-- The words for a request that is closed down before it is sent. -/
def closedMessage : String := "Cannot send a request, as the client has been closed."

end Session

/-- Why a request is not answered. -/
inductive SendError where
  | fault (f : Fault)
  | redirect (e : RedirectError)
  | closed
  deriving DecidableEq, Repr

/-- What came of sending: the client afterwards, the requests that were handed over, and the reply
that counts. -/
structure Sending where
  session : Session
  sent : List WireRequest
  outcome : Except SendError Reply

namespace Session

/-- The client after a reply to a request. -/
def afterReply (w : Surroundings) (s : Session) (r : WireRequest) (reply : Reply) : Session :=
  { s with jar := s.jar.afterReply w.now r.url reply }

/-- Hands requests over until a reply counts; the number bounds how many. -/
def follow (w : Surroundings) : Nat → Session → WireRequest → Sending
  | 0, s, _ => ⟨s, [], .error (.fault ⟨.tooManyRedirects, "Exceeded maximum allowed redirects."⟩)⟩
  | more + 1, s, r =>
    let handedOver := { s with position := s.position + 1 }
    match w.script.event s.position with
    | .fault f => ⟨handedOver, [r], .error (.fault f)⟩
    | .reply reply =>
      let s := handedOver.afterReply w r reply
      match reply.location? with
      | none => ⟨s, [r], .ok reply⟩
      | some location =>
        match Redirect.next w.now s.jar r reply.status location with
        | .error e => ⟨s, [r], .error (.redirect e)⟩
        | .ok next =>
          if s.settings.followRedirects then
            match reply.body.fault with
            | some f => ⟨s, [r], .error (.fault f)⟩
            | none =>
              let later := follow w more s next
              { later with sent := r :: later.sent }
          else ⟨s, [r], .ok reply⟩

/-- Sends a request. -/
def send (w : Surroundings) (s : Session) (r : WireRequest) : Sending :=
  if s.isClosed then ⟨s, [], .error .closed⟩
  else follow w (maxRedirects + 1) s r.withUrlCredentials

end Session

end Courier
