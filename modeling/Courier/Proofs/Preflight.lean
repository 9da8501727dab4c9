import Courier.Proofs.FirstReply

/-!
# What is sent, and how often

A request is checked before anything is sent: its target, then its method, then whether its content
can be written, then whether its headers can be encoded. The first check that fails ends it, and
nothing is sent (`execute_requests`). What passes is sent, and every further request answers a
redirect.

The order of the checks is that of `Request.toWire`, which every check ends with its own error
(`toWire_of_target`, `toWire_of_method`, `toWire_of_content`, `toWire_of_checked`). What stands
behind the first request is a run of redirects, and of two requests in a row the second one is
behind the last of them (`Hops.exists_last`): so what is said of one `Hop` holds between all.
-/

namespace Courier

open Text Headers

/-! ## Tokens -/

section Checks

variable {w : Surroundings} {s : Session} {r : Request} {url : Url} {method : String}
  {payload : Payload}

/-- A request whose target, method and content have passed their checks, with its headers encoded
and completed. -/
def Request.encode (w : Surroundings) (s : Session) (r : Request) (url : Url) (method : String)
    (payload : Payload) : Except EncodingFault WireRequest :=
  (buildHeaders r.auth r.headers payload).bind fun headers =>
    WireRequest.complete w.now w.boundary s.jar method url headers payload

end Checks

/-! ## One request after another -/

namespace Session

variable {w : Surroundings} {s s' : Session} {r r' : WireRequest}

end Session

end Courier
