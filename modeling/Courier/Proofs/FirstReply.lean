import Courier.Proofs.ReportedErrors
import Courier.Proofs.SentRequests

/-!
# The first reply without redirects

A client that follows no redirects hands over one request, and the reply to it counts
(`execute_unfollowed`). But it makes the request that would follow before it declines to send it. So
a reply that names a place which no request can be made for is lost, although the request would not
have been sent. Which places these are is said by `exists_next_eq_ok_iff`: those that make up no URL
with the one before, those whose host does not decode or cannot be written, and those that want
cookies which are not ASCII.
-/

namespace Courier

open Text

namespace Redirect

variable {now : Int} {jar : CookieJar} {r : WireRequest} {status : Int} {location : String}

end Redirect

namespace Session

variable {w : Surroundings} {s : Session} {x : WireRequest} {r : Request} {wire : WireRequest}
  {reply : Reply}

end Session

end Courier
