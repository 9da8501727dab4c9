import Courier.Proofs.Redirects
import Courier.Proofs.SentHeaders

/-!
# The requests of a run

Executing a request hands over one request after another, and the one of a number is the one behind
as many redirects (`getElem?_sent_execute_iff`). So what is true of all that is sent follows from
two facts: what the first request is like, and what one redirect keeps. The first is taken apart by
`toWire_eq_ok_iff`, a redirect by `next_eq_ok_iff`. Both say everything that happens, so that
nothing else has to open the definitions.

A redirect rewrites a request in one of two ways. Either it turns into a `GET` without a body
(`turnsToGet`), or it keeps its body, and its method but for the case of letters.
-/

namespace Courier

namespace Session

variable {w : Surroundings} {s s' : Session} {r r' : WireRequest}

/-! ## Requests by their numbers -/

/-- A redirect that is followed hands over its request, and then those of the next one. -/
theorem Hop.sent_follow (h : Hop w s r s' r') (more : Nat) :
    (follow w (more + 1) s r).sent = r :: (follow w more s' r').sent := by
  rw [h.follow_eq]

/-- A last request is the only one that is handed over. -/
theorem Stop.sent_follow {result : Except SendError Reply} (h : Stop w s r result) (more : Nat) :
    (follow w (more + 1) s r).sent = [r] := by
  obtain ⟨after, hfollow⟩ := h.exists_follow_eq more
  rw [hfollow]

/-- The request behind some redirects has their number, if it is within the bound. -/
theorem Hops.getElem?_sent_follow {i bound : Nat} (h : Hops w i s r s' r') (hi : i < bound) :
    (follow w bound s r).sent[i]? = some r' := by
  obtain ⟨more, rfl⟩ : ∃ more, bound = more + 1 := ⟨bound - 1, by omega⟩
  induction h generalizing more with
  | nil s r =>
    have hfirst := head?_sent_follow w more s r
    rw [List.head?_eq_getElem?] at hfirst
    exact hfirst
  | cons hhop _ ih =>
    obtain ⟨fewer, rfl⟩ : ∃ fewer, more = fewer + 1 := ⟨more - 1, by omega⟩
    rw [hhop.sent_follow, List.getElem?_cons_succ]
    exact ih fewer (by omega)

/-- The request of a number is the one behind as many redirects. -/
theorem getElem?_sent_follow_iff {bound i : Nat} {x : WireRequest} :
    (follow w bound s r).sent[i]? = some x ↔ i < bound ∧ ∃ s', Hops w i s r s' x := by
  constructor
  · intro h
    -- every redirect takes one off the number and one off the bound
    induction i generalizing bound s r with
    | zero =>
      cases bound with
      | zero => cases h
      | succ more =>
        have hfirst := head?_sent_follow w more s r
        rw [List.head?_eq_getElem?, h] at hfirst
        obtain rfl := Option.some.inj hfirst
        exact ⟨Nat.succ_pos more, s, .nil s x⟩
    | succ i ih =>
      cases bound with
      | zero => cases h
      | succ more =>
        rcases hop_or_stop w s r with ⟨s₁, r₁, hhop⟩ | ⟨result, hstop⟩
        · rw [hhop.sent_follow, List.getElem?_cons_succ] at h
          obtain ⟨hi, s', hhops⟩ := ih h
          exact ⟨Nat.succ_lt_succ hi, s', .cons hhop hhops⟩
        · rw [hstop.sent_follow] at h
          cases h
  · rintro ⟨hi, s', hhops⟩
    exact hhops.getElem?_sent_follow hi

/-- As many events have been taken from the script as requests have been handed over. -/
theorem Hops.position_eq {n : Nat} (h : Hops w n s r s' r') :
    s'.position = s.position + n := by
  induction h with
  | nil s r => rfl
  | cons hhop _ ih =>
    obtain ⟨-, -, -, -, -⟩ := hhop
    rw [ih]
    show _ + 1 + _ = _
    omega

end Session

/-! ## The first request -/

section Execute

variable {w : Surroundings} {s : Session} {r : Request}

/-- A request is completed with its method and its URL. -/
theorem WireRequest.method_complete {now : Int} {boundary method : String} {jar : CookieJar}
    {url : Url} {headers : Headers} {payload : Payload} {wire : WireRequest}
    (h : complete now boundary jar method url headers payload = .ok wire) :
    wire.method = method ∧ wire.url = url := by
  obtain ⟨completed, body, -, -, -, rfl⟩ := complete_eq_ok_iff.1 h
  exact ⟨rfl, rfl⟩

/-- The credentials of a URL change nothing but headers. -/
theorem WireRequest.withUrlCredentials_eq (x : WireRequest) :
    x.withUrlCredentials = { x with headers := x.withUrlCredentials.headers } := by
  unfold withUrlCredentials
  cases urlCredentials? x.url with
  | none => rfl
  | some value => rfl

/-- The request of a number is the one behind as many redirects from the first one. There are at
most as many as the limit on redirects allows. -/
theorem Session.getElem?_sent_execute_iff {clock : Clock} {i : Nat} {x : WireRequest} :
    (s.execute w clock r).sent[i]? = some x ↔
      s.isClosed = false ∧ i ≤ maxRedirects ∧
        ∃ wire s', r.toWire w s = .ok wire ∧ Hops w i s wire.withUrlCredentials s' x := by
  unfold execute
  cases hwire : r.toWire w s with
  | error e => simp
  | ok wire =>
    simp only [Except.ok.injEq, exists_and_left, exists_eq_left']
    unfold send
    cases hclosed : s.isClosed with
    | true => simp
    | false =>
      simp only [Bool.false_eq_true, if_false, true_and]
      rw [getElem?_sent_follow_iff, Nat.lt_succ_iff]

/-- Every request that is handed over is behind some redirects from the first one. -/
theorem Session.hops_of_getElem?_sent_execute {clock : Clock} {i : Nat} {first x : WireRequest}
    (hfirst : (s.execute w clock r).sent.head? = some first)
    (hx : (s.execute w clock r).sent[i]? = some x) : ∃ s', Hops w i s first s' x := by
  obtain ⟨-, wire, hwire, rfl⟩ := head?_sent_execute_iff.1 hfirst
  obtain ⟨-, -, wire', s', hwire', hhops⟩ := getElem?_sent_execute_iff.1 hx
  rw [hwire] at hwire'
  obtain rfl := Except.ok.inj hwire'
  exact ⟨s', hhops⟩

/-- What is behind some redirects from the first request is handed over, within the limit. -/
theorem Session.getElem?_sent_execute_of_hops {clock : Clock} {i : Nat} {first x : WireRequest}
    {s' : Session} (hfirst : (s.execute w clock r).sent.head? = some first)
    (hhops : Hops w i s first s' x) (hi : i ≤ maxRedirects) :
    (s.execute w clock r).sent[i]? = some x := by
  obtain ⟨hopen, wire, hwire, rfl⟩ := head?_sent_execute_iff.1 hfirst
  exact getElem?_sent_execute_iff.2 ⟨hopen, hi, wire, s', hwire, hhops⟩

end Execute

/-! ## One redirect -/

namespace Redirect

variable {now : Int} {jar : CookieJar} {r r' : WireRequest} {status : Int} {location : String}

/-- Whether a reply turns a request into a `GET`. -/
def turnsToGet (status : Int) (method : String) : Bool :=
  Redirect.method status method != method && Redirect.method status method == "GET"

/-- The headers that describe a body go with it. -/
def bodyHeaders (status : Int) (method : String) (headers : Headers) : Headers :=
  if turnsToGet status method then
    (headers.erase "Content-Length").erase "Transfer-Encoding"
  else headers

/-- Without its turning into a `GET`, a request has the method that it had. -/
theorem method_of_turnsToGet_eq_false {method : String} (h : turnsToGet status method = false) :
    Redirect.method status method = method := by
  by_contra hne
  have hget : Redirect.method status method = "GET" := by
    revert hne
    unfold Redirect.method
    split_ifs <;> simp
  rw [turnsToGet, hget] at h
  rw [hget] at hne
  simp [hne] at h

/-- The request after a reply. Its headers are those for its origin, without the ones of a body that
it does not have any more, and with the cookies that fit now. -/
theorem next_eq_ok_iff :
    next now jar r status location = .ok r' ↔
      ∃ place headers completed, url r.url location = .ok place ∧
        originHeaders r.url place r.headers = .ok headers ∧
        addCookies now jar place ((bodyHeaders status r.method headers).erase "Cookie") =
          .ok completed ∧
        r' = if turnsToGet status r.method then
            ⟨"GET", place, completeHeaders "GET" place completed .empty, []⟩
          else ⟨Text.upperAscii r.method, place, completed, r.body⟩ := by
  have hupper : Text.upperAscii "GET" = "GET" := by decide
  simp only [next, bind, Except.bind]
  cases hurl : url r.url location with
  | error e => simp
  | ok place =>
    simp only [Except.ok.injEq, exists_and_left, exists_eq_left']
    cases horigin : originHeaders r.url place r.headers with
    | error e => simp
    | ok headers =>
      simp only [Except.ok.injEq, exists_eq_left']
      have hturns : (method status r.method != r.method && method status r.method == "GET") =
          turnsToGet status r.method := rfl
      have hdropped : (if turnsToGet status r.method = true then
          (headers.erase "Content-Length").erase "Transfer-Encoding" else headers) =
          bodyHeaders status r.method headers := rfl
      rw [hturns, hdropped]
      cases addCookies now jar place ((bodyHeaders status r.method headers).erase "Cookie") with
      | error fault => simp [throw, throwThe, MonadExceptOf.throw]
      | ok completed =>
        simp only [Except.ok.injEq, exists_eq_left']
        cases hget : turnsToGet status r.method with
        | true =>
          have hmethod : method status r.method = "GET" := by
            rw [turnsToGet, Bool.and_eq_true, beq_iff_eq] at hget
            exact hget.2
          simp [hmethod, hupper, pure, Except.pure, eq_comm]
        | false =>
          have hmethod := method_of_turnsToGet_eq_false hget
          simp [hmethod, pure, Except.pure, eq_comm]

end Redirect

end Courier
