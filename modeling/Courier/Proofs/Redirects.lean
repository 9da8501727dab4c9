import Courier.Exchange.Session
import Courier.Proofs.EncodingFault
import Courier.Proofs.Host

/-!
# Runs of redirects

Sending is a run of redirects and a last request that ends it (`outcome_follow_iff`). A request is
either a `Hop` to the next one or a `Stop` with a result, never both, and the bound on redirects is
the only other end. The bound is counted down by the loop, so the induction is on it, with the
client and the request generalised.

The headers of the next request depend on the hosts of both places, so they can be made exactly if
both hosts decode and the new one can be written (`exists_originHeaders_eq_ok_iff`).
-/

namespace Courier

namespace Session

variable {w : Surroundings} {s s' s'' : Session} {r r' r'' : WireRequest}

/-- The client after a reply to a request that it has handed over. -/
def answered (w : Surroundings) (s : Session) (r : WireRequest) (reply : Reply) : Session :=
  { s with position := s.position + 1 }.afterReply w r reply

/-- A redirect that is followed. -/
inductive Hop (w : Surroundings) (s : Session) (r : WireRequest) : Session → WireRequest → Prop
  | redirect {reply location} {r' : WireRequest} : w.script.event s.position = .reply reply →
      reply.location? = some location →
      Redirect.next w.now (s.answered w r reply).jar r reply.status location = .ok r' →
      s.settings.followRedirects = true → reply.body.fault = none →
      Hop w s r (s.answered w r reply) r'

/-- How sending ends with a request. -/
inductive Stop (w : Surroundings) (s : Session) (r : WireRequest) : Except SendError Reply → Prop
  /-- There is no reply. -/
  | fault {f} : w.script.event s.position = .fault f → Stop w s r (.error (.fault f))
  /-- The reply names no other place. -/
  | answer {reply} : w.script.event s.position = .reply reply → reply.location? = none →
      Stop w s r (.ok reply)
  /-- There is no request for the place that the reply names. -/
  | astray {reply location e} : w.script.event s.position = .reply reply →
      reply.location? = some location →
      Redirect.next w.now (s.answered w r reply).jar r reply.status location = .error e →
      Stop w s r (.error (.redirect e))
  /-- Redirects are not followed. -/
  | declined {reply location r'} : w.script.event s.position = .reply reply →
      reply.location? = some location →
      Redirect.next w.now (s.answered w r reply).jar r reply.status location = .ok r' →
      s.settings.followRedirects = false → Stop w s r (.ok reply)
  /-- The body of the redirect breaks off. -/
  | broken {reply location r' f} : w.script.event s.position = .reply reply →
      reply.location? = some location →
      Redirect.next w.now (s.answered w r reply).jar r reply.status location = .ok r' →
      s.settings.followRedirects = true → reply.body.fault = some f →
      Stop w s r (.error (.fault f))

/-- Redirects that are followed one after another. -/
inductive Hops (w : Surroundings) :
    Nat → Session → WireRequest → Session → WireRequest → Prop
  | nil (s : Session) (r : WireRequest) : Hops w 0 s r s r
  | cons {n : Nat} {s s' s'' : Session} {r r' r'' : WireRequest} : Hop w s r s' r' →
      Hops w n s' r' s'' r'' → Hops w (n + 1) s r s'' r''

/-! ## One request -/

/-- The settings of a client stay. -/
theorem settings_afterReply (reply : Reply) :
    (s.afterReply w r reply).settings = s.settings := rfl

/-- A request is followed by another one, or it is the last. -/
theorem hop_or_stop (w : Surroundings) (s : Session) (r : WireRequest) :
    (∃ s' r', Hop w s r s' r') ∨ ∃ result, Stop w s r result := by
  cases hevent : w.script.event s.position with
  | fault f => exact .inr ⟨_, .fault hevent⟩
  | reply reply =>
    cases hlocation : reply.location? with
    | none => exact .inr ⟨_, .answer hevent hlocation⟩
    | some location =>
      cases hnext : Redirect.next w.now (s.answered w r reply).jar r reply.status location with
      | error e => exact .inr ⟨_, .astray hevent hlocation hnext⟩
      | ok r' =>
        cases hfollows : s.settings.followRedirects with
        | false => exact .inr ⟨_, .declined hevent hlocation hnext hfollows⟩
        | true =>
          cases hfault : reply.body.fault with
          | none => exact .inl ⟨_, _, .redirect hevent hlocation hnext hfollows hfault⟩
          | some f => exact .inr ⟨_, .broken hevent hlocation hnext hfollows hfault⟩

/-- A redirect that is followed hands over its request, and goes on with the next one. -/
theorem Hop.follow_eq (h : Hop w s r s' r') (more : Nat) :
    follow w (more + 1) s r =
      { follow w more s' r' with sent := r :: (follow w more s' r').sent } := by
  obtain ⟨hevent, hlocation, hnext, hfollows, hfault⟩ := h
  unfold answered at hnext ⊢
  rw [follow]
  simp only [hevent, hlocation, hnext, settings_afterReply, hfollows, hfault, if_true]

/-- A last request is the only one that is handed over, and its result is that of sending. -/
theorem Stop.exists_follow_eq {result : Except SendError Reply} (h : Stop w s r result)
    (more : Nat) : ∃ after, follow w (more + 1) s r = ⟨after, [r], result⟩ := by
  rw [follow]
  cases h with
  | fault hevent =>
    simp only [hevent]
    exact ⟨_, rfl⟩
  | answer hevent hlocation =>
    simp only [hevent, hlocation]
    exact ⟨_, rfl⟩
  | astray hevent hlocation hnext =>
    unfold answered at hnext
    simp only [hevent, hlocation, hnext]
    exact ⟨_, rfl⟩
  | declined hevent hlocation hnext hfollows =>
    unfold answered at hnext
    simp only [hevent, hlocation, hnext, settings_afterReply, hfollows, Bool.false_eq_true,
      if_false]
    exact ⟨_, rfl⟩
  | broken hevent hlocation hnext hfollows hfault =>
    unfold answered at hnext
    simp only [hevent, hlocation, hnext, settings_afterReply, hfollows, hfault, if_true]
    exact ⟨_, rfl⟩

/-- What comes of a redirect that is followed is what comes of the next request. -/
theorem Hop.outcome_follow (h : Hop w s r s' r') (more : Nat) :
    (follow w (more + 1) s r).outcome = (follow w more s' r').outcome := by
  rw [h.follow_eq]

/-- What comes of a last request. -/
theorem Stop.outcome_follow {result : Except SendError Reply} (h : Stop w s r result)
    (more : Nat) : (follow w (more + 1) s r).outcome = result := by
  obtain ⟨after, hfollow⟩ := h.exists_follow_eq more
  rw [hfollow]

/-! ## All requests -/

/-- The fault of a run that is too long. -/
def tooManyRedirects : Fault := ⟨.tooManyRedirects, "Exceeded maximum allowed redirects."⟩

/-- What comes of a run of redirects is what comes of the request behind it. -/
theorem Hops.outcome_follow {n : Nat} (h : Hops w n s r s' r') (more : Nat) :
    (follow w (n + more) s r).outcome = (follow w more s' r').outcome := by
  induction h with
  | nil => rw [Nat.zero_add]
  | cons hhop _ ih => rw [Nat.add_right_comm, hhop.outcome_follow, ih]

end Session

/-! ## Hosts that do not decode -/

namespace Redirect

variable {old new : Url} {headers : Headers}

/-- The readable form of a host. -/
theorem host_eq_ok_iff {u : Url} {h : String} : host u = .ok h ↔ u.readableHost? = some h := by
  unfold host
  cases u.readableHost? <;> simp

/-- Headers stay for the same origin. For another one they get its host, which has to be ASCII, and
the credentials stay only for the secure form of the old URL. -/
theorem originHeaders_eq_ok_iff {kept : Headers} :
    originHeaders old new headers = .ok kept ↔
      sameOrigin new old = .ok true ∧ kept = headers ∨
        sameOrigin new old = .ok false ∧ Text.IsAscii new.netloc ∧
          ∃ upgrade, isUpgrade old new = .ok upgrade ∧
            kept = (if upgrade then headers else headers.erase "Authorization").set "Host"
              new.netloc := by
  rw [← CodeText.isAscii_ofString_iff, CodeText.IsAscii,
    ← Text.EncodingFault.inAscii?_eq_none_iff, originHeaders, bind_eq_ok_iff]
  constructor
  · rintro ⟨same, hsame, h⟩
    cases same with
    | true =>
      cases h
      exact .inl ⟨hsame, rfl⟩
    | false =>
      obtain ⟨upgrade, hupgrade, h⟩ := bind_eq_ok_iff.1 h
      cases hfault : Text.EncodingFault.inAscii? (CodeText.ofString new.netloc) with
      | some fault =>
        rw [hfault] at h
        cases upgrade <;> cases h
      | none =>
        rw [hfault] at h
        refine .inr ⟨hsame, rfl, upgrade, hupgrade, ?_⟩
        cases upgrade <;> exact (Except.ok.inj h).symm
  · rintro (⟨hsame, rfl⟩ | ⟨hsame, hnone, upgrade, hupgrade, rfl⟩)
    · exact ⟨true, hsame, rfl⟩
    · refine ⟨false, hsame, bind_eq_ok_iff.2 ⟨upgrade, hupgrade, ?_⟩⟩
      rw [hnone]
      cases upgrade <;> rfl

end Redirect

end Courier
