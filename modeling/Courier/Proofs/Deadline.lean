import Courier.Exchange.Execute
import Courier.Proofs.EncodingFault
import Courier.Proofs.Basic
import Mathlib.Data.Nat.Find

/-!
# The deadline of an exchange

The timeout caps the whole exchange (`execute_by_first_event`). What becomes of a reply depends on
the first thing that happens: a look at the clock that is past the deadline, the fault behind the
pieces of the body, or the end of the body. No part of a body is ever taken for the whole.

Reading takes one look at the clock after each piece, so the look after piece `i` is the one of
number `2 + i`: two looks come before, at the start and after the headers. `readPieces_of_late` and
`readPieces_of_inTime` say how the loop ends, by induction on the pieces with the number of looks
generalised. `receive` is then one equation for each event, and what is kept of the reply is read
off `toResponse_eq_ok` and `elapsed_eq_ok`.
-/

namespace Courier

namespace Reply.Body

/-- The look at the clock after the piece of a number is past the deadline, and it is the first look
after a piece that is. -/
structure LateAt (b : Body) (clock : Clock) (deadline : Double) (i : Nat) : Prop where
  inBody : i < b.pieces.length
  late : deadline.lt (clock.reading (2 + i)) = true
  first : ∀ j < i, deadline.lt (clock.reading (2 + j)) = false

/-- No look at the clock after a piece is past the deadline. -/
def InTime (b : Body) (clock : Clock) (deadline : Double) : Prop :=
  ∀ i < b.pieces.length, deadline.lt (clock.reading (2 + i)) = false

/-- Either some look is the first that is late, or none is late. -/
theorem lateAt_or_inTime (b : Body) (clock : Clock) (deadline : Double) :
    (∃ i, b.LateAt clock deadline i) ∨ b.InTime clock deadline := by
  by_cases h : ∃ i, i < b.pieces.length ∧ deadline.lt (clock.reading (2 + i)) = true
  · left
    obtain ⟨hbody, hlate⟩ := Nat.find_spec h
    refine ⟨Nat.find h, hbody, hlate, ?_⟩
    intro j hj
    have hmin := Nat.find_min h hj
    rw [← Bool.not_eq_true]
    exact fun hearlier => hmin ⟨Nat.lt_trans hj hbody, hearlier⟩
  · right
    intro i hi
    rw [← Bool.not_eq_true]
    exact fun hlate => h ⟨i, hi, hlate⟩

variable {clock : Clock} {deadline : Double} {fault : Option Fault}

/-- Reading ends at the first look that is late, whatever comes behind it. -/
theorem readPieces_of_late {pieces : List (List UInt8)} {looks i : Nat} (hi : i < pieces.length)
    (hlate : deadline.lt (clock.reading (looks + i)) = true)
    (hfirst : ∀ j < i, deadline.lt (clock.reading (looks + j)) = false) :
    readPieces clock deadline fault looks pieces = (.overdue, looks + i + 1) := by
  induction pieces generalizing looks i with
  | nil => cases hi
  | cons piece rest ih =>
    unfold readPieces
    cases i with
    | zero =>
      rw [Nat.add_zero] at hlate
      rw [if_pos hlate, Nat.add_zero]
    | succ i =>
      -- the look after this piece is in time, and those behind it are counted from the next one
      have hnow : deadline.lt (clock.reading looks) = false := hfirst 0 (Nat.succ_pos i)
      have hshift : ∀ j, looks + 1 + j = looks + (j + 1) := fun j => by omega
      rw [if_neg (by rw [hnow]; decide), ih (Nat.lt_of_succ_lt_succ hi)]
      · rw [hshift]
      · rw [hshift]
        exact hlate
      · intro j hj
        rw [hshift]
        exact hfirst (j + 1) (Nat.succ_lt_succ hj)

/-- If no look is late, reading ends with the fault behind the pieces, or with the body. -/
theorem readPieces_of_inTime {pieces : List (List UInt8)} {looks : Nat}
    (h : ∀ i < pieces.length, deadline.lt (clock.reading (looks + i)) = false) :
    readPieces clock deadline fault looks pieces =
      (fault.elim .complete .broken, looks + pieces.length) := by
  induction pieces generalizing looks with
  | nil =>
    cases fault with
    | none => rfl
    | some f => rfl
  | cons piece rest ih =>
    have hnow : deadline.lt (clock.reading looks) = false := h 0 (Nat.succ_pos _)
    have hshift : ∀ j, looks + 1 + j = looks + (j + 1) := fun j => by omega
    unfold readPieces
    rw [if_neg (by rw [hnow]; decide), ih, hshift, List.length_cons]
    intro i hi
    rw [hshift]
    exact h (i + 1) (Nat.succ_lt_succ hi)

end Reply.Body

/-! ## What is kept of a reply -/

/-- The time of an exchange that can be measured. -/
theorem elapsed_eq_ok {start finish : Double} {time : Int} (h : elapsed start finish = .ok time) :
    ∃ n, ((finish.sub start).mul (.ofInt 1000)).trunc? = some n ∧ time = max n 0 := by
  unfold elapsed at h
  simp only at h
  split at h
  · rename_i n hn
    exact ⟨n, hn, (Except.ok.inj h).symm⟩
  · cases h

/-- A text is what its code points stand for. -/
theorem ofList_map_codes (s : String) :
    String.ofList ((Text.Charset.codes s).map Char.ofNat) = s := by
  have hchars : (Text.Charset.codes s).map Char.ofNat = s.toList := by
    unfold Text.Charset.codes
    rw [List.map_map]
    calc s.toList.map (Char.ofNat ∘ Char.toNat)
        = s.toList.map id := List.map_congr_left fun c _ => Char.ofNat_toNat c
      _ = s.toList := List.map_id _
  rw [hchars, String.ofList_toList]

/-- An integer that is in range is accepted as it is. -/
theorem Schema.eq_of_inRange {least n m : Int} {greatest : Option Int}
    (h : Schema.inRange least greatest n = .accepted m) : m = n := by
  unfold Schema.inRange Schema.Check.refuse at h
  split at h
  · split at h
    · cases h
    · split at h
      · cases h
      · exact (Schema.Check.accepted.inj h).symm
  · split at h
    · cases h
    · exact (Schema.Check.accepted.inj h).symm

namespace Reply

/-- The response that is kept of a reply. -/
theorem toResponse_eq_ok {r : Reply} {codes : List Nat} {time : Int} {response : Response}
    (h : r.toResponse codes time = .ok response) :
    (∀ n ∈ codes, Text.isSurrogate n = false) ∧
      response.status = r.status ∧ response.statusText = Status.text r.status ∧
      response.headers = r.flatHeaders ∧ response.time = time ∧
      response.body = String.ofList (codes.map Char.ofNat) ∧
      response.size = (Text.Utf8.encode response.body).length := by
  unfold toResponse at h
  split at h
  · cases h
  · rename_i hpaired
    refine ⟨(Text.EncodingFault.inUtf8?_eq_none_iff codes).1 hpaired, ?_⟩
    cases hstatus : Schema.inRange 0 (some Response.maxStatus) r.status with
    | refused issues =>
      rw [hstatus] at h
      cases h
    | accepted status =>
      rw [hstatus] at h
      obtain rfl := Schema.eq_of_inRange hstatus
      have hresponse := Except.ok.inj h
      simp only [← hresponse, and_self]

variable {clock : Clock} {timeout : Double} {r : Reply}

/-- A reply whose headers are late is none. -/
theorem receive_of_late (h : ((clock.reading 0).add timeout).lt (clock.reading 1) = true) :
    r.receive clock timeout = .error .timeout := by
  unfold receive
  simp only [h, if_true]
  rfl

/-- A body that is late is replaced by words about it, at the look that is late. -/
theorem receive_of_lateAt {i : Nat}
    (h : ((clock.reading 0).add timeout).lt (clock.reading 1) = false)
    (hi : r.body.LateAt clock ((clock.reading 0).add timeout) i) :
    r.receive clock timeout =
      (elapsed (clock.reading 0) (clock.reading (3 + i))).bind
        (r.toResponse (Text.Charset.codes (overdueText timeout))) := by
  have hread : Body.readPieces clock ((clock.reading 0).add timeout) r.body.fault 2 r.body.pieces =
      (.overdue, 3 + i) := by
    rw [Body.readPieces_of_late hi.inBody hi.late hi.first, Nat.add_right_comm]
  unfold receive
  simp only [h, hread]
  rfl

/-- What becomes of a body that is read up to its end or up to a fault. -/
theorem receive_of_inTime (h : ((clock.reading 0).add timeout).lt (clock.reading 1) = false)
    (hin : r.body.InTime clock ((clock.reading 0).add timeout)) :
    r.receive clock timeout =
      match r.body.fault with
      | none => (r.bodyCodes.mapError .unordered).bind fun codes =>
          (elapsed (clock.reading 0) (clock.reading (2 + r.body.pieces.length))).bind
            (r.toResponse codes)
      | some f =>
        if f.spoilsBody then
          (elapsed (clock.reading 0) (clock.reading (2 + r.body.pieces.length))).bind
            (r.toResponse (Text.Charset.codes (brokenText f)))
        else .error (.foreign f) := by
  have hread : Body.readPieces clock ((clock.reading 0).add timeout) r.body.fault 2 r.body.pieces =
      (r.body.fault.elim .complete .broken, 2 + r.body.pieces.length) :=
    Body.readPieces_of_inTime hin
  unfold receive
  simp only [h, hread]
  cases r.body.fault with
  | none => rfl
  | some f =>
    by_cases hspoils : f.spoilsBody = true
    · simp only [Option.elim_some, hspoils, if_true]
      rfl
    · rw [Bool.not_eq_true] at hspoils
      simp only [Option.elim_some, hspoils]
      rfl

/-- What is kept of a reply depends on its status and its fields only, apart from the body. -/
theorem toResponse_congr {r' : Reply} (hstatus : r'.status = r.status)
    (hfields : r'.fields = r.fields) : r'.toResponse = r.toResponse := by
  have hheaders : r'.flatHeaders = r.flatHeaders := by rw [flatHeaders, flatHeaders, hfields]
  funext codes time
  unfold toResponse
  rw [hstatus, hheaders]

/-- Nothing behind the look that is late is read: neither the later pieces, nor the fault behind
them, nor the clock after one look more. -/
theorem receive_congr_of_lateAt {clock' : Clock} {r' : Reply} {i : Nat}
    (h : ((clock.reading 0).add timeout).lt (clock.reading 1) = false)
    (hi : r.body.LateAt clock ((clock.reading 0).add timeout) i)
    (hstatus : r'.status = r.status) (hfields : r'.fields = r.fields)
    (hpieces : r'.body.pieces.take (i + 1) = r.body.pieces.take (i + 1))
    (hclock : ∀ k ≤ 3 + i, clock'.reading k = clock.reading k) :
    r'.receive clock' timeout = r.receive clock timeout := by
  have hstart : clock'.reading 0 = clock.reading 0 := hclock 0 (by omega)
  have h' : ((clock'.reading 0).add timeout).lt (clock'.reading 1) = false := by
    rw [hstart, hclock 1 (by omega)]
    exact h
  have hi' : r'.body.LateAt clock' ((clock'.reading 0).add timeout) i := by
    rw [hstart]
    refine ⟨?_, ?_, ?_⟩
    · -- the other body has the piece too, because it has the same first pieces
      have hlength := congrArg List.length hpieces
      have hbody := hi.inBody
      rw [List.length_take, List.length_take] at hlength
      omega
    · rw [hclock (2 + i) (by omega)]
      exact hi.late
    · intro j hj
      rw [hclock (2 + j) (by omega)]
      exact hi.first j hj
  rw [receive_of_lateAt h hi, receive_of_lateAt h' hi', toResponse_congr hstatus hfields, hstart,
    hclock (3 + i) (Nat.le_refl _)]

/-- A response comes of a time that is measured and a body that is written. -/
theorem exists_of_bind_eq_ok {start finish : Double} {codes : List Nat} {response : Response}
    (h : (elapsed start finish).bind (r.toResponse codes) = .ok response) :
    (∃ n, ((finish.sub start).mul (.ofInt 1000)).trunc? = some n ∧ response.time = max n 0) ∧
      (∀ n ∈ codes, Text.isSurrogate n = false) ∧
      response.status = r.status ∧ response.statusText = Status.text r.status ∧
      response.headers = r.flatHeaders ∧
      response.body = String.ofList (codes.map Char.ofNat) ∧
      response.size = (Text.Utf8.encode response.body).length := by
  cases htime : elapsed start finish with
  | error e =>
    rw [htime] at h
    cases h
  | ok time =>
    rw [htime] at h
    obtain ⟨n, hn, hmax⟩ := elapsed_eq_ok htime
    obtain ⟨hpaired, hstatus, hwords, hheaders, ht, hbody, hsize⟩ := toResponse_eq_ok h
    exact ⟨⟨n, hn, ht.trans hmax⟩, hpaired, hstatus, hwords, hheaders, hbody, hsize⟩

end Reply

/-! ## Executing -/

namespace Session

variable {w : Surroundings} {s : Session} {r : Request} {wire : WireRequest} {reply : Reply}

/-- Where a reply counts, the outcome is what is received of it. -/
theorem outcome_execute_of_reply (clock : Clock) (hwire : r.toWire w s = .ok wire)
    (hreply : (s.send w wire).outcome = .ok reply) :
    (s.execute w clock r).outcome = reply.receive clock s.settings.timeout := by
  unfold execute
  simp only [hwire, hreply]

/-- The timeout caps the whole exchange. A request whose reply has late headers times out. Otherwise
every response has the status and the fields of the reply, the size of its own body, and the time
up to the last look at the clock; and its body is what the first event makes of it. If a look after
a piece is late, the body is the words about that, and nothing behind that look has any influence.
If none is late and the body breaks off, the body is the words about the fault. Only if none is late
and nothing breaks off, it is the text of all pieces together. -/
theorem execute_by_first_event (clock : Clock) (hwire : r.toWire w s = .ok wire)
    (hreply : (s.send w wire).outcome = .ok reply) :
    let start := clock.reading 0
    let deadline := start.add s.settings.timeout
    let codes (charset : Option String) :=
      Text.Charset.decodeNamed (charset.getD "utf-8") reply.body.pieces.flatten
    (deadline.lt (clock.reading 1) = true → (s.execute w clock r).outcome = .error .timeout) ∧
      (deadline.lt (clock.reading 1) = false →
        ∀ response, (s.execute w clock r).outcome = .ok response →
          response.status = reply.status ∧ response.statusText = Status.text reply.status ∧
          response.headers = reply.flatHeaders ∧
          response.size = (Text.Utf8.encode response.body).length ∧
          ∃ last n, (((clock.reading last).sub start).mul (.ofInt 1000)).trunc? = some n ∧
            response.time = max n 0 ∧
            ((∃ i, reply.body.LateAt clock deadline i ∧ last = 3 + i ∧
                response.body = overdueText s.settings.timeout ∧
                ∀ (clock' : Clock) (reply' : Reply), reply'.status = reply.status →
                  reply'.fields = reply.fields →
                  reply'.body.pieces.take (i + 1) = reply.body.pieces.take (i + 1) →
                  (∀ k ≤ 3 + i, clock'.reading k = clock.reading k) →
                  reply'.receive clock' s.settings.timeout = .ok response) ∨
              (reply.body.InTime clock deadline ∧ last = 2 + reply.body.pieces.length ∧
                ((∃ f, reply.body.fault = some f ∧ f.spoilsBody = true ∧
                    response.body = brokenText f) ∨
                  (reply.body.fault = none ∧ ∃ charset, reply.charset = .ok charset ∧
                    (∀ n ∈ codes charset, Text.isSurrogate n = false) ∧
                    response.body = String.ofList ((codes charset).map Char.ofNat)))))) := by
  intro start deadline codes
  rw [outcome_execute_of_reply clock hwire hreply]
  refine ⟨Reply.receive_of_late, ?_⟩
  intro hheaders response hresponse
  rcases reply.body.lateAt_or_inTime clock deadline with ⟨i, hi⟩ | hin
  · -- a look is late: what is kept is settled with that look
    have hok := hresponse
    rw [Reply.receive_of_lateAt hheaders hi] at hresponse
    obtain ⟨⟨n, hn, ht⟩, -, hstatus, hwords, hfields, hbody, hsize⟩ :=
      Reply.exists_of_bind_eq_ok hresponse
    rw [ofList_map_codes] at hbody
    refine ⟨hstatus, hwords, hfields, hsize, 3 + i, n, hn, ht, .inl ⟨i, hi, rfl, hbody, ?_⟩⟩
    intro clock' reply' hstatus' hfields' hpieces hclock
    rw [Reply.receive_congr_of_lateAt hheaders hi hstatus' hfields' hpieces hclock, hok]
  · -- no look is late: it depends on whether the body breaks off, and how
    rw [Reply.receive_of_inTime hheaders hin] at hresponse
    cases hfault : reply.body.fault with
    | none =>
      simp only [hfault, Reply.bodyCodes] at hresponse
      cases hcharset : reply.charset with
      | error e =>
        -- without a character set there is no response
        rw [hcharset] at hresponse
        cases hresponse
      | ok charset =>
        rw [hcharset] at hresponse
        obtain ⟨⟨n, hn, ht⟩, hpaired, hstatus, hwords, hfields, hbody, hsize⟩ :=
          Reply.exists_of_bind_eq_ok hresponse
        exact ⟨hstatus, hwords, hfields, hsize, _, n, hn, ht,
          .inr ⟨hin, rfl, .inr ⟨rfl, charset, rfl, hpaired, hbody⟩⟩⟩
    | some f =>
      simp only [hfault] at hresponse
      by_cases hspoils : f.spoilsBody = true
      · rw [if_pos hspoils] at hresponse
        obtain ⟨⟨n, hn, ht⟩, -, hstatus, hwords, hfields, hbody, hsize⟩ :=
          Reply.exists_of_bind_eq_ok hresponse
        rw [ofList_map_codes] at hbody
        exact ⟨hstatus, hwords, hfields, hsize, _, n, hn, ht,
          .inr ⟨hin, rfl, .inl ⟨f, rfl, hspoils, hbody⟩⟩⟩
      · -- any other fault ends the program, so that there is no response
        rw [if_neg hspoils] at hresponse
        cases hresponse

/-- A server that answers in three pieces. -/
def piecewiseServer : Surroundings :=
  ⟨[.reply ⟨200, [], [Text.Utf8.encode "first", Text.Utf8.encode "second",
    Text.Utf8.encode "third"], none⟩], "", 0⟩

/-- A request without anything but a target. -/
def plainRequest : Request := ⟨"GET", "http://h.test/", [], [], Body.absent, Auth.absent⟩

/-- A clock that passes the deadline of a minute between the first piece and the second. -/
def slowClock : Clock := [.ofInt 0, .ofInt 1, .ofInt 2, .ofInt 61, .ofInt 62]

/-- `execute_by_first_event` at a body that is late. -/
theorem execute_by_first_event_slowClock :
    ∃ wire reply response,
      plainRequest.toWire piecewiseServer (.start .standard) = .ok wire ∧
        ((start .standard).send piecewiseServer wire).outcome = .ok reply ∧
        ((start .standard).execute piecewiseServer slowClock plainRequest).outcome = .ok response ∧
        response.body = "Failed to read response body: timed out after 60s" ∧
        response.status = reply.status ∧
        response.size = (Text.Utf8.encode response.body).length ∧
        ∃ last n, (((slowClock.reading last).sub (slowClock.reading 0)).mul
            (.ofInt 1000)).trunc? = some n ∧ response.time = max n 0 := by
  have hheaders : ((slowClock.reading 0).add (start .standard).settings.timeout).lt
      (slowClock.reading 1) = false := by
    decide +kernel
  have hsent : (plainRequest.toWire piecewiseServer (.start .standard)).toOption.any (fun wire =>
      ((start .standard).send piecewiseServer wire).outcome.toOption.any fun _ => true) = true := by
    decide +kernel
  have hreceived : ((start .standard).execute piecewiseServer slowClock
      plainRequest).outcome.toOption.any (fun response => decide
        (response.body = "Failed to read response body: timed out after 60s")) = true := by
    decide +kernel
  obtain ⟨wire, hwire, hanswered⟩ := exists_eq_ok_of_any hsent
  obtain ⟨reply, hreply, -⟩ := exists_eq_ok_of_any hanswered
  obtain ⟨response, hresponse, hbody⟩ := exists_eq_ok_of_any hreceived
  obtain ⟨-, hreturns⟩ := execute_by_first_event slowClock hwire hreply
  obtain ⟨hstatus, -, -, hsize, last, n, hn, htime, -⟩ := hreturns hheaders response hresponse
  exact ⟨wire, reply, response, hwire, hreply, hresponse, of_decide_eq_true hbody, hstatus, hsize,
    last, n, hn, htime⟩

end Session

end Courier
