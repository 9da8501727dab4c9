import Courier.Proofs.SentRequests

/-!
# The method along redirects

The first request goes out with the method as its author writes it. A redirect by 307 or 308 keeps
the body, and the method but for the case of letters: the next request has it in capitals. So the
method of a later request is the author's exactly if the author uses no small letters
(`execute_method`), and a method such as `post` does not survive the first redirect
(`execute_method_ne_post`).

A redirect takes the method of the request before it, not the author's. So the induction along a run
needs that capitals stay as they are (`upperAscii_upperAscii`).
-/

namespace Courier

open Text

namespace Text

/-- Whether a character is a letter a to z. -/
def IsSmall (c : Char) : Prop := 'a' ≤ c ∧ c ≤ 'z'

instance (c : Char) : Decidable (IsSmall c) := inferInstanceAs (Decidable ('a' ≤ c ∧ c ≤ 'z'))

/-- The upper case of a letter a to z; other characters stay as they are. -/
def upperAsciiChar (c : Char) : Char :=
  if IsSmall c then Char.ofNat (c.toNat - 32) else c

/-- The upper case of the letters of a text works character by character. -/
theorem upperAscii_eq_map (s : String) :
    upperAscii s = String.ofList (s.toList.map upperAsciiChar) := rfl

/-- The letters a to z by their numbers. -/
theorem isSmall_iff (c : Char) : IsSmall c ↔ 0x61 ≤ c.toNat ∧ c.toNat ≤ 0x7A := Iff.rfl

/-- A capital is no small letter. -/
theorem not_isSmall_upperAsciiChar (c : Char) : ¬IsSmall (upperAsciiChar c) := by
  unfold upperAsciiChar
  split
  · rename_i h
    rw [isSmall_iff] at h ⊢
    have hnumber : (Char.ofNat (c.toNat - 32)).toNat = c.toNat - 32 ∨
        (Char.ofNat (c.toNat - 32)).toNat = 0 := toNat_ofNat _
    omega
  · rename_i h
    exact h

/-- Only small letters have another upper case. -/
theorem upperAsciiChar_eq_self_iff (c : Char) : upperAsciiChar c = c ↔ ¬IsSmall c := by
  constructor
  · intro h
    rw [← h]
    exact not_isSmall_upperAsciiChar c
  · intro h
    exact if_neg h

/-- A text is its own upper case exactly if it has no small letters. -/
theorem upperAscii_eq_self_iff (s : String) :
    upperAscii s = s ↔ ∀ c ∈ s.toList, ¬IsSmall c := by
  have hchars : upperAscii s = s ↔ s.toList.map upperAsciiChar = s.toList := by
    rw [upperAscii_eq_map, ← String.toList_inj, String.toList_ofList]
  rw [hchars]
  constructor
  · intro h c hc
    rw [← upperAsciiChar_eq_self_iff]
    exact List.map_eq_map_iff.1 (h.trans (List.map_id _).symm) c hc
  · intro h
    refine (List.map_congr_left fun c hc => ?_).trans (List.map_id _)
    exact (upperAsciiChar_eq_self_iff c).2 (h c hc)

/-- What is in capitals stays as it is. -/
theorem upperAscii_upperAscii (s : String) : upperAscii (upperAscii s) = upperAscii s := by
  rw [upperAscii_eq_self_iff]
  intro c hc
  rw [upperAscii_eq_map, String.toList_ofList, List.mem_map] at hc
  obtain ⟨d, -, rfl⟩ := hc
  exact not_isSmall_upperAsciiChar d

end Text

/-- Whether a status sends a client elsewhere with the same request. -/
def Status.IsRepeat (status : Int) : Prop := status = 307 ∨ status = 308

namespace Session

variable {w : Surroundings} {s s' : Session} {r r' : WireRequest}

/-- The next so many requests are answered by replies that ask for the same request elsewhere. -/
def RepeatsFor (w : Surroundings) (s : Session) (n : Nat) : Prop :=
  ∀ j < n, ∃ reply, w.script.event (s.position + j) = .reply reply ∧ Status.IsRepeat reply.status

/-- A redirect with the same request puts the method in capitals and keeps the body. -/
theorem Hop.method_of_repeats (h : Hop w s r s' r') (hrepeats : RepeatsFor w s 1) :
    r'.method = upperAscii r.method ∧ r'.body = r.body := by
  obtain ⟨hevent, -, hnext, -, -⟩ := h
  obtain ⟨reply, hreply, hstatus⟩ := hrepeats 0 Nat.zero_lt_one
  rw [Nat.add_zero, hevent] at hreply
  obtain rfl := WireEvent.reply.inj hreply
  -- neither status changes a method
  have hsame : ∀ method, Redirect.turnsToGet 307 method = false ∧
      Redirect.turnsToGet 308 method = false := by
    intro method
    simp [Redirect.turnsToGet, Redirect.method]
  obtain ⟨place, headers, completed, -, -, -, rfl⟩ := Redirect.next_eq_ok_iff.1 hnext
  rcases hstatus with hstatus | hstatus
  · rw [hstatus, (hsame r.method).1]
    exact ⟨rfl, rfl⟩
  · rw [hstatus, (hsame r.method).2]
    exact ⟨rfl, rfl⟩

/-- Along redirects with the same request, the first one puts the method in capitals, the others
leave it so, and all keep the body. -/
theorem Hops.method_of_repeats {n : Nat} (h : Hops w n s r s' r') (hrepeats : RepeatsFor w s n) :
    r'.method = (if n = 0 then r.method else upperAscii r.method) ∧ r'.body = r.body := by
  induction h with
  | nil s r => exact ⟨rfl, rfl⟩
  | @cons n s s₁ s' r r₁ r' hhop _ ih =>
    have hposition : s₁.position = s.position + 1 := Hops.position_eq (.cons hhop (.nil s₁ r₁))
    have hfirst : RepeatsFor w s 1 := fun j hj => hrepeats j (by omega)
    have hlater : RepeatsFor w s₁ n := by
      intro j hj
      have hnext := hrepeats (j + 1) (by omega)
      rw [hposition, Nat.add_right_comm]
      exact hnext
    obtain ⟨hmethod, hbody⟩ := hhop.method_of_repeats hfirst
    obtain ⟨hmethods, hbodies⟩ := ih hlater
    constructor
    · rw [hmethods, if_neg (Nat.succ_ne_zero n), hmethod]
      split
      · rfl
      · exact upperAscii_upperAscii r.method
    · rw [hbodies, hbody]

/-- The method goes out as it is written, except for what redirects make of it. The first request
that is handed over has it character for character. A later one that is only reached by redirects
with the same request has it in capitals, and has the body of the first. So its method is the
author's exactly if that has no small letters. -/
theorem execute_method (clock : Clock) (s : Session) (r : Request) (i : Nat) (x : WireRequest)
    (hx : (s.execute w clock r).sent[i]? = some x) (hrepeats : RepeatsFor w s i) :
    ∃ method, r.method = CodeText.ofString method ∧
      x.method = (if i = 0 then method else upperAscii method) ∧
      (∃ first, (s.execute w clock r).sent.head? = some first ∧ x.body = first.body) ∧
      (x.method = method ↔ i = 0 ∨ ∀ c ∈ method.toList, ¬IsSmall c) := by
  obtain ⟨hopen, -, wire, s', hwire, hhops⟩ := getElem?_sent_execute_iff.1 hx
  obtain ⟨url, method, payload, headers, -, htoken, -, -, hcomplete⟩ :=
    Request.toWire_eq_ok_iff.1 hwire
  refine ⟨method, (token?_eq_some_iff.1 htoken).1, ?_⟩
  -- the credentials of the URL are put into the headers, and nothing else is touched
  have hgiven : wire.withUrlCredentials.method = method := by
    rw [wire.withUrlCredentials_eq]
    exact (WireRequest.method_complete hcomplete).1
  obtain ⟨hmethod, hbody⟩ := hhops.method_of_repeats hrepeats
  rw [hgiven] at hmethod
  refine ⟨hmethod, ⟨_, head?_sent_execute_iff.2 ⟨hopen, wire, hwire, rfl⟩, hbody⟩, ?_⟩
  rw [hmethod]
  by_cases hi : i = 0
  · simp [hi]
  · rw [if_neg hi, upperAscii_eq_self_iff]
    simp [hi]

/-- A server that sends the first request elsewhere as it is, and answers everything else. -/
def repeatingServer : Surroundings :=
  ⟨[.reply ⟨307, [(Utf8.encode "Location", Utf8.encode "/b")], [], none⟩, .reply (.plain 200 [])],
    "", 0⟩

/-- A request with a method and a body. -/
def bodyRequest (method : String) : Request :=
  ⟨method, "http://h.test/", [], [], ⟨.text, some "x", none⟩, Auth.absent⟩

/-- The first reply asks for the same request elsewhere. -/
theorem repeatsFor_repeatingServer : RepeatsFor repeatingServer (start .standard) 1 := by
  intro j hj
  obtain rfl : j = 0 := by omega
  exact ⟨_, rfl, .inl rfl⟩

/-- `execute_method` at a method without small letters: it survives the redirect. -/
theorem execute_method_put :
    ∃ x, ((start .standard).execute repeatingServer [] (bodyRequest "PUT")).sent[1]? = some x ∧
      x.method = "PUT" ∧ CodeText.ofString x.method = (bodyRequest "PUT").method ∧
      ∃ first, ((start .standard).execute repeatingServer [] (bodyRequest "PUT")).sent.head? =
        some first ∧ x.body = first.body := by
  have hsent : ((start .standard).execute repeatingServer [] (bodyRequest "PUT")).sent[1]? ≠
      none := by
    decide +kernel
  obtain ⟨x, hx⟩ := Option.ne_none_iff_exists'.1 hsent
  obtain ⟨method, hwritten, -, hbody, hmethod⟩ :=
    execute_method [] (start .standard) (bodyRequest "PUT") 1 x hx repeatsFor_repeatingServer
  obtain rfl : "PUT" = method := CodeText.ofString_inj.1 hwritten
  have hcapitals : ∀ c ∈ "PUT".toList, ¬IsSmall c := forall_mem_of_all (by decide)
  have hsame := hmethod.2 (.inr hcapitals)
  exact ⟨x, hx, hsame, by rw [hsame]; rfl, hbody⟩

/-- A method with small letters does not survive a redirect with the same request. -/
theorem execute_method_ne_post :
    token? "post" = some "post" ∧ RepeatsFor repeatingServer (start .standard) 1 ∧
      ((start .standard).execute repeatingServer [] (bodyRequest "post")).sent.map
        (fun x => x.method) = ["post", "POST"] := by
  refine ⟨by decide +kernel, repeatsFor_repeatingServer, ?_⟩
  decide +kernel

end Session

end Courier
