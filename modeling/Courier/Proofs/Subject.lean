import Courier.Evaluation.Subject
import Courier.Proofs.JsonPath
import Courier.Proofs.JsonReader

/-!
# The subject of an assertion

Where looking for the value that an assertion is about ends in a fault (`resolve_cases`), and what
is found (`leads_of_resolve`). Faults only come from a JSON body, and those of paths only where one
is followed in a document (`Follows`), so that the cases are split there.
-/

namespace Courier

open Data

/-- The body as a JSON document; an empty one is an empty object. -/
def Response.readDocument (r : Response) : Except Json.Error Data :=
  Json.read (if r.body.isEmpty then "\x7b\x7d" else r.body)

/-- Whether the number of the response that a subject is about, if it is about one, can be
written. -/
def Response.CanShow (r : Response) : Subject → Prop
  | .status => isWritable r.status = true
  | .responseTime => isWritable r.time = true
  | _ => True

namespace Assertion

variable {a : Assertion} {r : Response} {d : Data}

/-- The subject of an assertion on a JSON body, step by step. -/
theorem resolve_of_json (h : a.subject = .json) :
    a.resolve r =
      match r.readDocument with
      | .error .malformed => .error (.subject .notJson)
      | .error (.tooManyDigits n) => .error (.fault (.unreadableNumber n))
      | .ok d =>
        if isBlankText a.key then .ok (some d)
        else
          match JsonPath.parse (a.key.getD []) with
          | .error (.tooManyDigits n) => .error (.fault (.unreadableNumber n))
          | .error e => .error (.subject (.badPath (a.key.getD []) e))
          | .ok path =>
            match path.first? d with
            | .ok found => .ok found
            | .error e => .error (.fault (.path e)) := by
  unfold resolve parseBody Response.readDocument
  rw [h]
  simp only
  cases Json.read (if r.body.isEmpty then "\x7b\x7d" else r.body) with
  | error e => cases e <;> rfl
  | ok d =>
    simp only [bind, Except.bind, pure, Except.pure]
    split
    · rfl
    · unfold parsePath
      cases JsonPath.parse (a.key.getD []) with
      | error e => cases e <;> rfl
      | ok path =>
        simp only
        cases path.first? d <;> rfl

/-- Whether an assertion follows a path in the document that the body is. -/
def Follows (a : Assertion) (r : Response) (d : Data) : Prop :=
  a.subject = .json ∧ isBlankText a.key = false ∧ r.readDocument = .ok d

/-- The subject where a path is followed. -/
theorem resolve_of_follows (h : a.Follows r d) :
    a.resolve r =
      match JsonPath.parse (a.key.getD []) with
      | .error (.tooManyDigits n) => .error (.fault (.unreadableNumber n))
      | .error e => .error (.subject (.badPath (a.key.getD []) e))
      | .ok path =>
        match path.first? d with
        | .ok found => .ok found
        | .error e => .error (.fault (.path e)) := by
  obtain ⟨hsubject, hkey, hd⟩ := h
  rw [resolve_of_json hsubject, hd]
  simp only
  rw [if_neg (by simp [hkey])]

/-- Whether the subject can be looked for: the numbers in the body and in the path have few enough
digits, and the path is not stuck in the document. -/
structure IsResolvable (a : Assertion) (r : Response) : Prop where
  /-- The integers of the body have few enough digits. -/
  body : a.subject = .json → ∀ n, r.readDocument ≠ .error (.tooManyDigits n)
  /-- So have the numbers of the path. -/
  path : ∀ d, a.Follows r d → ∀ n, JsonPath.parse (a.key.getD []) ≠ .error (.tooManyDigits n)
  /-- The path asks for nothing that the document has not. -/
  place : ∀ d, a.Follows r d → ∀ path, JsonPath.parse (a.key.getD []) = .ok path →
    ¬ path.Stuck ⟨d, []⟩

/-- Where a path is followed, its numbers and its places count. -/
theorem isResolvable_of_follows (h : a.Follows r d) :
    a.IsResolvable r ↔ (∀ n, JsonPath.parse (a.key.getD []) ≠ .error (.tooManyDigits n)) ∧
      ∀ path, JsonPath.parse (a.key.getD []) = .ok path → ¬ path.Stuck ⟨d, []⟩ := by
  have honly : ∀ d', a.Follows r d' → d' = d := fun d' h' =>
    Except.ok.inj (h'.2.2.symm.trans h.2.2)
  constructor
  · exact fun hr => ⟨hr.path d h, hr.place d h⟩
  · rintro ⟨hpath, hplace⟩
    refine ⟨fun _ n hn => ?_, fun _ _ => hpath, fun d' h' => ?_⟩
    · cases h.2.2.symm.trans hn
    · rw [honly d' h']
      exact hplace

/-- Where no path is followed, only the numbers in the body count. -/
theorem isResolvable_of_not_follows (h : ∀ d, ¬ a.Follows r d) :
    a.IsResolvable r ↔ (a.subject = .json → ∀ n, r.readDocument ≠ .error (.tooManyDigits n)) :=
  ⟨fun hr => hr.body, fun hbody =>
    ⟨hbody, fun d hd => (h d hd).elim, fun d hd => (h d hd).elim⟩⟩

/-- Looking for the subject where a path is followed ends in a fault exactly if it cannot be looked
for. -/
theorem resolve_cases_of_follows (h : a.Follows r d) :
    a.IsResolvable r ∧ (∀ f, a.resolve r ≠ .error (.fault f)) ∨
      ¬ a.IsResolvable r ∧ ∃ f, a.resolve r = .error (.fault f) := by
  rw [isResolvable_of_follows h, resolve_of_follows h]
  cases hpath : JsonPath.parse (a.key.getD []) with
  | error e =>
    cases e with
    | tooManyDigits n => exact .inr ⟨fun hr => hr.1 n rfl, _, rfl⟩
    | _ => exact .inl ⟨⟨nofun, nofun⟩, nofun⟩
  | ok path =>
    simp only [Except.ok.injEq, forall_eq']
    obtain ⟨hstuck, e, he⟩ | ⟨hfree, hfound⟩ := path.first?_cases d
    · rw [he]
      exact .inr ⟨fun hr => hr.2 hstuck, _, rfl⟩
    · have hok : ∃ found, path.first? d = .ok found := by
        obtain ⟨-, hnone⟩ | ⟨q, -, hsome⟩ := hfound
        · exact ⟨none, hnone⟩
        · exact ⟨some q.value, hsome⟩
      obtain ⟨found, hfound⟩ := hok
      rw [hfound]
      exact .inl ⟨⟨nofun, hfree⟩, nofun⟩

/-- Looking for the subject ends in a fault exactly if it cannot be looked for. -/
theorem resolve_cases (a : Assertion) (r : Response) :
    a.IsResolvable r ∧ (∀ f, a.resolve r ≠ .error (.fault f)) ∨
      ¬ a.IsResolvable r ∧ ∃ f, a.resolve r = .error (.fault f) := by
  by_cases hfollows : ∃ d, a.Follows r d
  · obtain ⟨d, hd⟩ := hfollows
    exact resolve_cases_of_follows hd
  · rw [isResolvable_of_not_follows (not_exists.1 hfollows)]
    by_cases hsubject : a.subject = .json
    · rw [resolve_of_json hsubject]
      cases hd : r.readDocument with
      | error e =>
        cases e with
        | malformed => exact .inl ⟨fun _ => nofun, nofun⟩
        | tooManyDigits n => exact .inr ⟨fun hbody => hbody hsubject n rfl, _, rfl⟩
      | ok d =>
        -- a path would be followed in this document
        have hkey : isBlankText a.key = true := by
          cases hkey : isBlankText a.key with
          | true => rfl
          | false => exact (hfollows ⟨d, hsubject, hkey, hd⟩).elim
        simp [hkey]
    · have hok : ∃ found, a.resolve r = .ok found := by
        unfold resolve
        cases hs : a.subject with
        | json => exact (hsubject hs).elim
        | _ => exact ⟨_, rfl⟩
      obtain ⟨found, hfound⟩ := hok
      exact .inl ⟨fun h => (hsubject h).elim, fun f => by simp [hfound]⟩

/-- What is found in a JSON body is the document, or something that the path leads to in it. -/
theorem leads_of_resolve {actual : Data} (hsubject : a.subject = .json)
    (h : a.resolve r = .ok (some actual)) :
    ∃ d, r.readDocument = .ok d ∧ (actual = d ∨
      ∃ path q, JsonPath.parse (a.key.getD []) = .ok path ∧ path.Leads ⟨d, []⟩ q ∧
        actual = q.value) := by
  rw [resolve_of_json hsubject] at h
  cases hd : r.readDocument with
  | error e =>
    rw [hd] at h
    cases e <;> cases h
  | ok d =>
    refine ⟨d, rfl, ?_⟩
    rw [hd] at h
    simp only at h
    split at h
    · cases h
      exact .inl rfl
    · cases hpath : JsonPath.parse (a.key.getD []) with
      | error e =>
        rw [hpath] at h
        cases e <;> cases h
      | ok path =>
        rw [hpath] at h
        simp only at h
        obtain ⟨-, e, he⟩ | ⟨-, ⟨-, hnone⟩ | ⟨q, hq, hsome⟩⟩ := path.first?_cases d
        · rw [he] at h
          cases h
        · rw [hnone] at h
          cases h
        · rw [hsome] at h
          cases h
          exact .inr ⟨path, q, rfl, hq, rfl⟩

/-- The value found can be written unless it is a number of the response that cannot. -/
theorem isWritable_of_resolve {actual : Data} (h : a.resolve r = .ok (some actual)) :
    actual.IsWritable ↔ r.CanShow a.subject := by
  cases hsubject : a.subject with
  | json =>
    obtain ⟨d, hd, hactual⟩ := leads_of_resolve hsubject h
    have hdocument : d.IsWritable := Json.isWritable_of_read hd
    refine iff_of_true ?_ trivial
    obtain rfl | ⟨path, q, -, hq, rfl⟩ := hactual
    · exact hdocument
    · have hplace : JsonPath.Place.IsWritable ⟨d, []⟩ := by
        simpa [JsonPath.Place.IsWritable] using hdocument
      exact JsonPath.isWritable_of_leads path hplace hq _ List.mem_cons_self
  | status =>
    simp only [resolve, hsubject, Except.ok.injEq, Option.some.injEq] at h
    rw [← h, isWritable_int_iff]
    rfl
  | responseTime =>
    simp only [resolve, hsubject, Except.ok.injEq, Option.some.injEq] at h
    rw [← h, isWritable_int_iff]
    rfl
  | body =>
    simp only [resolve, hsubject, Except.ok.injEq, Option.some.injEq] at h
    rw [← h]
    exact iff_of_true (isWritable_text _) trivial
  | header =>
    simp only [resolve, hsubject, Except.ok.injEq, Option.map_eq_some_iff] at h
    obtain ⟨s, -, rfl⟩ := h
    exact iff_of_true (isWritable_text s) trivial

end Assertion

end Courier
