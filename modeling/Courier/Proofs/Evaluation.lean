import Courier.Proofs.Check
import Courier.Proofs.Subject
import Mathlib.Data.List.Forall2

/-!
# Verdicts on a response

When assertions have verdicts on a response, and what these say (`evaluateAll_verdicts`). Looking
for the subject, writing the message and writing the label each fail in their own way; `IsEvaluable`
says when none of them does. The induction is on the assertions.
-/

namespace Courier

open Data

namespace Assertion

variable {a : Assertion} {r : Response}

/-- Whether the message of a check can be written, if there is to be one: the value found meets the
assertion, or what is shown of the expected value and of the response can be written. -/
def IsReportable (a : Assertion) (r : Response) : Prop :=
  ∀ actual, a.resolve r = .ok (some actual) →
    a.Meets actual ∨ a.value.IsWritable ∧ (a.op ≠ .property → r.CanShow a.subject)

/-- What an assertion needs for a verdict on a response: its subject can be looked for, and the
message and the label can be written. -/
structure IsEvaluable (a : Assertion) (r : Response) : Prop extends IsResolvable a r where
  /-- The message of its check can be written, if there is one. -/
  message : a.IsReportable r
  /-- The expected value can be written where the label shows it. -/
  label : isBlankText a.name = true → a.op ≠ .exist → a.value.IsWritable

/-- An assertion passes on a response that has the value and where it meets the assertion. -/
def Passes (a : Assertion) (r : Response) : Prop :=
  ∃ actual, a.resolve r = .ok (some actual) ∧ a.Meets actual

/-- What is wrong is said unless a number stands in the way, and nothing exactly if the assertion
passes. -/
theorem complaint_cases (a : Assertion) (r : Response) :
    (a.IsResolvable r ∧ a.IsReportable r) ∧
        (∃ m, a.complaint r = .ok m ∧ (m = none ↔ a.Passes r)) ∨
      ¬ (a.IsResolvable r ∧ a.IsReportable r) ∧ ∃ f, a.complaint r = .error f := by
  unfold complaint IsReportable Passes
  obtain ⟨hresolvable, hfault⟩ | ⟨hresolvable, f, hf⟩ := resolve_cases a r
  · cases hresolve : a.resolve r with
    | error e =>
      cases e with
      | subject e => exact .inl ⟨⟨hresolvable, nofun⟩, _, rfl, by simp⟩
      | fault f => exact (hfault f hresolve).elim
    | ok found =>
      cases found with
      | none => exact .inl ⟨⟨hresolvable, nofun⟩, _, rfl, by simp⟩
      | some actual =>
        simp only [Except.ok.injEq, Option.some.injEq, forall_eq', exists_eq_left']
        -- of the value found, only a number of the response itself can be too long
        have hshows : a.Shows actual ↔
            a.value.IsWritable ∧ (a.op ≠ .property → r.CanShow a.subject) := by
          rw [Shows, isWritable_of_resolve hresolve]
        obtain ⟨hs, m, hm⟩ | ⟨hs, he⟩ := writes_check a actual
        · exact .inl ⟨⟨hresolvable, hs.imp_right hshows.1⟩, m, hm⟩
        · exact .inr ⟨fun h => hs (h.2.imp_right hshows.2), _, he⟩
  · rw [hf]
    exact .inr ⟨fun h => hresolvable h.1, f, rfl⟩

/-- There is a label unless the expected value has to be shown in it and cannot be written. -/
theorem label?_ne_none_iff (a : Assertion) :
    a.label? ≠ none ↔ (isBlankText a.name = true → a.op ≠ .exist → a.value.IsWritable) := by
  unfold label?
  split
  · rename_i hblank
    rw [← literal?_ne_none_iff]
    by_cases hop : a.op = .exist
    · simp [hop]
    · cases a.value.literal? <;> simp [hop, hblank]
  · rename_i hnamed
    have hname : a.name ≠ none := by
      intro hnone
      simp [hnone, isBlankText] at hnamed
    exact iff_of_true hname fun hblank => (hnamed hblank).elim

/-- What a verdict says about an assertion on a response. -/
structure Answers (r : Response) (a : Assertion) (v : Verdict) : Prop where
  /-- It bears the assertion's label. -/
  name : a.label? = some v.name
  /-- It passes without a message or fails with one. -/
  message : v.passed = true ∧ v.message = none ∨ v.passed = false ∧ ∃ m, v.message = some m
  /-- It passes exactly if the response has the value and it meets the assertion. -/
  passed : v.passed = true ↔ a.Passes r
  /-- A body that is not JSON is a failure. -/
  notJson : a.subject = .json → r.readDocument = .error .malformed →
    v.message = some "Response body is not valid JSON"
  /-- So is a path that is none. -/
  badPath : ∀ d e, a.Follows r d → JsonPath.parse (a.key.getD []) = .error e →
    v.message = some ("Invalid JSONPath '" ++ a.key.getD [] ++ "': " ++ e.message)
  /-- So is a path that leads nowhere. -/
  noMatch : ∀ d path, a.Follows r d → JsonPath.parse (a.key.getD []) = .ok path →
    (∀ q, ¬ path.Leads ⟨d, []⟩ q) →
      v.message = some ("No match for JSONPath '" ++ a.key.getD [] ++ "'")
  /-- So is a header that is not there. -/
  noHeader : ∀ name, a.subject = .header → a.key = some name → r.header? name = none →
    v.message = some ("Header '" ++ name ++ "' not found")

/-- A verdict with what is wrong for its message answers the assertion. -/
theorem answers_of_complaint {name : CodeText} {m : Option CodeText}
    (hcomplaint : a.complaint r = .ok m) (hpasses : m = none ↔ a.Passes r)
    (hname : a.label? = some name) : Answers r a ⟨name, m.isNone, m⟩ where
  name := hname
  message := by
    cases m with
    | none => exact .inl ⟨rfl, rfl⟩
    | some m => exact .inr ⟨rfl, m, rfl⟩
  passed := Option.isNone_iff_eq_none.trans hpasses
  notJson hsubject hd := by
    rw [complaint, resolve_of_json hsubject, hd] at hcomplaint
    exact (Except.ok.inj hcomplaint).symm
  badPath d e hfollows he := by
    rw [complaint, resolve_of_follows hfollows, he] at hcomplaint
    cases e with
    | tooManyDigits n => cases hcomplaint
    | _ => exact (Except.ok.inj hcomplaint).symm
  noMatch d path hfollows hpath hleads := by
    obtain ⟨hsubject, hkey, -⟩ := id hfollows
    rw [complaint, resolve_of_follows hfollows, hpath] at hcomplaint
    simp only at hcomplaint
    obtain ⟨-, e, he⟩ | ⟨-, ⟨-, hnone⟩ | ⟨q, hq, -⟩⟩ := path.first?_cases d
    · rw [he] at hcomplaint
      cases hcomplaint
    · rw [hnone, notFoundMessage, hsubject] at hcomplaint
      obtain ⟨key, hsome⟩ : ∃ key, a.key = some key := by
        cases hnone : a.key with
        | none => simp [hnone, isBlankText] at hkey
        | some key => exact ⟨key, rfl⟩
      rw [hsome] at hcomplaint ⊢
      exact (Except.ok.inj hcomplaint).symm
    · exact (hleads q hq).elim
  noHeader key hsubject hkey hmissing := by
    have hresolve : a.resolve r = .ok none := by
      simp [resolve, hsubject, hkey, hmissing]
    rw [complaint, hresolve, notFoundMessage, hsubject, hkey] at hcomplaint
    exact (Except.ok.inj hcomplaint).symm

/-- An assertion has a verdict, which answers it, exactly if nothing stands in the way. -/
theorem evaluate_cases (a : Assertion) (r : Response) :
    a.IsEvaluable r ∧ (∃ v, a.evaluate r = .ok v ∧ Answers r a v) ∨
      ¬ a.IsEvaluable r ∧ ∃ f, a.evaluate r = .error f := by
  unfold evaluate
  obtain ⟨⟨hresolvable, hmessage⟩, m, hm, hpasses⟩ | ⟨hbroken, f, hf⟩ := complaint_cases a r
  · rw [hm]
    cases hlabel : a.label? with
    | none =>
      refine .inr ⟨fun h => ?_, .unwritableNumber, rfl⟩
      exact (label?_ne_none_iff a).2 h.label hlabel
    | some name =>
      have hwritable := (label?_ne_none_iff a).1 (by simp [hlabel])
      exact .inl ⟨⟨hresolvable, hmessage, hwritable⟩, _, rfl,
        answers_of_complaint hm hpasses hlabel⟩
  · rw [hf]
    exact .inr ⟨fun h => hbroken ⟨h.toIsResolvable, h.message⟩, f, rfl⟩

end Assertion

/-- Assertions have verdicts exactly if each has one; there is then one verdict for each, in order,
and it answers the assertion. -/
theorem evaluateAll_cases (r : Response) (as : List Assertion) :
    (∀ a ∈ as, a.IsEvaluable r) ∧
        (∃ vs, evaluateAll r as = .ok vs ∧ List.Forall₂ (Assertion.Answers r) as vs) ∨
      ¬ (∀ a ∈ as, a.IsEvaluable r) ∧ ∃ f, evaluateAll r as = .error f := by
  induction as with
  | nil => exact .inl ⟨by simp, [], rfl, .nil⟩
  | cons a rest ih =>
    rw [List.forall_mem_cons]
    unfold evaluateAll
    obtain ⟨ha, v, hv, hanswers⟩ | ⟨ha, f, hf⟩ := a.evaluate_cases r
    · rw [hv]
      obtain ⟨hrest, vs, hvs, hall⟩ | ⟨hrest, f, hf⟩ := ih
      · rw [hvs]
        exact .inl ⟨⟨ha, hrest⟩, v :: vs, rfl, .cons hanswers hall⟩
      · rw [hf]
        exact .inr ⟨fun h => hrest h.2, f, rfl⟩
    · rw [hf]
      exact .inr ⟨fun h => ha h.1, f, rfl⟩

end Courier
