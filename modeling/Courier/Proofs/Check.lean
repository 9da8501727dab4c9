import Courier.Evaluation.Check
import Courier.Proofs.Literal

/-!
# Checks of a value

A check gives no message exactly if the value meets the assertion, and else one that shows values,
unless these hold an integer of too many digits (`writes_check`). A message is put together from
texts that each can be written or not; `Writes` is what such steps have in common.
-/

namespace Courier

open Data

section Writing

variable {α β γ : Type} {o : Except EvaluationFault α} {shown shown' : Prop} {p : α → Prop}

/-- An outcome that satisfies `p` if what is shown can be written, and else is the fault that it
cannot. -/
def Writes (o : Except EvaluationFault α) (shown : Prop) (p : α → Prop) : Prop :=
  shown ∧ (∃ x, o = .ok x ∧ p x) ∨ ¬ shown ∧ o = .error .unwritableNumber

/-- The same outcome in other words. -/
theorem Writes.congr (h : Writes o shown p) (hshown : shown ↔ shown') : Writes o shown' p := by
  obtain ⟨hs, hx⟩ | ⟨hs, he⟩ := h
  · exact .inl ⟨hshown.1 hs, hx⟩
  · exact .inr ⟨fun hs' => hs (hshown.2 hs'), he⟩

/-- A message that shows one text. -/
theorem Writes.message (f : α → β) (h : Writes o shown fun _ => True) :
    Writes (do return some (f (← o))) shown (· ≠ none) := by
  obtain ⟨hs, s, rfl, -⟩ | ⟨hs, rfl⟩ := h
  · exact .inl ⟨hs, _, rfl, Option.some_ne_none _⟩
  · exact .inr ⟨hs, rfl⟩

/-- A message that shows two texts. -/
theorem Writes.messageOfBoth {o' : Except EvaluationFault β} (f : α → β → γ)
    (h : Writes o shown fun _ => True) (h' : Writes o' shown' fun _ => True) :
    Writes (do return some (f (← o) (← o'))) (shown ∧ shown') (· ≠ none) := by
  obtain ⟨hs, s, rfl, -⟩ | ⟨hs, rfl⟩ := h
  · obtain ⟨hs', s', rfl, -⟩ | ⟨hs', rfl⟩ := h'
    · exact .inl ⟨⟨hs, hs'⟩, _, rfl, Option.some_ne_none _⟩
    · exact .inr ⟨fun hboth => hs' hboth.2, rfl⟩
  · exact .inr ⟨fun hboth => hs hboth.1, rfl⟩

/-- A complaint is written unless all is well. -/
theorem Writes.unless {complaint : Except EvaluationFault (Option α)} {good : Prop}
    [Decidable good] (h : Writes complaint shown (· ≠ none)) :
    Writes (if good then return none else complaint) (good ∨ shown) (· = none ↔ good) := by
  by_cases hgood : good
  · rw [if_pos hgood]
    exact .inl ⟨.inl hgood, none, rfl, iff_of_true rfl hgood⟩
  · rw [if_neg hgood]
    obtain ⟨hs, m, hm, hne⟩ | ⟨hs, he⟩ := h
    · exact .inl ⟨.inr hs, m, hm, iff_of_false hne hgood⟩
    · exact .inr ⟨not_or.2 ⟨hgood, hs⟩, he⟩

/-- A value has a literal for a message if it can be written. -/
theorem writes_literalOf (v : Data) : Writes (literalOf v) v.IsWritable fun _ => True := by
  rw [← literal?_ne_none_iff, literalOf]
  cases v.literal? with
  | none => exact .inr ⟨fun h => h rfl, rfl⟩
  | some s => exact .inl ⟨Option.some_ne_none s, s, rfl, trivial⟩

/-- A value is running text for a message if it can be written. -/
theorem writes_displayOf (v : Data) : Writes (displayOf v) v.IsWritable fun _ => True := by
  rw [← display?_ne_none_iff, displayOf]
  cases v.display? with
  | none => exact .inr ⟨fun h => h rfl, rfl⟩
  | some s => exact .inl ⟨Option.some_ne_none s, s, rfl, trivial⟩

end Writing

namespace Assertion

/-- Whether a value meets what an assertion asks of it. -/
def Meets (a : Assertion) (actual : Data) : Prop :=
  match a.op with
  | .equal => ∃ expected, a.expected = .ok expected ∧ actual.same expected = true
  | .below => ordered .lt actual a.value = true
  | .above => ordered .gt actual a.value = true
  | .includes => includes actual a.value = true
  | .property => hasEntry actual a.value = true
  | .exist => True

/-- The values that a failed check shows; one for an entry does not show the value found. -/
def Shows (a : Assertion) (actual : Data) : Prop :=
  a.value.IsWritable ∧ (a.op ≠ .property → actual.IsWritable)

/-- Other checks show both values. -/
theorem shows_iff {a : Assertion} {actual : Data} (h : a.op ≠ .property) :
    a.Shows actual ↔ actual.IsWritable ∧ a.value.IsWritable := by
  simp [Shows, h, and_comm]

/-- The expected value can be written if the one of the assertion can, which a number that is
compared with a text has to. -/
theorem expected_cases (a : Assertion) :
    (∃ expected, a.expected = .ok expected ∧ (expected.IsWritable ↔ a.value.IsWritable)) ∨
      ¬ a.value.IsWritable ∧ a.expected = .error .unwritableNumber := by
  unfold expected
  split
  · obtain ⟨hw, s, hs, -⟩ | ⟨hw, he⟩ := writes_displayOf a.value
    · rw [hs]
      exact .inl ⟨_, rfl, iff_of_true (isWritable_ofCodeText s) hw⟩
    · rw [he]
      exact .inr ⟨hw, rfl⟩
  · exact .inl ⟨_, rfl, Iff.rfl⟩

/-- A check for equality. -/
theorem writes_checkEqual {a : Assertion} (hop : a.op = .equal) (actual : Data) :
    Writes (a.checkEqual actual) (a.Meets actual ∨ a.Shows actual) (· = none ↔ a.Meets actual) := by
  obtain ⟨expected, hexpected, hwritable⟩ | ⟨hw, he⟩ := expected_cases a
  · have hmeets : a.Meets actual ↔ actual.same expected = true := by
      simp [Meets, hop, hexpected]
    have hshows : a.Shows actual ↔ expected.IsWritable ∧ actual.IsWritable := by
      rw [shows_iff (by simp [hop]), hwritable, and_comm]
    unfold checkEqual
    rw [hexpected, hmeets, hshows]
    refine Writes.unless ?_
    -- a status is shown as running text, and the message on a value names it first
    split
    · exact (writes_displayOf _).messageOfBoth _ (writes_displayOf _)
    · exact (writes_literalOf _).messageOfBoth _ (writes_literalOf _)
    · exact ((writes_literalOf _).messageOfBoth _ (writes_literalOf _)).congr and_comm
  · -- without an expected value nothing is met, and nothing can be shown
    refine .inr ⟨?_, ?_⟩
    · simp [Meets, Shows, hop, he, hw]
    · unfold checkEqual
      rw [he]
      rfl

/-- A check for an order. -/
theorem writes_checkOrder (a : Assertion) (order : Ordering) (word : String) (actual : Data) :
    Writes (a.checkOrder order word actual)
      (ordered order actual a.value = true ∨ actual.IsWritable ∧ a.value.IsWritable)
      (· = none ↔ ordered order actual a.value = true) :=
  ((writes_literalOf actual).messageOfBoth _ (writes_displayOf a.value)).unless

/-- A check gives no message exactly if the assertion is met, and a message if it can be
written. -/
theorem writes_check (a : Assertion) (actual : Data) :
    Writes (a.check actual) (a.Meets actual ∨ a.Shows actual) (· = none ↔ a.Meets actual) := by
  unfold check
  cases hop : a.op with
  | equal => exact writes_checkEqual hop actual
  | below =>
    rw [shows_iff (by simp [hop]), Meets, hop]
    exact writes_checkOrder a .lt "below" actual
  | above =>
    rw [shows_iff (by simp [hop]), Meets, hop]
    exact writes_checkOrder a .gt "above" actual
  | includes =>
    rw [shows_iff (by simp [hop]), Meets, hop]
    exact ((writes_literalOf actual).messageOfBoth _ (writes_literalOf a.value)).unless
  | property =>
    have hshows : a.Shows actual ↔ a.value.IsWritable := by
      simp [Shows, hop]
    rw [hshows, Meets, hop]
    exact ((writes_displayOf a.value).message _).unless
  | exist =>
    rw [Meets, hop]
    exact .inl ⟨.inl trivial, none, rfl, iff_of_true rfl trivial⟩

end Assertion

end Courier
