import Courier.Yaml.Cursor

/-!
# Moving through a YAML text

Where a cursor stands after some characters: what is left of the text, and how far the index and the
line have come.
-/

namespace Courier.Yaml.Cursor

variable {c : Cursor}

/-- The first character that is left. -/
theorem peek_zero {ch : Char} {r : List Char} (h : c.rest = ch :: r) : c.peek 0 = some ch := by
  rw [peek, h]
  rfl

/-- After one character, the others are left. -/
theorem rest_step {ch : Char} {r : List Char} (h : c.rest = ch :: r) : c.step.rest = r := by
  unfold step
  rw [h]
  simp only
  split
  · rfl
  · split <;> rfl

/-- Moving twice is moving once by the sum. -/
theorem forward_add (c : Cursor) (m n : Nat) : c.forward (m + n) = (c.forward m).forward n := by
  induction m generalizing c with
  | zero => rw [Nat.zero_add, forward]
  | succ m ih => rw [Nat.succ_add, forward, forward, ih]

/-- After some characters, the others are left. -/
theorem rest_forward {cs r : List Char} (h : c.rest = cs ++ r) :
    (c.forward cs.length).rest = r := by
  induction cs generalizing c with
  | nil => exact h
  | cons ch cs ih => exact ih (rest_step h)

/-- The index counts characters. -/
theorem index_forward {cs r : List Char} (h : c.rest = cs ++ r) :
    (c.forward cs.length).index = c.index + cs.length := by
  induction cs generalizing c with
  | nil => rfl
  | cons ch cs ih =>
    have hstep : c.step.index = c.index + 1 := by
      unfold step
      rw [h]
      simp only [List.cons_append]
      split
      · rfl
      · split <;> rfl
    rw [List.length_cons, forward, ih (rest_step h), hstep]
    omega

/-- The line stays where no line ends. -/
theorem line_forward {cs r : List Char} (h : c.rest = cs ++ r)
    (hcs : ∀ ch ∈ cs, isBreak ch = false) : (c.forward cs.length).line = c.line := by
  induction cs generalizing c with
  | nil => rfl
  | cons ch cs ih =>
    rw [List.forall_mem_cons] at hcs
    have hstep : c.step.line = c.line := by
      unfold step
      rw [h]
      simp only [List.cons_append, hcs.1, Bool.false_eq_true, if_false]
      split <;> rfl
    rw [List.length_cons, forward, ih (rest_step h) hcs.2, hstep]

/-- Characters that satisfy `p` are skipped up to one that does not. -/
theorem skip_eq_forward {p : Char → Bool} {cs r : List Char} (h : c.rest = cs ++ r)
    (hcs : ∀ ch ∈ cs, p ch = true) (hr : ∀ ch ∈ r.head?, p ch = false) :
    c.skip p = c.forward cs.length := by
  rw [skip, run, h, List.takeWhile_append_of_pos hcs]
  cases r with
  | nil => simp
  | cons ch r => rw [List.takeWhile_cons_of_neg (by simp [hr ch rfl]), List.append_nil]

end Courier.Yaml.Cursor
