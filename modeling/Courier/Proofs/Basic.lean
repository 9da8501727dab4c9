import Mathlib.Data.List.Induction

/-!
# What the proofs share

A list without its repeats grows from its end (`eraseDups_append_singleton`), which is how programs
list names: a name is added unless it is there. A list that is written item by item is read back if
its items are (`mapM_map_eq_some`). Steps that give a result together are taken apart one by one
(`bind_eq_ok_iff`, `map_eq_ok_iff`). A run on fixed inputs is checked by testing what it gives, so
that the result has to be taken out of the test (`exists_eq_ok_of_any`). And what is to be true of
the characters of a table is checked by one test of the table (`forall_mem_of_all`), because
characters are finitely many and the statement itself would be decided by trying them all; for those
of ASCII by a test of their numbers (`of_ascii`).
-/

namespace Courier

section Repeats

variable {α : Type} [BEq α] [LawfulBEq α]

/-- An item behind a list is added to the list without repeats unless it is there. -/
theorem eraseDups_append_singleton (xs : List α) (x : α) :
    (xs ++ [x]).eraseDups = if x ∈ xs then xs.eraseDups else xs.eraseDups ++ [x] := by
  rw [List.eraseDups_append]
  by_cases h : x ∈ xs
  · simp [h, List.removeAll]
  · simp [h, List.removeAll, List.eraseDups_cons]

/-- A list without repeats has none. -/
theorem nodup_eraseDups (xs : List α) : xs.eraseDups.Nodup := by
  induction xs using List.reverseRecOn with
  | nil => exact List.nodup_nil
  | append_singleton xs x ih =>
    rw [eraseDups_append_singleton]
    split
    · exact ih
    · rename_i hx
      refine List.nodup_append.2 ⟨ih, by simp, ?_⟩
      rintro a ha b hb rfl
      exact hx (List.mem_eraseDups.1 (List.mem_singleton.1 hb ▸ ha))

end Repeats

section Reading

variable {α β γ : Type}

/-- What is read back one by one is read back together. -/
theorem mapM_map_eq_some {f : β → Option γ} {g : α → β} {h : α → γ} {l : List α}
    (hread : ∀ a ∈ l, f (g a) = some (h a)) : (l.map g).mapM f = some (l.map h) := by
  induction l with
  | nil => rfl
  | cons a l ih =>
    have hfirst : f (g a) = some (h a) := hread a List.mem_cons_self
    have hlater : (l.map g).mapM f = some (l.map h) :=
      ih fun a' ha' => hread a' (List.mem_cons_of_mem a ha')
    rw [List.map_cons, List.mapM_cons, hfirst, hlater]
    rfl

/-- The same where what fails is an error. -/
theorem mapM_map_eq_ok {ε : Type} {f : β → Except ε γ} {g : α → β} {h : α → γ} {l : List α}
    (hread : ∀ a ∈ l, f (g a) = .ok (h a)) : (l.map g).mapM f = .ok (l.map h) := by
  induction l with
  | nil => rfl
  | cons a l ih =>
    have hfirst : f (g a) = .ok (h a) := hread a List.mem_cons_self
    have hlater : (l.map g).mapM f = .ok (l.map h) :=
      ih fun a' ha' => hread a' (List.mem_cons_of_mem a ha')
    rw [List.map_cons, List.mapM_cons, hfirst, hlater]
    rfl

end Reading

/-- Two steps give a result exactly if the second gives it from what the first gives. -/
theorem bind_eq_ok_iff {ε α β : Type} {x : Except ε α} {f : α → Except ε β} {b : β} :
    x >>= f = .ok b ↔ ∃ a, x = .ok a ∧ f a = .ok b := by
  cases x with
  | error e =>
    refine iff_of_false nofun ?_
    rintro ⟨a, ha, -⟩
    cases ha
  | ok a =>
    constructor
    · exact fun h => ⟨a, rfl, h⟩
    · rintro ⟨_, ⟨⟩, h⟩
      exact h

/-- A result in another form is there exactly if the result is. -/
theorem map_eq_ok_iff {ε α β : Type} {x : Except ε α} {f : α → β} {b : β} :
    x.map f = .ok b ↔ ∃ a, x = .ok a ∧ f a = b := by
  cases x with
  | error e => simp [Except.map]
  | ok a => simp [Except.map]

/-- A result in another form has the same error. -/
theorem map_eq_error_iff {ε α β : Type} {x : Except ε α} {f : α → β} {e : ε} :
    x.map f = .error e ↔ x = .error e := by
  cases x with
  | error e' => simp [Except.map]
  | ok a => simp [Except.map]

/-- An error in other words. -/
theorem mapError_eq_error_iff {ε ε' α : Type} {x : Except ε α} {g : ε → ε'} {e' : ε'} :
    x.mapError g = .error e' ↔ ∃ e, x = .error e ∧ g e = e' := by
  cases x with
  | error e => simp [Except.mapError]
  | ok a => simp [Except.mapError]

/-- A result does not depend on the words for errors. -/
theorem mapError_eq_ok_iff {ε ε' α : Type} {x : Except ε α} {g : ε → ε'} {a : α} :
    x.mapError g = .ok a ↔ x = .ok a := by
  cases x with
  | error e => simp [Except.mapError]
  | ok b => simp [Except.mapError]

/-- There is an error exactly if there is no result. -/
theorem exists_eq_error_iff {ε α : Type} {x : Except ε α} :
    (∃ e, x = .error e) ↔ ¬∃ a, x = .ok a := by
  cases x with
  | error e => simp
  | ok a => simp

/-- A result that passes a test is there. -/
theorem exists_eq_ok_of_any {ε α : Type} {x : Except ε α} {p : α → Bool}
    (h : x.toOption.any p = true) : ∃ a, x = .ok a ∧ p a = true := by
  cases x with
  | error e => cases h
  | ok a => exact ⟨a, rfl, h⟩

/-- What a test finds of all elements of a list is true of them. -/
theorem forall_mem_of_all {α : Type} {p : α → Prop} [DecidablePred p] {xs : List α}
    (h : (xs.all fun x => decide (p x)) = true) : ∀ x ∈ xs, p x :=
  fun x hx => of_decide_eq_true (List.all_eq_true.1 h x hx)

/-- What is true of the numbers of ASCII is true of its characters. -/
theorem of_ascii {p : Char → Prop} (h : ∀ n < 0x80, p (Char.ofNat n)) {c : Char}
    (hc : c.toNat < 0x80) : p c := by
  have hn := h c.toNat hc
  rwa [Char.ofNat_toNat] at hn

end Courier
