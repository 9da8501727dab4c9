import Courier.Text.Blank
import Mathlib.Data.List.TakeWhile

/-!
# Trimming

Between the characters that are trimmed off its two ends stands what is left of a text
(`exists_eq_trimWhile`); and what neither begins nor ends with a character to be trimmed is left of
any text in which it stands between such characters (`trimWhile_between`).
-/

namespace Courier.Text

variable {α : Type} {p : α → Bool} {c : α} {cs : List α}

/-- What is dropped from the end stood behind what is left. -/
theorem exists_eq_dropEndWhile (p : α → Bool) (cs : List α) :
    ∃ back, cs = dropEndWhile p cs ++ back ∧ ∀ c ∈ back, p c = true := by
  refine ⟨(cs.reverse.takeWhile p).reverse, ?_, ?_⟩
  · calc cs = (cs.reverse.takeWhile p ++ cs.reverse.dropWhile p).reverse := by
          rw [List.takeWhile_append_dropWhile, List.reverse_reverse]
      _ = dropEndWhile p cs ++ (cs.reverse.takeWhile p).reverse := List.reverse_append
  · exact fun c hc => List.mem_takeWhile_imp (List.mem_reverse.1 hc)

/-- What is trimmed stood around what is left. -/
theorem exists_eq_trimWhile (p : α → Bool) (cs : List α) :
    ∃ front back, cs = front ++ trimWhile p cs ++ back ∧ (∀ c ∈ front, p c = true) ∧
      ∀ c ∈ back, p c = true := by
  obtain ⟨back, hsplit, hback⟩ := exists_eq_dropEndWhile p (cs.dropWhile p)
  refine ⟨cs.takeWhile p, back, ?_, fun c hc => List.mem_takeWhile_imp hc, hback⟩
  calc cs = cs.takeWhile p ++ cs.dropWhile p := List.takeWhile_append_dropWhile.symm
    _ = cs.takeWhile p ++ (trimWhile p cs ++ back) := by rw [hsplit]; rfl
    _ = cs.takeWhile p ++ trimWhile p cs ++ back := (List.append_assoc ..).symm

/-- Trimming adds nothing. -/
theorem mem_of_mem_trimWhile (h : c ∈ trimWhile p cs) : c ∈ cs := by
  obtain ⟨front, back, hsplit, -, -⟩ := exists_eq_trimWhile p cs
  rw [hsplit]
  exact List.mem_append_left back (List.mem_append_right front h)

/-- Trimming keeps what is not to be trimmed. -/
theorem mem_trimWhile (h : c ∈ cs) (hp : p c = false) : c ∈ trimWhile p cs := by
  obtain ⟨front, back, hsplit, hfront, hback⟩ := exists_eq_trimWhile p cs
  rw [hsplit, List.mem_append, List.mem_append] at h
  obtain (h | h) | h := h
  · cases (hfront c h).symm.trans hp
  · exact h
  · cases (hback c h).symm.trans hp

/-- What stands between trimmed characters stays if it does not begin or end with one. -/
theorem trimWhile_between (p : α → Bool) (left core right : List α)
    (hleft : ∀ c ∈ left, p c = true) (hright : ∀ c ∈ right, p c = true)
    (hhead : ∀ c ∈ core.head?, p c = false) (hlast : ∀ c ∈ core.getLast?, p c = false) :
    trimWhile p (left ++ core ++ right) = core := by
  unfold trimWhile dropEndWhile
  cases core with
  | nil =>
    have hall : ∀ c ∈ left ++ [] ++ right, p c = true := by
      intro c hc
      rw [List.append_nil] at hc
      exact (List.mem_append.1 hc).elim (hleft c) (hright c)
    rw [List.dropWhile_eq_nil_iff.2 hall]
    rfl
  | cons c core =>
    have hfirst : p c = false := hhead c rfl
    have hfront : (left ++ c :: core ++ right).dropWhile p = c :: core ++ right := by
      rw [List.append_assoc, List.dropWhile_append_of_pos hleft, List.cons_append,
        List.dropWhile_cons_of_neg (by simp [hfirst])]
    have hback : ((c :: core).reverse).dropWhile p = (c :: core).reverse := by
      obtain ⟨d, ds, hd⟩ := List.exists_cons_of_ne_nil
        (List.reverse_ne_nil_iff.2 (List.cons_ne_nil c core))
      have hend : p d = false := by
        refine hlast d ?_
        rw [← List.head?_reverse, hd]
        rfl
      rw [hd, List.dropWhile_cons_of_neg (by simp [hend])]
    rw [hfront, List.reverse_append,
      List.dropWhile_append_of_pos fun c hc => hright c (List.mem_reverse.1 hc), hback,
      List.reverse_reverse]

/-- A text without a character to be trimmed is left as it is. -/
theorem trimWhile_eq_self (h : ∀ c ∈ cs, p c = false) : trimWhile p cs = cs := by
  have hbetween := trimWhile_between p [] cs [] nofun nofun
    (fun c hc => h c (List.mem_of_mem_head? hc)) fun c hc => h c (List.mem_of_getLast? hc)
  rwa [List.nil_append, List.append_nil] at hbetween

end Courier.Text
