import Courier.Text.CodeSet

/-!
# Reading tables of code points

Cutting at separators is the library's cutting (`splitAtAll_eq_splitOnP`), and a table of runs is
the list of the items of its text that are runs (`toList_runs_ofText`); likewise a set is the list
of its ranges (`toList_ranges_ofText`). The characters of the text are a variable there, so that a
statement about all runs of a table can be checked on the characters of its literal.
-/

namespace Courier.Text

/-- Cutting at all separators is the library's cutting. -/
theorem splitAtAll_eq_splitOnP {α : Type} (p : α → Bool) (cs : List α) :
    splitAtAll p cs = cs.splitOnP p := by
  induction cs with
  | nil => rfl
  | cons c cs ih =>
    rw [splitAtAll, ih, List.splitOnP_cons_eq_if_modifyHead]
    split
    · rename_i h
      exact absurd h (List.splitOnP_ne_nil p cs)
    · rename_i g gs h
      rw [h]
      rfl

section Cutting

variable {α β : Type} {p : α → Bool}

/-- Cutting a list that begins with an element: it is a cut, or it goes in front of the first piece
of the others. -/
theorem splitAtAll_cons (p : α → Bool) (c : α) (cs : List α) :
    splitAtAll p (c :: cs) =
      if p c = true then [] :: splitAtAll p cs else (splitAtAll p cs).modifyHead (c :: ·) := by
  rw [splitAtAll_eq_splitOnP, splitAtAll_eq_splitOnP, List.splitOnP_cons_eq_if_modifyHead]

/-- There is at least one piece. -/
theorem exists_splitAtAll_eq_cons (p : α → Bool) (cs : List α) :
    ∃ first rest, splitAtAll p cs = first :: rest := by
  rw [splitAtAll_eq_splitOnP]
  exact List.exists_cons_of_ne_nil (List.splitOnP_ne_nil p cs)

/-- The pieces have what stood there before, apart from the cuts. -/
theorem mem_splitAtAll_iff {cs : List α} {c : α} :
    (∃ piece ∈ splitAtAll p cs, c ∈ piece) ↔ c ∈ cs ∧ p c = false := by
  induction cs with
  | nil => simp [splitAtAll]
  | cons d cs ih =>
    obtain ⟨first, rest, hpieces⟩ := exists_splitAtAll_eq_cons p cs
    simp only [hpieces, List.mem_cons, exists_eq_or_imp] at ih
    rw [splitAtAll_cons, hpieces, List.mem_cons, or_and_right, ← ih]
    split
    · rename_i hd
      have hnot : ¬(c = d ∧ p c = false) := by
        rintro ⟨rfl, hc⟩
        rw [hc] at hd
        cases hd
      simp [hnot]
    · rename_i hd
      have hin : c = d ↔ c = d ∧ p c = false :=
        ⟨fun h => ⟨h, by rw [h]; simpa using hd⟩, fun h => h.1⟩
      simp only [List.modifyHead_cons, List.mem_cons, exists_eq_or_imp, or_assoc, ← hin]

/-- Writing every element anew and cutting can be exchanged, if a cut is written as one cut and
nothing else is written with cuts. -/
theorem splitAtAll_flatMap {q : β → Bool} {f : α → List β}
    (hcut : ∀ c, p c = true → ∃ d, f c = [d] ∧ q d = true)
    (hkeep : ∀ c, p c = false → ∀ d ∈ f c, q d = false) (cs : List α) :
    splitAtAll q (cs.flatMap f) = (splitAtAll p cs).map fun piece => piece.flatMap f := by
  -- what is written without cuts goes in front of the first piece
  have hfront : ∀ front rest : List β, (∀ d ∈ front, q d = false) →
      splitAtAll q (front ++ rest) = (splitAtAll q rest).modifyHead (front ++ ·) := by
    intro front rest hnone
    induction front with
    | nil =>
      obtain ⟨first, others, hpieces⟩ := exists_splitAtAll_eq_cons q rest
      rw [List.nil_append, hpieces]
      rfl
    | cons d front ih =>
      rw [List.forall_mem_cons] at hnone
      rw [List.cons_append, splitAtAll_cons, hnone.1, if_neg Bool.false_ne_true, ih hnone.2,
        List.modifyHead_modifyHead]
      rfl
  induction cs with
  | nil => rfl
  | cons c cs ih =>
    rw [List.flatMap_cons, splitAtAll_cons]
    split
    · rename_i hc
      obtain ⟨d, hd, hq⟩ := hcut c hc
      rw [hd, List.singleton_append, splitAtAll_cons, if_pos hq, ih]
      rfl
    · rename_i hc
      obtain ⟨first, rest, hpieces⟩ := exists_splitAtAll_eq_cons p cs
      rw [hfront _ _ (hkeep c (by simpa using hc)), ih, hpieces]
      rfl

/-- What stands in joined pieces stands in the separator or in one of the pieces. -/
theorem mem_intercalate {separator : List α} {pieces : List (List α)} {c : α}
    (h : c ∈ List.intercalate separator pieces) : c ∈ separator ∨ ∃ piece ∈ pieces, c ∈ piece := by
  induction pieces with
  | nil => cases h
  | cons piece rest ih =>
    cases rest with
    | nil => exact .inr ⟨piece, List.mem_cons_self, by simpa using h⟩
    | cons next rest =>
      rw [List.intercalate_cons_cons] at h
      rcases List.mem_append.1 h with h | h
      · exact (List.mem_append.1 h).symm.imp_right fun h => ⟨piece, List.mem_cons_self, h⟩
      · refine (ih h).imp_right ?_
        rintro ⟨found, hfound, hc⟩
        exact ⟨found, .tail piece hfound, hc⟩

end Cutting

namespace CodeSet

/-- The range that an item describes. -/
def readRange? (item : List Char) : Option (Nat × Nat) :=
  match splitAtAll (· == '-') item with
  | [a, b] => some (hexValue a, hexValue b)
  | [a] => some (hexValue a, hexValue a)
  | _ => none

/-- The ranges of a set are the items of its text that describe ranges. -/
theorem toList_ranges_ofText {s : String} {cs : List Char} (h : s = String.ofList cs) :
    (ofText s).ranges.toList =
      ((cs.splitOnP fun c => c == ' ' || c == '\n').filter fun item =>
        !item.isEmpty).filterMap readRange? := by
  subst h
  rw [← splitAtAll_eq_splitOnP]
  unfold ofText items
  rw [String.toList_ofList]
  rfl

/-- A code point that bisection finds lies in one of the ranges. -/
theorem exists_of_find {t : CodeSet} {n fuel lo hi : Nat} (h : t.find n fuel lo hi = true) :
    ∃ r ∈ t.ranges.toList, r.1 ≤ n ∧ n ≤ r.2 := by
  induction fuel generalizing lo hi with
  | zero => cases h
  | succ fuel ih =>
    rw [find] at h
    split at h
    · simp only at h
      split at h
      · cases h
      · rename_i a b hrange
        split at h
        · exact ih h
        · split at h
          · exact ih h
          · have hin := Array.mem_of_getElem? hrange
            exact ⟨(a, b), Array.mem_toList_iff.2 hin, by simp only; omega, by simp only; omega⟩
    · cases h

/-- A code point of a set lies in one of its ranges. -/
theorem exists_of_contains {t : CodeSet} {n : Nat} (h : t.contains n = true) :
    ∃ r ∈ t.ranges.toList, r.1 ≤ n ∧ n ≤ r.2 :=
  exists_of_find h

end CodeSet

namespace CodeRuns

/-- The run that an item describes. -/
def readRun? (item : List Char) : Option CodeRun :=
  match splitAtAll (· == ',') item with
  | [a, b, stride, '-' :: d] => some ⟨hexValue a, hexValue b, hexValue stride, -(hexValue d : Int)⟩
  | [a, b, stride, d] => some ⟨hexValue a, hexValue b, hexValue stride, hexValue d⟩
  | _ => none

/-- The runs of a table are the items of its text that describe runs. -/
theorem toList_runs_ofText {s : String} {cs : List Char} (h : s = String.ofList cs) :
    (ofText s).runs.toList =
      ((cs.splitOnP fun c => c == ' ' || c == '\n').filter fun item =>
        !item.isEmpty).filterMap readRun? := by
  subst h
  rw [← splitAtAll_eq_splitOnP]
  unfold ofText items
  rw [String.toList_ofList]
  rfl

/-- The image of a code point is its distance away, in a run that holds it. -/
theorem exists_of_image?_eq_some {t : CodeRuns} {n m : Nat} (h : t.image? n = some m) :
    ∃ r ∈ t.runs.toList, r.first ≤ n ∧ n ≤ r.last ∧ m = ((n : Int) + r.shift).toNat := by
  obtain ⟨r, hr, rfl⟩ := Option.map_eq_some_iff.1 h
  have hin := Array.find?_some hr
  simp only [Bool.and_eq_true, decide_eq_true_eq] at hin
  exact ⟨r, Array.mem_toList_iff.2 (Array.mem_of_find?_eq_some hr), hin.1.1, hin.1.2, rfl⟩

end CodeRuns

end Courier.Text
