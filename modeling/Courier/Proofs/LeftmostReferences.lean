import Courier.Proofs.Template
import Mathlib.Data.List.Basic

/-!
# The leftmost references of a text

A text is cut at references by saying what stands in front of each, what each is named, and what
stands behind the last one. Among all ways to do so there is one in which no reference begins
earlier than the one that is cut at (`Marks.IsLeftmost`), and the scanner finds it
(`isLeftmost_iff`). What is made of the pieces of a text, one after another, is therefore said by its
leftmost cut alone (`flatMap_eq_fill`, `referenceNames_eq_names`).

The argument is that characters in which no reference begins are pieces of their own
(`segments_append`).
-/

namespace Courier.Text

variable {α : Type}

/-- A text cut at references: what stands in front of each and its name, and what stands behind the
last one. -/
structure Cut (α : Type) where
  parts : List (List α × List α)
  tail : List α
  deriving DecidableEq, Repr

namespace Cut

/-- The names of the references, in order. -/
def names (cut : Cut α) : List (List α) := cut.parts.map Prod.snd

/-- The text with something in the place of each reference. -/
def fill (put : List α → List α) (cut : Cut α) : List α :=
  cut.parts.flatMap (fun p => p.1 ++ put p.2) ++ cut.tail

/-- A cut with characters in front. -/
def prepend (front : List α) : Cut α → Cut α
  | ⟨[], tail⟩ => ⟨[], front ++ tail⟩
  | ⟨(before, name) :: parts, tail⟩ => ⟨(front ++ before, name) :: parts, tail⟩

/-- The cut at the references among pieces. -/
def ofSegments : List (Segment α) → Cut α
  | [] => ⟨[], []⟩
  | .plain c :: segs => (ofSegments segs).prepend [c]
  | .reference name :: segs => ⟨([], name) :: (ofSegments segs).parts, (ofSegments segs).tail⟩

end Cut

/-- Whether a text is cut at its leftmost references that do not overlap: none begins before the
first, and so on behind that; and none begins in what is left. -/
inductive Marks.IsLeftmost (marks : Marks α) : List α → Cut α → Prop
  | done {tail : List α} (h : ∀ before rest, tail = before ++ rest → ¬ marks.Begins rest) :
    IsLeftmost marks tail ⟨[], tail⟩
  | reference {cs front name rest : List α} {cut : Cut α} (hname : name ≠ [])
    (hstop : marks.stop ∉ name)
    (hcs : cs = front ++ (marks.opening ++ (name ++ (marks.closing ++ rest))))
    (hfirst : ∀ before behind, cs = before ++ behind → before.length < front.length →
      ¬ marks.Begins behind)
    (hrest : IsLeftmost marks rest cut) :
    IsLeftmost marks cs ⟨(front, name) :: cut.parts, cut.tail⟩

section Pieces

variable {put : List α → List α}

/-- What is put in the places of references matters for their names only. -/
theorem Cut.fill_congr {put' : List α → List α} {cut : Cut α}
    (h : ∀ name ∈ cut.names, put name = put' name) : cut.fill put = cut.fill put' := by
  rw [fill, fill, List.flatMap_congr fun p hp => by rw [h p.2 (List.mem_map_of_mem hp)]]

/-- Characters in front stay in front. -/
theorem Cut.fill_prepend (front : List α) (cut : Cut α) :
    (cut.prepend front).fill put = front ++ cut.fill put := by
  obtain ⟨parts, tail⟩ := cut
  cases parts with
  | nil => rfl
  | cons p parts => simp [prepend, fill]

/-- Characters in front name nothing. -/
theorem Cut.names_prepend (front : List α) (cut : Cut α) :
    (cut.prepend front).names = cut.names := by
  obtain ⟨parts, tail⟩ := cut
  cases parts with
  | nil => rfl
  | cons p parts => rfl

/-- Characters are put in front one after another. -/
theorem Cut.prepend_prepend (a b : List α) (cut : Cut α) :
    (cut.prepend b).prepend a = cut.prepend (a ++ b) := by
  obtain ⟨parts, tail⟩ := cut
  cases parts with
  | nil => simp [prepend]
  | cons p parts => simp [prepend]

/-- What stands for each piece is put in the place of each reference, if other characters stand for
themselves. -/
theorem flatMap_eq_fill {f : Segment α → List α} (hplain : ∀ c, f (.plain c) = [c])
    (segs : List (Segment α)) :
    segs.flatMap f = (Cut.ofSegments segs).fill fun name => f (.reference name) := by
  induction segs with
  | nil => rfl
  | cons seg segs ih =>
    rw [List.flatMap_cons, ih]
    cases seg with
    | plain c => rw [Cut.ofSegments, Cut.fill_prepend, hplain]
    | reference name => simp [Cut.ofSegments, Cut.fill]

/-- The names among the pieces are those that the text is cut at. -/
theorem referenceNames_eq_names (segs : List (Segment α)) :
    referenceNames segs = (Cut.ofSegments segs).names := by
  induction segs with
  | nil => rfl
  | cons seg segs ih =>
    cases seg with
    | plain c =>
      rw [Cut.ofSegments, Cut.names_prepend, ← ih]
      rfl
    | reference name =>
      show name :: referenceNames segs = name :: (Cut.ofSegments segs).names
      rw [ih]

/-- Characters that are pieces of their own stand in front of the first reference. -/
theorem Cut.ofSegments_append (front : List α) (segs : List (Segment α)) :
    ofSegments (front.map .plain ++ segs) = (ofSegments segs).prepend front := by
  induction front with
  | nil =>
    show ofSegments segs = (ofSegments segs).prepend []
    obtain ⟨parts, tail⟩ := ofSegments segs
    cases parts with
    | nil => rfl
    | cons p parts => rfl
  | cons c front ih =>
    rw [List.map_cons, List.cons_append, ofSegments, ih, prepend_prepend]
    rfl

end Pieces

/-- A character with which no reference begins stands in front of a leftmost cut. -/
theorem Marks.IsLeftmost.cons {marks : Marks α} {c : α} {cs : List α} {cut : Cut α}
    (h : marks.IsLeftmost cs cut) (hc : ¬ marks.Begins (c :: cs)) :
    marks.IsLeftmost (c :: cs) (cut.prepend [c]) := by
  cases h with
  | done h =>
    refine .done fun before rest htail => ?_
    cases before with
    | nil =>
      rw [List.nil_append] at htail
      rwa [← htail]
    | cons d before => exact h before rest (List.cons.inj htail).2
  | @reference _ front name rest cut hname hstop hcs hfirst hrest =>
    refine .reference hname hstop (by rw [hcs]; rfl) ?_ hrest
    intro before behind hsplit hlength
    cases before with
    | nil =>
      rw [List.nil_append] at hsplit
      rwa [← hsplit]
    | cons d before =>
      exact hfirst before behind (List.cons.inj hsplit).2 (Nat.lt_of_succ_lt_succ hlength)

section Scanning

variable [DecidableEq α] {marks : Marks α}

/-- A leftmost cut is the one at the pieces that the scanner finds. -/
theorem Marks.IsLeftmost.eq_ofSegments {cs : List α} {cut : Cut α} (h : marks.IsLeftmost cs cut) :
    cut = Cut.ofSegments (segments marks cs) := by
  induction h with
  | @done tail h =>
    have hcut := Cut.ofSegments_append tail ([] : List (Segment α))
    rw [List.append_nil] at hcut
    rw [segments_eq_map_plain h, hcut]
    simp [Cut.ofSegments, Cut.prepend]
  | @reference cs front name rest cut hname hstop hcs hfirst hrest ih =>
    subst hcs
    have hfound : reference? marks (marks.opening ++ (name ++ (marks.closing ++ rest))) =
        some (name, rest) := reference?_eq_some_iff.2 ⟨hname, hstop, rfl⟩
    have hpieces : segments marks (front ++ (marks.opening ++ (name ++ (marks.closing ++ rest)))) =
        front.map .plain ++ .reference name :: segments marks rest := by
      rw [segments_append, segments_of_reference hfound]
      rintro before within rfl hwithin
      refine hfirst before _ (List.append_assoc before within _) ?_
      rw [List.length_append]
      exact Nat.lt_add_of_pos_right (List.length_pos_iff.2 hwithin)
    rw [hpieces, Cut.ofSegments_append, Cut.ofSegments, ← ih]
    simp [Cut.prepend]

/-- The pieces that the scanner finds make up a leftmost cut. -/
theorem isLeftmost_ofSegments (cs : List α) :
    marks.IsLeftmost cs (Cut.ofSegments (segments marks cs)) := by
  induction cs using segments.induct marks with
  | case1 cs name rest h ih =>
    obtain ⟨hname, hstop, hcs⟩ := reference?_eq_some_iff.1 h
    rw [segments_of_reference h]
    refine .reference hname hstop (show cs = [] ++ _ from hcs) ?_ ih
    exact fun before behind _ hlength => (Nat.not_lt_zero _ hlength).elim
  | case2 =>
    rw [segments_nil]
    refine .done fun before rest htail hbegins => ?_
    obtain ⟨-, rfl⟩ := List.append_eq_nil_iff.1 htail.symm
    obtain ⟨name, rest, hname, -, hcs⟩ := hbegins
    simp [hname] at hcs
  | case3 c cs h ih =>
    rw [segments_of_plain h]
    exact ih.cons fun hbegins => (begins_iff _).1 hbegins h

/-- A text has one leftmost cut, the one at the pieces that the scanner finds. -/
theorem isLeftmost_iff (cs : List α) (cut : Cut α) :
    marks.IsLeftmost cs cut ↔ cut = Cut.ofSegments (segments marks cs) := by
  constructor
  · exact Marks.IsLeftmost.eq_ofSegments
  · rintro rfl
    exact isLeftmost_ofSegments cs

end Scanning

end Courier.Text
