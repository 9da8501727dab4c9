import Courier.Text.Template
import Mathlib.Data.List.TakeWhile

/-!
# Reading templates

What the scanner of `Text/Template.lean` finds. A reference is found exactly where an opening mark,
a name and a closing mark stand (`reference?_eq_some_iff`), characters in which none begins are
pieces of their own (`segments_append`), and the pieces of a template, written one after another,
are the template (`segments_source`). All this holds for all marks, because the closing one begins
with the character that ends every name.
-/

namespace Courier.Text

variable {α : Type}

/-- Whether a text begins with a reference. -/
def Marks.Begins (marks : Marks α) (cs : List α) : Prop :=
  ∃ name rest, name ≠ [] ∧ marks.stop ∉ name ∧
    cs = marks.opening ++ (name ++ (marks.closing ++ rest))

variable [DecidableEq α] {marks : Marks α}

/-- The rest after a mark is what follows it in the text. -/
theorem dropMark?_eq_some_iff {m cs r : List α} : dropMark? m cs = some r ↔ cs = m ++ r := by
  induction m generalizing cs with
  | nil =>
    simp only [dropMark?, Option.some.injEq, List.nil_append]
  | cons a m ih =>
    cases cs with
    | nil => simp [dropMark?]
    | cons c cs =>
      by_cases h : a = c
      · simp [dropMark?, h, ih]
      · have hne : c ≠ a := fun e => h e.symm
        simp [dropMark?, h, hne]

/-- What the scanner takes off a text and leaves of it where a name is followed by the character
that ends it. -/
theorem takeWhile_dropWhile_name {stop : α} {name : List α} (hn : stop ∉ name) (r : List α) :
    (name ++ stop :: r).takeWhile (· != stop) = name ∧
      (name ++ stop :: r).dropWhile (· != stop) = stop :: r := by
  have hall : ∀ c ∈ name, (c != stop) = true := by
    intro c hc
    have : c ≠ stop := fun e => hn (e ▸ hc)
    simpa using this
  rw [List.takeWhile_append_of_pos hall, List.dropWhile_append_of_pos hall]
  simp

/-- A reference at the beginning of a text is an opening mark, a name of one or more characters
other than the one that ends it, and a closing mark. -/
theorem reference?_eq_some_iff {cs name r : List α} :
    reference? marks cs = some (name, r) ↔
      name ≠ [] ∧ marks.stop ∉ name ∧ cs = marks.opening ++ (name ++ (marks.closing ++ r)) := by
  constructor
  · intro h
    unfold reference? at h
    split at h
    · cases h
    · rename_i t ht
      simp only at h
      split at h
      · cases h
      · rename_i hne
        -- what was dropped in front, the name, and what was dropped behind it make up the text
        obtain ⟨u, hu, he⟩ := Option.map_eq_some_iff.1 h
        simp only [Prod.mk.injEq] at he
        obtain ⟨rfl, rfl⟩ := he
        refine ⟨by simpa using hne, ?_, ?_⟩
        · intro hmem
          have := List.mem_takeWhile_imp hmem
          simp at this
        · rw [dropMark?_eq_some_iff.1 ht, ← dropMark?_eq_some_iff.1 hu,
            List.takeWhile_append_dropWhile]
  · rintro ⟨hne, hn, rfl⟩
    have hopen : dropMark? marks.opening (marks.opening ++ (name ++ (marks.closing ++ r))) =
        some (name ++ (marks.closing ++ r)) := dropMark?_eq_some_iff.2 rfl
    have hrest : dropMark? marks.closing (marks.closing ++ r) = some r :=
      dropMark?_eq_some_iff.2 rfl
    -- the closing mark begins with the character at which the name ends
    have hclosing : marks.closing ++ r = marks.stop :: (marks.rest ++ r) := rfl
    obtain ⟨htake, hdrop⟩ := takeWhile_dropWhile_name hn (marks.rest ++ r)
    rw [← hclosing] at htake hdrop
    unfold reference?
    simp only [hopen, htake, hdrop]
    rw [if_neg (by simpa using hne), hrest]
    rfl

/-- A text that begins with a reference is scanned into it and the pieces of the rest. -/
theorem segments_of_reference {cs name r : List α}
    (h : reference? marks cs = some (name, r)) :
    segments marks cs = .reference name :: segments marks r := by
  rw [segments]
  split
  · rename_i name' r' h'
    rw [h] at h'
    cases h'
    rfl
  · rename_i h'
    rw [h] at h'
    cases h'

/-- A text that does not begin with a reference is scanned into its first character and the pieces
of the rest. -/
theorem segments_of_plain {c : α} {r : List α}
    (h : reference? marks (c :: r) = none) :
    segments marks (c :: r) = .plain c :: segments marks r := by
  rw [segments]
  split
  · rename_i name' r' h'
    rw [h] at h'
    cases h'
  · rfl

/-- An empty text has no pieces, whatever the marks. -/
theorem segments_nil : segments marks [] = [] := by
  have hnone : reference? marks [] = none := by
    rw [Option.eq_none_iff_forall_ne_some]
    rintro ⟨name, r⟩ h
    obtain ⟨hne, -, hcs⟩ := reference?_eq_some_iff.1 h
    simp [hne] at hcs
  rw [segments]
  split
  · rename_i h'
    rw [hnone] at h'
    cases h'
  · rfl

/-- A text begins with a reference exactly if the scanner finds one. -/
theorem begins_iff (cs : List α) : marks.Begins cs ↔ reference? marks cs ≠ none := by
  rw [Option.ne_none_iff_exists']
  constructor
  · rintro ⟨name, rest, h⟩
    exact ⟨(name, rest), reference?_eq_some_iff.2 h⟩
  · rintro ⟨⟨name, rest⟩, h⟩
    exact ⟨name, rest, reference?_eq_some_iff.1 h⟩

/-- Characters in which no reference begins are pieces of their own. -/
theorem segments_append {front rest : List α}
    (h : ∀ before within, front = before ++ within → within ≠ [] →
      ¬ marks.Begins (within ++ rest)) :
    segments marks (front ++ rest) = front.map .plain ++ segments marks rest := by
  induction front with
  | nil => rfl
  | cons c front ih =>
    have hnone : reference? marks (c :: (front ++ rest)) = none := by
      by_contra hsome
      exact h [] (c :: front) rfl (List.cons_ne_nil c front) ((begins_iff _).2 hsome)
    have hlater : ∀ before within, front = before ++ within → within ≠ [] →
        ¬ marks.Begins (within ++ rest) := by
      rintro before within rfl
      exact h (c :: before) within rfl
    rw [List.cons_append, segments_of_plain hnone, ih hlater]
    rfl

/-- A text in which no reference begins is characters only. -/
theorem segments_eq_map_plain {cs : List α}
    (h : ∀ before rest, cs = before ++ rest → ¬ marks.Begins rest) :
    segments marks cs = cs.map .plain := by
  have hpieces : segments marks (cs ++ []) = cs.map .plain ++ segments marks [] := by
    refine segments_append fun before within hcs _ => ?_
    rw [List.append_nil]
    exact h before within hcs
  rwa [segments_nil, List.append_nil, List.append_nil] at hpieces

/-- The pieces of a template, written one after another, are the template. -/
theorem segments_source (cs : List α) :
    (segments marks cs).flatMap (Segment.source marks) = cs := by
  induction cs using segments.induct marks with
  | case1 cs name r h ih =>
    rw [segments_of_reference h, List.flatMap_cons, ih, (reference?_eq_some_iff.1 h).2.2]
    simp [Segment.source]
  | case2 => simp [segments_nil]
  | case3 c r h ih =>
    rw [segments_of_plain h, List.flatMap_cons, ih]
    rfl

end Courier.Text
