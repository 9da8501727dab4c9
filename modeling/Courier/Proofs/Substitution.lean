import Courier.Proofs.Template
import Courier.Variables

/-!
# Substitution leaves the references without a value

Scanned again after substitution, a text has exactly the references that had no value
(`references_substitute`). The proof is about the seams. A value that is not empty and has no brace
joins neither with what stands before it nor with what stands after it: substitution closes nothing
(`closes_of_closes_substituteWith`) and opens nothing (`reference?_substituteWith_eq_none`), so
that every piece that stays is scanned as before (`segments_substituteWith`).
-/

namespace Courier

open Text

/-- Whether every variable that can be used has a value that is not empty and has no brace. -/
def PlainValues (vars : List Entry) : Prop :=
  ∀ v ∈ vars, v.enabled = true →
    v.value ≠ [] ∧ .char '\x7b' ∉ v.value ∧ .char '\x7d' ∉ v.value

instance (vars : List Entry) : Decidable (PlainValues vars) :=
  inferInstanceAs (Decidable (∀ v ∈ vars, v.enabled = true →
    v.value ≠ [] ∧ .char '\x7b' ∉ v.value ∧ .char '\x7d' ∉ v.value))

/-- A value that is found is the value of an enabled variable. -/
theorem Scope.exists_of_lookup?_eq_some {vars : List Entry} {name value : CodeText}
    (h : Scope.lookup? vars name = some value) :
    ∃ v ∈ vars, v.enabled = true ∧ v.key = name ∧ v.value = value := by
  obtain ⟨v, hfind, hvalue⟩ := Option.map_eq_some_iff.1 h
  have hp := List.find?_some hfind
  simp only [Bool.and_eq_true, beq_iff_eq] at hp
  exact ⟨v, List.mem_of_find?_eq_some hfind, hp.1, hp.2, hvalue⟩

/-- A value that is found among plain ones is not empty and has no brace. -/
theorem PlainValues.of_lookup? {vars : List Entry} (h : PlainValues vars) {name value : CodeText}
    (hv : Scope.lookup? vars name = some value) :
    value ≠ [] ∧ .char '\x7b' ∉ value ∧ .char '\x7d' ∉ value := by
  obtain ⟨v, hmem, henabled, -, rfl⟩ := Scope.exists_of_lookup?_eq_some hv
  exact h v hmem henabled

/-- A text with its references resolved by variables. -/
def substituteWith (vars : List Entry) (cs : CodeText) : CodeText :=
  (segments Marks.doubled cs).flatMap (resolveSegment vars)

/-- The pieces that a piece becomes when its value is put in. -/
def settledSegments (vars : List Entry) : Segment CodePoint → List (Segment CodePoint)
  | .plain c => [.plain c]
  | .reference raw =>
    match Scope.lookup? vars (referenceName raw) with
    | some value => value.map .plain
    | none => [.reference raw]

variable {vars : List Entry}

/-- A reference at the beginning is replaced by its value or stays. -/
theorem substituteWith_of_reference {cs name r : CodeText}
    (h : reference? Marks.doubled cs = some (name, r)) :
    substituteWith vars cs =
      resolveSegment vars (.reference name) ++ substituteWith vars r := by
  rw [substituteWith, segments_of_reference h, List.flatMap_cons]
  rfl

/-- A character that begins no reference stays. -/
theorem substituteWith_of_plain {c : CodePoint} {r : CodeText}
    (h : reference? Marks.doubled (c :: r) = none) :
    substituteWith vars (c :: r) = c :: substituteWith vars r := by
  rw [substituteWith, segments_of_plain h, List.flatMap_cons]
  rfl

/-- Nothing comes of nothing. -/
theorem substituteWith_nil : substituteWith vars [] = [] := by
  rw [substituteWith, segments_nil]
  rfl

/-- Where a reference begins, the text with plain values goes on with an opening brace or with a
character of a value, which is no closing brace. -/
theorem head_substituteWith_of_reference (hv : PlainValues vars) {cs name r : CodeText}
    (h : reference? Marks.doubled cs = some (name, r)) :
    ∃ c t, substituteWith vars cs = c :: t ∧ c ≠ .char '\x7d' := by
  rw [substituteWith_of_reference h, resolveSegment]
  split
  · -- the first character of the value
    rename_i value hvalue
    obtain ⟨hne, -, hclose⟩ := hv.of_lookup? hvalue
    obtain ⟨c, t, ht⟩ := List.exists_cons_of_ne_nil hne
    refine ⟨c, t ++ substituteWith vars r, by rw [ht]; rfl, ?_⟩
    rintro rfl
    exact hclose (by simp [ht])
  · -- the opening brace of the reference, which stays
    exact ⟨.char '\x7b',
      .char '\x7b' :: (name ++ [.char '\x7d', .char '\x7d']) ++ substituteWith vars r,
      by simp [Segment.source, Marks.doubled, Marks.closing], by decide⟩

/-- A closing brace at the beginning of the result stood there before. -/
theorem head_of_substituteWith (hv : PlainValues vars) {cs t : CodeText}
    (h : substituteWith vars cs = .char '\x7d' :: t) : ∃ t', cs = .char '\x7d' :: t' := by
  cases hr : reference? Marks.doubled cs with
  | some found =>
    obtain ⟨name, r⟩ := found
    obtain ⟨c, u, hu, hc⟩ := head_substituteWith_of_reference hv hr
    rw [h] at hu
    cases hu
    exact absurd rfl hc
  | none =>
    cases cs with
    | nil =>
      rw [substituteWith_nil] at h
      cases h
    | cons c r =>
      rw [substituteWith_of_plain hr] at h
      cases h
      exact ⟨r, rfl⟩

/-- Whether the first closing brace of a text is followed by another one. -/
def Closes (cs : CodeText) : Prop :=
  ∃ name r, .char '\x7d' ∉ name ∧ cs = name ++ .char '\x7d' :: .char '\x7d' :: r

/-- A doubled closing brace at the beginning closes. -/
theorem closes_of_head (r : CodeText) : Closes (.char '\x7d' :: .char '\x7d' :: r) :=
  ⟨[], r, by simp, rfl⟩

/-- A character other than a closing brace does not change whether a text closes. -/
theorem Closes.cons {c : CodePoint} (hc : c ≠ .char '\x7d') {cs : CodeText} (h : Closes cs) :
    Closes (c :: cs) := by
  obtain ⟨name, r, hn, rfl⟩ := h
  refine ⟨c :: name, r, ?_, rfl⟩
  simpa using ⟨fun e => hc e.symm, hn⟩

/-- A text that closes begins with a doubled closing brace or with another character, after which it
closes. -/
theorem closes_cons {c : CodePoint} {cs : CodeText} (h : Closes (c :: cs)) :
    (c = .char '\x7d' ∧ ∃ r, cs = .char '\x7d' :: r) ∨ (c ≠ .char '\x7d' ∧ Closes cs) := by
  obtain ⟨name, r, hn, he⟩ := h
  cases name with
  | nil =>
    cases he
    exact .inl ⟨rfl, r, rfl⟩
  | cons d name =>
    cases he
    simp only [List.mem_cons, not_or] at hn
    exact .inr ⟨fun e => hn.1 e.symm, name, r, hn.2, rfl⟩

/-- A reference at the beginning of a text is an opening mark before a text that closes. -/
theorem exists_of_reference? {cs name r : CodeText}
    (h : reference? Marks.doubled cs = some (name, r)) :
    ∃ rest, cs = .char '\x7b' :: .char '\x7b' :: rest ∧ Closes rest := by
  obtain ⟨-, hn, rfl⟩ := reference?_eq_some_iff.1 h
  exact ⟨name ++ .char '\x7d' :: .char '\x7d' :: r, rfl, name, r, hn, rfl⟩

/-- An opening mark, a first character of a name and a text that closes make up a reference. -/
theorem reference?_ne_none_of_closes {c : CodePoint} (hc : c ≠ .char '\x7d') {cs : CodeText}
    (h : Closes cs) :
    reference? Marks.doubled (.char '\x7b' :: .char '\x7b' :: c :: cs) ≠ none := by
  obtain ⟨name, r, hn, rfl⟩ := h
  have hn' : .char '\x7d' ∉ c :: name := by simpa using ⟨fun e => hc e.symm, hn⟩
  have hfound : reference? Marks.doubled
      (.char '\x7b' :: .char '\x7b' :: c :: (name ++ .char '\x7d' :: .char '\x7d' :: r)) =
      some (c :: name, r) :=
    reference?_eq_some_iff.2 ⟨by simp, hn', rfl⟩
  rw [hfound]
  simp

/-- Substitution of plain values closes nothing: where the result closes, the text did. -/
theorem closes_of_closes_substituteWith (hv : PlainValues vars) {cs : CodeText}
    (h : Closes (substituteWith vars cs)) : Closes cs := by
  induction cs using segments.induct Marks.doubled with
  | case1 cs name r hr ih =>
    -- the text closes because of its reference, whatever comes of that
    obtain ⟨rest, rfl, hrest⟩ := exists_of_reference? hr
    exact (hrest.cons (by decide)).cons (by decide)
  | case2 =>
    rw [substituteWith_nil] at h
    obtain ⟨name, r, -, he⟩ := h
    simp at he
  | case3 c r hr ih =>
    rw [substituteWith_of_plain hr] at h
    rcases closes_cons h with ⟨rfl, t, ht⟩ | ⟨hc, hrest⟩
    · -- the second brace stands in front of the result of the rest, so it is one of the rest
      obtain ⟨t', rfl⟩ := head_of_substituteWith hv ht
      exact closes_of_head t'
    · exact (ih hrest).cons hc

/-- Substitution of plain values opens nothing: a character that begins no reference begins none
before the result of the rest. -/
theorem reference?_substituteWith_eq_none (hv : PlainValues vars) {c : CodePoint} {r : CodeText}
    (h : reference? Marks.doubled (c :: r) = none) :
    reference? Marks.doubled (c :: substituteWith vars r) = none := by
  by_contra hsome
  obtain ⟨⟨name, t⟩, hfound⟩ := Option.ne_none_iff_exists'.1 hsome
  obtain ⟨hne, hn, he⟩ := reference?_eq_some_iff.1 hfound
  obtain ⟨a, name, rfl⟩ := List.exists_cons_of_ne_nil hne
  simp only [List.mem_cons, not_or] at hn
  obtain ⟨ha, hn⟩ := hn
  simp only [Marks.doubled, List.cons_append, List.nil_append, List.cons.injEq] at he
  obtain ⟨rfl, he⟩ := he
  -- the second brace of the mark is a character of the text that begins no reference itself
  cases hr : reference? Marks.doubled r with
  | some found =>
    -- a reference right behind a brace would have been one with that brace
    obtain ⟨rest, rfl, hrest⟩ := exists_of_reference? hr
    exact reference?_ne_none_of_closes (by decide) hrest h
  | none =>
    cases r with
    | nil =>
      rw [substituteWith_nil] at he
      cases he
    | cons d r =>
      rw [substituteWith_of_plain hr] at he
      simp only [List.cons.injEq] at he
      obtain ⟨rfl, he⟩ := he
      have hcloses : Closes (substituteWith vars r) := by
        rw [he]
        exact Closes.cons (fun e => ha e.symm) ⟨name, t, hn, rfl⟩
      have hr' := closes_of_closes_substituteWith hv hcloses
      cases r with
      | nil =>
        rw [substituteWith_nil] at he
        cases he
      | cons b r =>
        -- the text closes behind both braces, so it begins a reference unless the name is empty
        rcases closes_cons hr' with ⟨rfl, -⟩ | ⟨hb, hrest⟩
        · have hplain : reference? Marks.doubled (.char '\x7d' :: r) = none := by
            simp [reference?, dropMark?, Marks.doubled]
          rw [substituteWith_of_plain hplain] at he
          exact ha (List.cons.inj he).1
        · exact reference?_ne_none_of_closes hb hrest h

/-- Characters without an opening brace are pieces of their own in front of any text. -/
theorem segments_append_of_plain {v : CodeText} (hv : .char '\x7b' ∉ v) (t : CodeText) :
    segments Marks.doubled (v ++ t) = v.map .plain ++ segments Marks.doubled t := by
  refine segments_append ?_
  rintro before within rfl hwithin ⟨name, rest, -, -, hsplit⟩
  obtain ⟨c, within, rfl⟩ := List.exists_cons_of_ne_nil hwithin
  simp only [Marks.doubled, List.cons_append, List.cons.injEq] at hsplit
  exact hv (by simp [hsplit.1])

/-- After substitution of plain values a text is scanned into the characters of the values and into
what it was scanned into before. -/
theorem segments_substituteWith (hv : PlainValues vars) (cs : CodeText) :
    segments Marks.doubled (substituteWith vars cs) =
      (segments Marks.doubled cs).flatMap (settledSegments vars) := by
  induction cs using segments.induct Marks.doubled with
  | case1 cs name r hr ih =>
    rw [substituteWith_of_reference hr, segments_of_reference hr, List.flatMap_cons,
      resolveSegment, settledSegments]
    cases hl : Scope.lookup? vars (referenceName name) with
    | some value =>
      simp only
      rw [segments_append_of_plain (hv.of_lookup? hl).2.1, ih]
    | none =>
      -- a reference that stays is found again in front of what comes of the rest
      obtain ⟨hne, hn, -⟩ := reference?_eq_some_iff.1 hr
      have hagain : reference? Marks.doubled
          ((Segment.reference name).source Marks.doubled ++ substituteWith vars r) =
            some (name, substituteWith vars r) :=
        reference?_eq_some_iff.2 ⟨hne, hn, by simp [Segment.source]⟩
      simp only
      rw [segments_of_reference hagain, ih]
      rfl
  | case2 =>
    rw [substituteWith_nil, segments_nil]
    rfl
  | case3 c r hr ih =>
    rw [substituteWith_of_plain hr,
      segments_of_plain (reference?_substituteWith_eq_none hv hr), ih, segments_of_plain hr,
      List.flatMap_cons]
    rfl

/-- The names that are left when values are put in are those without a value. -/
theorem referenceNames_settledSegments (segs : List (Segment CodePoint)) :
    (referenceNames (segs.flatMap (settledSegments vars))).map referenceName =
      ((referenceNames segs).map referenceName).filter
        fun n => (Scope.lookup? vars n).isNone := by
  induction segs with
  | nil => rfl
  | cons seg segs ih =>
    have happend : ∀ a b : List (Segment CodePoint),
        referenceNames (a ++ b) = referenceNames a ++ referenceNames b :=
      fun a b => List.filterMap_append
    rw [List.flatMap_cons, happend, List.map_append, ih]
    cases seg with
    | plain c => rfl
    | reference raw =>
      cases hl : Scope.lookup? vars (referenceName raw) with
      | some value => simp [settledSegments, referenceNames, hl]
      | none => simp [settledSegments, referenceNames, hl]

/-- After substitution of plain values a text refers to exactly the names that had no value, in the
same order and as often. -/
theorem references_substitute (scope : Scope) (hv : PlainValues scope.entries) (text : CodeText) :
    references (substitute scope text) =
      (references text).filter fun n => (Scope.lookup? scope.entries n).isNone := by
  have hscan : segments Marks.doubled (substitute scope text) = _ := segments_substituteWith hv text
  rw [references, hscan, referenceNames_settledSegments]
  rfl

end Courier
