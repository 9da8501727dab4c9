import Courier.Text.CodePoint

/-!
# Templates

A text with references in it. A reference stands between an opening and a closing mark and names
something with one or more characters other than the one that the closing mark begins with.
References are taken from the left and do not overlap; every other character stands for itself.

A text is a list of code points, or of their numbers.
-/

namespace Courier.Text

/-- The marks around a reference. The closing one begins with the character that ends a name. -/
structure Marks (α : Type) where
  opening : List α
  stop : α
  rest : List α

/-- The mark behind a name. -/
def Marks.closing {α : Type} (marks : Marks α) : List α := marks.stop :: marks.rest

/-- References between double braces. -/
def Marks.doubled : Marks CodePoint := ⟨['\x7b', '\x7b'], '\x7d', ['\x7d']⟩

/-- References to the process environment: a dollar sign and braces, as code points. -/
def Marks.dollar : Marks Nat := ⟨[0x24, 0x7B], 0x7D, []⟩

/-- A piece of a template. -/
inductive Segment (α : Type) where
  | plain (c : α)
  | reference (name : List α)
  deriving DecidableEq, Repr

section Scanning

variable {α : Type} [DecidableEq α]

/-- The text after `mark`, if `cs` begins with it. -/
def dropMark? : List α → List α → Option (List α)
  | [], cs => some cs
  | _ :: _, [] => none
  | m :: ms, c :: cs => if m = c then dropMark? ms cs else none

/-- The name of a reference at the beginning of `cs`, and what follows the reference. -/
def reference? (marks : Marks α) (cs : List α) : Option (List α × List α) :=
  match dropMark? marks.opening cs with
  | none => none
  | some r =>
    let name := r.takeWhile (· != marks.stop)
    if name.isEmpty then none
    else (dropMark? marks.closing (r.dropWhile (· != marks.stop))).map fun t => (name, t)

theorem dropMark?_length {m cs r : List α} (h : dropMark? m cs = some r) :
    r.length ≤ cs.length := by
  induction m generalizing cs with
  | nil => simp [dropMark?] at h; simp [h]
  | cons a m ih =>
    cases cs with
    | nil => simp [dropMark?] at h
    | cons c cs =>
      simp only [dropMark?] at h
      split at h
      · have := ih h
        simp; omega
      · simp at h

omit [DecidableEq α] in
theorem length_dropWhile_lt {p : α → Bool} {cs : List α} (h : cs.takeWhile p ≠ []) :
    (cs.dropWhile p).length < cs.length := by
  cases cs with
  | nil => simp at h
  | cons c cs =>
    have hp : p c = true := by
      cases hc : p c
      · simp [hc] at h
      · rfl
    simp only [List.dropWhile_cons, hp, if_true, List.length_cons]
    exact Nat.lt_succ_of_le (List.IsSuffix.length_le (List.dropWhile_suffix p))

/-- A reference takes up characters. -/
theorem reference?_length {marks : Marks α} {cs name r : List α}
    (h : reference? marks cs = some (name, r)) : r.length < cs.length := by
  unfold reference? at h
  split at h
  · simp at h
  · rename_i t ht
    simp only at h
    split at h
    · simp at h
    · rename_i hn
      obtain ⟨u, hu, he⟩ := Option.map_eq_some_iff.1 h
      simp only [Prod.mk.injEq] at he
      have h1 := dropMark?_length ht
      have h2 := dropMark?_length hu
      have h3 : (t.dropWhile (· != marks.stop)).length < t.length :=
        length_dropWhile_lt (by simpa using hn)
      rw [← he.2]
      omega

/-- The pieces of a template. -/
def segments (marks : Marks α) (cs : List α) : List (Segment α) :=
  match _h : reference? marks cs with
  | some (name, r) => .reference name :: segments marks r
  | none =>
    match cs with
    | [] => []
    | c :: r => .plain c :: segments marks r
  termination_by cs.length
  decreasing_by
    · exact reference?_length (by assumption)
    · simp

end Scanning

/-- The characters that a piece was read from. -/
def Segment.source {α : Type} (marks : Marks α) : Segment α → List α
  | .plain c => [c]
  | .reference name => marks.opening ++ name ++ marks.closing

/-- The names of all references, in order. -/
def referenceNames {α : Type} (segs : List (Segment α)) : List (List α) :=
  segs.filterMap fun
    | .plain _ => none
    | .reference name => some name

end Courier.Text
