import Courier.Files

/-!
# Files that are written

A file that was written is read back (`content_of_find`), and whatever else was there is as it was
(`writeDeep_cases`). A path is walked through directories only. Giving a place that is no directory
a new content leaves all directories on the way, so the path leads where it did (`walk_put`). And
making directories only fills places where there was nothing (`keeps_makeDirectory`).
-/

namespace Courier.Files

variable {fs files : Files} {place here q : List String} {p : FilePath} {cs : List String}
  {n m : FileNode}

/-- Whether everything that stands in some files stands in others as well. -/
def Keeps (fs files : Files) : Prop := ∀ q n, fs.at? q = some n → files.at? q = some n

/-! ## One place -/

/-- The entry of a place that has a new content. -/
theorem find?_put_self (fs : Files) (place : List String) (n : FileNode) :
    (fs.put place n).find? (fun f => f.1 == place) = some (place, n) := by
  unfold put
  split
  · -- The place is there: its entry is changed where it stands.
    rename_i hthere
    induction fs with
    | nil => cases hthere
    | cons f rest ih =>
      rw [List.map_cons, List.find?_cons]
      by_cases hf : f.1 = place
      · rw [if_pos hf, beq_self_eq_true]
      · have hne : (f.1 == place) = false := beq_eq_false_iff_ne.2 hf
        rw [List.any_cons, hne, Bool.false_or] at hthere
        rw [if_neg hf, hne]
        exact ih hthere
  · -- The place is new: its entry is the last one.
    rename_i hthere
    have hnone : fs.find? (fun f => f.1 == place) = none := by
      rw [List.find?_eq_none]
      intro f hf heq
      exact hthere (List.any_eq_true.2 ⟨f, hf, heq⟩)
    rw [List.find?_append, hnone, Option.none_or, List.find?_cons, beq_self_eq_true]

/-- The entries of other places stay. -/
theorem find?_put_of_ne (h : q ≠ place) (fs : Files) (n : FileNode) :
    (fs.put place n).find? (fun f => f.1 == q) = fs.find? (fun f => f.1 == q) := by
  have hother : (place == q) = false := beq_eq_false_iff_ne.2 (Ne.symm h)
  unfold put
  split
  · rename_i hthere
    clear hthere
    induction fs with
    | nil => rfl
    | cons f rest ih =>
      rw [List.map_cons, List.find?_cons, List.find?_cons, ih]
      by_cases hf : f.1 = place
      · rw [if_pos hf, hf, hother]
      · rw [if_neg hf]
  · rw [List.find?_append, List.find?_cons, hother, List.find?_nil, Option.or_none]

/-- Something stands below a place if it did, or if the new place is there. -/
theorem any_put (fs : Files) (place : List String) (n : FileNode) (inside : List String → Bool) :
    ((fs.put place n).any fun f => inside f.1) = (fs.any (fun f => inside f.1) || inside place) := by
  unfold put
  split
  · rename_i hthere
    have hsame : (fs.map fun f => if f.1 = place then (place, n) else f).any (fun f => inside f.1) =
        fs.any fun f => inside f.1 := by
      rw [List.any_map]
      congr 1
      funext f
      rw [Function.comp_apply]
      split
      · rename_i hf
        rw [hf]
      · rfl
    rw [hsame]
    cases hinside : inside place with
    | false => rw [Bool.or_false]
    | true =>
      obtain ⟨f, hf, heq⟩ := List.any_eq_true.1 hthere
      rw [Bool.or_true, List.any_eq_true]
      exact ⟨f, hf, by rw [beq_iff_eq.1 heq, hinside]⟩
  · rw [List.any_append, List.any_cons, List.any_nil, Bool.or_false]

/-- A place that is not fixed has the content that it was given. -/
theorem at?_put_self (h : isFixed place = false) (fs : Files) (n : FileNode) :
    (fs.put place n).at? place = some n := by
  unfold at?
  rw [h, find?_put_self]
  rfl

/-- What stands at another place stays there. -/
theorem at?_put_of_ne (h : q ≠ place) (n : FileNode) (hq : fs.at? q = some m) :
    (fs.put place n).at? q = some m := by
  unfold at? at hq ⊢
  rw [find?_put_of_ne h, any_put]
  split
  · rename_i hfixed
    rw [if_pos hfixed] at hq
    exact hq
  · rename_i hfixed
    rw [if_neg hfixed] at hq
    -- What stands at the other place is said by its own entry, or by what is below it.
    split
    · rename_i f hf
      rw [hf] at hq
      exact hq
    · rename_i hnone
      rw [hnone] at hq
      simp only [Option.ite_none_right_eq_some] at hq
      rw [if_pos (by rw [hq.1, Bool.true_or])]
      exact hq.2

/-- A place with no directory is not fixed. -/
theorem isFixed_eq_false (h : fs.at? place ≠ some .directory) : isFixed place = false := by
  rw [Bool.eq_false_iff]
  intro hfixed
  apply h
  rw [at?, if_pos hfixed]

/-- Filling a place where there was nothing keeps everything. -/
theorem keeps_put (h : fs.at? place = none) (n : FileNode) : fs.Keeps (fs.put place n) := by
  intro q m hq
  refine at?_put_of_ne ?_ n hq
  rintro rfl
  rw [h] at hq
  cases hq

/-! ## Paths -/

/-- A path ends at a place with what stands there. -/
theorem at?_of_walk_eq_node (h : fs.walk here cs = .node place n) : fs.at? place = some n := by
  induction cs generalizing here with
  | nil =>
    unfold walk at h
    split at h
    · rename_i hat
      cases h
      exact hat
    · cases h
  | cons name rest ih =>
    unfold walk at h
    split at h
    · cases h
    · cases h
    · exact ih h

/-- Or at a place where there is nothing. -/
theorem at?_of_walk_eq_absent (h : fs.walk here cs = .absent place) : fs.at? place = none := by
  induction cs generalizing here with
  | nil =>
    unfold walk at h
    split at h
    · cases h
    · rename_i hat
      cases h
      exact hat
  | cons name rest ih =>
    unfold walk at h
    split at h
    · cases h
    · cases h
    · exact ih h

/-- A path that ends at a place which is no directory ends there when it has a new content: every
directory on the way is another place. -/
theorem walk_put (hplace : fs.at? place ≠ some .directory)
    (h : fs.walk here cs = .absent place ∨ ∃ old, fs.walk here cs = .node place old)
    (n : FileNode) : (fs.put place n).walk here cs = .node place n := by
  induction cs generalizing here with
  | nil =>
    have hhere : here = place := by
      unfold walk at h
      split at h
      · obtain h | ⟨old, h⟩ := h
        · cases h
        · cases h
          rfl
      · obtain h | ⟨old, h⟩ := h
        · cases h
          rfl
        · cases h
    rw [walk, hhere, at?_put_self (isFixed_eq_false hplace)]
  | cons name rest ih =>
    -- Only a directory is walked through, so this place is not the one that is filled.
    have hstep : fs.at? here = some .directory := by
      unfold walk at h
      split at h
      · obtain h | ⟨old, h⟩ := h <;> cases h
      · obtain h | ⟨old, h⟩ := h <;> cases h
      · assumption
    have hother : here ≠ place := by
      rintro rfl
      exact hplace hstep
    rw [walk, hstep] at h
    rw [walk, at?_put_of_ne hother n hstep]
    exact ih h

/-! ## Making directories and writing -/

/-- Making a directory keeps everything. -/
theorem keeps_makeOne (fs : Files) (p : FilePath) : fs.Keeps (fs.makeOne p).1 := by
  have hsame : fs.Keeps fs := fun _ _ h => h
  unfold makeOne
  split
  · exact hsame
  · exact hsame
  · exact hsame
  · rename_i place hfind
    exact keeps_put (at?_of_walk_eq_absent hfind) _
  · exact hsame

/-- So does making those around it. -/
theorem keeps_makeDirectory (fs : Files) (p : FilePath) (levels : Nat) :
    fs.Keeps (fs.makeDirectory p levels).1 := by
  have hsame : fs.Keeps fs := fun _ _ h => h
  induction levels generalizing p with
  | zero => exact hsame
  | succ levels ih =>
    unfold makeDirectory
    split
    · split
      · exact hsame
      · have hparent := ih p.parent
        split
        · rename_i files hfiles
          rw [hfiles] at hparent
          intro q n hq
          exact keeps_makeOne files p q n (hparent q n hq)
        · rename_i files e hfiles
          rw [hfiles] at hparent
          exact hparent
    · exact keeps_makeOne fs p

/-- A file that is written is one that was there or that fills a place. -/
theorem write_cases {bs : List UInt8} {e : Option FileError} (h : fs.write p bs = (files, e)) :
    (e = none ∧ ∃ place, fs.at? place ≠ some .directory ∧ files = fs.put place (.file bs) ∧
        (fs.find p = .absent place ∨ ∃ old, fs.find p = .node place old)) ∨
      e ≠ none ∧ files = fs := by
  unfold write at h
  split at h
  · rename_i place old hfind
    cases h
    refine .inl ⟨rfl, place, ?_, rfl, .inr ⟨_, hfind⟩⟩
    rw [at?_of_walk_eq_node hfind]
    nofun
  · rename_i place hfind
    cases h
    refine .inl ⟨rfl, place, ?_, rfl, .inl hfind⟩
    rw [at?_of_walk_eq_absent hfind]
    nofun
  · cases h
    exact .inr ⟨nofun, rfl⟩
  · cases h
    exact .inr ⟨nofun, rfl⟩
  · cases h
    exact .inr ⟨nofun, rfl⟩

/-- What comes of writing a file with the directories around it. Either the path leads to the file
with its content, and whatever stands at another place stays there; or the file is not written, and
everything stays. -/
theorem writeDeep_cases {bs : List UInt8} {e : Option FileError}
    (h : fs.writeDeep p bs = (files, e)) :
    (e = none ∧ ∃ place, files.find p = .node place (.file bs) ∧
        ∀ q n, q ≠ place → fs.at? q = some n → files.at? q = some n) ∨
      e ≠ none ∧ fs.Keeps files := by
  unfold writeDeep at h
  have hmade := keeps_makeDirectory fs p.parent (p.components.length + 1)
  split at h
  · rename_i made hmake
    rw [hmake] at hmade
    obtain ⟨he, place, hplace, rfl, hfind⟩ | ⟨he, rfl⟩ := write_cases h
    · refine .inl ⟨he, place, walk_put hplace hfind _, ?_⟩
      intro q n hq hold
      exact at?_put_of_ne hq _ (hmade q n hold)
    · exact .inr ⟨he, hmade⟩
  · rename_i made e' hmake
    rw [hmake] at hmade
    cases h
    exact .inr ⟨nofun, hmade⟩

/-- A file that is not written leaves everything where it was. -/
theorem keeps_of_unwritten {bs : List UInt8} {e : FileError}
    (h : (fs.writeDeep p bs).2 = some e) : fs.Keeps (fs.writeDeep p bs).1 := by
  generalize hfiles : fs.writeDeep p bs = written at h ⊢
  obtain ⟨files, outcome⟩ := written
  obtain ⟨rfl, -⟩ | ⟨-, hkeeps⟩ := writeDeep_cases hfiles
  · cases h
  · exact hkeeps

/-- A file that was written is read back. -/
theorem content_of_find {bs : List UInt8} (h : fs.find p = .node place (.file bs)) :
    fs.content p = .ok bs := by
  rw [content, h]

end Courier.Files
