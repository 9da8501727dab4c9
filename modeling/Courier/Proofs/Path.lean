import Courier.Proofs.CodeSet
import Courier.Proofs.Percent
import Courier.Url.Parse

/-!
# Paths in their normal form

Normalising a path takes out the components that stand for the same and for the upper level. Nothing
is left to take out afterwards (`components_normalizePath`), also after escaping, which makes no
such component and no slash (`normalizePath_percentQuote`). A path that begins with a slash still
does, unless nothing is left of it (`head_normalizePath`): the empty component in front of the slash
is never dropped, because the upper level of the uppermost one is that one itself.
-/

namespace Courier

open Text

namespace Url

/-- The components of a path. -/
def components (path : List Char) : List (List Char) := splitAtAll (· == '/') path

/-- Whether a component stands for the same or for the upper level. -/
def IsDots (component : List Char) : Prop := component = ['.'] ∨ component = ['.', '.']

/-- A path without such components is in its normal form. -/
theorem normalizePath_eq_self {path : List Char} (h : ∀ c ∈ components path, ¬IsDots c) :
    normalizePath path = path := by
  unfold normalizePath
  refine if_neg fun hdots => ?_
  rw [Bool.or_eq_true, List.contains_iff_mem, List.contains_iff_mem] at hdots
  rcases hdots with hdot | hdot
  · exact h _ hdot (.inl rfl)
  · exact h _ hdot (.inr rfl)

/-! ## Taking out components -/

/-- What is done with one component. -/
def levelStep (done : List (List Char)) (c : List Char) : List (List Char) :=
  if c = ['.'] then done
  else if c = ['.', '.'] then (if done = [[]] then done else done.dropLast)
  else done ++ [c]

/-- Components are taken out one after another. -/
theorem removeDots_eq_foldl (cs : List (List Char)) : removeDots cs = cs.foldl levelStep [] := rfl

/-- What is left are other components that were there. -/
theorem of_mem_removeDots {cs : List (List Char)} {c : List Char} (h : c ∈ removeDots cs) :
    c ∈ cs ∧ ¬IsDots c := by
  rw [removeDots_eq_foldl] at h
  have hfold : ∀ {done : List (List Char)}, c ∈ cs.foldl levelStep done →
      c ∈ done ∨ c ∈ cs ∧ ¬IsDots c := by
    clear h
    induction cs with
    | nil => exact fun hc => .inl hc
    | cons d cs ih =>
      intro done hc
      rcases ih hc with hstep | ⟨hcs, hdots⟩
      · unfold levelStep at hstep
        split at hstep
        · exact .inl hstep
        · rename_i hsame
          split at hstep
          · split at hstep
            · exact .inl hstep
            · exact .inl (List.dropLast_subset _ hstep)
          · rename_i hupper
            rcases List.mem_append.1 hstep with hdone | hd
            · exact .inl hdone
            · rw [List.mem_singleton] at hd
              rw [hd]
              exact .inr ⟨List.mem_cons_self, not_or.2 ⟨hsame, hupper⟩⟩
      · exact .inr ⟨.tail d hcs, hdots⟩
  exact (hfold h).resolve_left (by simp)

/-- The empty component in front stays there. -/
theorem head_foldl_levelStep (cs : List (List Char)) {done : List (List Char)}
    (h : done.head? = some []) : (cs.foldl levelStep done).head? = some [] := by
  induction cs generalizing done with
  | nil => exact h
  | cons c cs ih =>
    refine ih ?_
    unfold levelStep
    split
    · exact h
    · split
      · split
        · exact h
        · rename_i hmore
          -- there is another component behind the empty one, and it is that one which goes
          match done, h with
          | [first], h => exact absurd (congrArg (fun x => [x]) (Option.some.inj h)) hmore
          | first :: next :: rest, h => exact h
      · rw [List.head?_append, h]
        rfl

/-! ## Whole paths -/

/-- In its normal form a path has no components to take out. -/
theorem components_normalizePath (path : List Char) :
    ∀ c ∈ components (normalizePath path), ¬IsDots c := by
  unfold normalizePath
  simp only
  split
  · rename_i hdots
    intro c hc
    have hpieces : ∀ piece ∈ removeDots (splitAtAll (· == '/') path), '/' ∉ piece := by
      intro piece hpiece hslash
      obtain ⟨hin, -⟩ := of_mem_removeDots hpiece
      obtain ⟨-, hno⟩ := mem_splitAtAll_iff.1 ⟨piece, hin, hslash⟩
      simp at hno
    by_cases hnone : removeDots (splitAtAll (· == '/') path) = []
    · rw [hnone] at hc
      rw [List.mem_singleton.1 hc]
      simp [IsDots]
    · rw [components, splitAtAll_eq_splitOnP] at hc
      have hjoined := List.splitOn_intercalate '/' hpieces hnone
      rw [List.splitOn_eq_splitOnP] at hjoined
      rw [hjoined] at hc
      exact (of_mem_removeDots hc).2
  · rename_i hdots
    rw [Bool.or_eq_true, List.contains_iff_mem, List.contains_iff_mem, not_or] at hdots
    rintro c hc (rfl | rfl)
    · exact hdots.1 hc
    · exact hdots.2 hc

/-- Escaping a path in its normal form keeps it there. -/
theorem normalizePath_percentQuote (path : List Char) :
    normalizePath (percentQuote isPathSafe (normalizePath path)) =
      percentQuote isPathSafe (normalizePath path) := by
  have hpercent : isPathSafe '%' = true := by decide
  have hslash : percentUnless isPathSafe '/' = ['/'] := by decide
  have hcut : components (percentQuote isPathSafe (normalizePath path)) =
      (components (normalizePath path)).map (percentQuote isPathSafe) := by
    have hquote : percentQuote isPathSafe = fun cs => cs.flatMap (percentUnless isPathSafe) :=
      funext (percentQuote_eq_flatMap hpercent)
    rw [hquote]
    refine splitAtAll_flatMap (fun c hc => ?_) (fun c hc d hd => ?_) _
    · rw [eq_of_beq hc]
      exact ⟨'/', hslash, rfl⟩
    · -- a character that is no slash is kept, or its escapes have no slash
      unfold percentUnless at hd
      split at hd
      · rw [List.mem_singleton.1 hd]
        exact hc
      · rcases eq_percent_or_isUnreserved_of_mem_percentChar hd with rfl | hunreserved
        · decide
        · rw [beq_eq_false_iff_ne]
          rintro rfl
          exact absurd hunreserved (by decide)
  refine normalizePath_eq_self ?_
  rw [hcut, List.forall_mem_map]
  intro c hc hdots
  -- dots are not made by escaping
  have hsame : percentQuote isPathSafe c = c := by
    refine percentQuote_of_percent_notMem hpercent ?_
    rcases hdots with hdot | hdot
    · rw [hdot]
      decide
    · rw [hdot]
      decide
  rw [hsame] at hdots
  exact components_normalizePath path c hc hdots

/-- The normal form of a path that begins with a slash is empty or begins with a slash. -/
theorem head_normalizePath {path : List Char} (h : path.head? = some '/') :
    normalizePath path = [] ∨ (normalizePath path).head? = some '/' := by
  obtain ⟨rest, rfl⟩ : ∃ rest, path = '/' :: rest := by
    cases path with
    | nil => cases h
    | cons c rest => exact ⟨rest, congrArg (· :: rest) (Option.some.inj h)⟩
  have hfront : splitAtAll (· == '/') ('/' :: rest) = [] :: splitAtAll (· == '/') rest := by
    rw [splitAtAll_cons, if_pos (by decide)]
  have hhead : (removeDots (splitAtAll (· == '/') ('/' :: rest))).head? = some [] := by
    rw [hfront, removeDots_eq_foldl, List.foldl_cons]
    exact head_foldl_levelStep _ rfl
  unfold normalizePath
  simp only
  split
  · generalize removeDots (splitAtAll (· == '/') ('/' :: rest)) = left at hhead
    match left, hhead with
    | [first], hhead =>
      obtain rfl := Option.some.inj hhead
      exact .inl rfl
    | first :: next :: others, hhead =>
      obtain rfl := Option.some.inj hhead
      exact .inr (by simp [List.intercalate_cons_cons])
  · exact .inr rfl

/-- So it is after escaping, and for the empty path. -/
theorem head_percentQuote_normalizePath {path : List Char}
    (h : path ≠ [] → path.head? = some '/')
    (hne : percentQuote isPathSafe (normalizePath path) ≠ []) :
    (percentQuote isPathSafe (normalizePath path)).head? = some '/' := by
  have hhead : (normalizePath path).head? = some '/' := by
    by_cases hempty : path = []
    · rw [hempty] at hne
      exact absurd rfl hne
    · refine (head_normalizePath (h hempty)).resolve_left fun hnil => ?_
      rw [hnil] at hne
      exact hne rfl
  cases hlist : normalizePath path with
  | nil =>
    rw [hlist] at hhead
    cases hhead
  | cons c rest =>
    rw [hlist] at hhead
    obtain rfl := Option.some.inj hhead
    have hkept : percentUnless isPathSafe '/' = ['/'] := by decide
    rw [percentQuote_eq_flatMap (by decide), List.flatMap_cons, hkept]
    rfl

end Url

end Courier
