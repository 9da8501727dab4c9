import Courier.Proofs.Basic
import Courier.Proofs.CodeSet
import Courier.Proofs.Percent
import Courier.Text.Form

/-!
# Form encoding is read back

Pairs written by `formEncode` are the pairs that `formDecode?` reads (`formDecode?_formEncode`), for
all names and values. What is written for a name or a value has no mark of the format in it
(`not_mem_formText`), so that the cuts at ampersands and at the first equals sign are the places
where the pairs were put together.
-/

namespace Courier.Text

/-- The character that a written one is read as before escapes are. -/
def plusToSpace (c : Char) : Char := if c = '+' then ' ' else c

/-- What is written for a character: plus signs, percent signs and characters that need no
escape. -/
theorem mem_formChar {c d : Char} (h : d ∈ formChar c) :
    d = '+' ∨ d = '%' ∨ isUnreserved d = true := by
  unfold formChar percentUnless at h
  split at h
  · exact .inl (List.mem_singleton.1 h)
  · split at h
    · rename_i hc
      rw [List.mem_singleton.1 h]
      exact .inr (.inr (by simpa using hc))
    · exact .inr (eq_percent_or_isUnreserved_of_mem_percentChar h)

/-- What is written for a name or a value. -/
theorem mem_formText {s : String} {d : Char} (h : d ∈ formText s) :
    d = '+' ∨ d = '%' ∨ isUnreserved d = true := by
  obtain ⟨c, -, hd⟩ := List.mem_flatMap.1 h
  exact mem_formChar hd

/-- The marks of the format do not stand in what is written for a name or a value. -/
theorem not_mem_formText (s : String) : '&' ∉ formText s ∧ '=' ∉ formText s := by
  constructor
  · intro h
    rcases mem_formText h with h | h | h
    · exact absurd h (by decide)
    · exact absurd h (by decide)
    · exact absurd h (by decide)
  · intro h
    rcases mem_formText h with h | h | h
    · exact absurd h (by decide)
    · exact absurd h (by decide)
    · exact absurd h (by decide)

/-- What is written for pairs: the separator, and what is written for each pair. -/
theorem eq_ampersand_or_mem_of_mem_formEncode {pairs : List (String × String)} {d : Char}
    (h : d ∈ formEncode pairs) : d = '&' ∨ ∃ p ∈ pairs, d ∈ formPair p := by
  refine (mem_intercalate h).imp List.mem_singleton.1 ?_
  rintro ⟨part, hpart, hd⟩
  obtain ⟨p, hp, rfl⟩ := List.mem_map.1 hpart
  exact ⟨p, hp, hd⟩

/-- Escapes have no plus sign. -/
theorem map_plusToSpace_percentChar (c : Char) :
    (percentChar c).map plusToSpace = percentChar c := by
  rw [List.map_congr_left (g := id), List.map_id]
  intro d hd
  have hplus : d ≠ '+' := by
    rcases eq_percent_or_isUnreserved_of_mem_percentChar hd with rfl | hu
    · decide
    · rintro rfl
      exact absurd hu (by decide)
  exact if_neg hplus

/-- What is written for a character is read as its bytes. -/
theorem percentBytes_formChar (c : Char) (r : List Char) :
    percentBytes ((formChar c).map plusToSpace ++ r) =
      Utf8.encodeCode c.toNat ++ percentBytes r := by
  unfold formChar
  split
  · rename_i hc
    subst hc
    rfl
  · rename_i hspace
    unfold percentUnless
    split
    · rename_i hu
      have hu' : isUnreserved c = true := by simpa using hu
      have hplus : c ≠ '+' := by
        rintro rfl
        exact absurd hu' (by decide)
      have hpercent : c ≠ '%' := by
        rintro rfl
        exact absurd hu' (by decide)
      rw [List.map_singleton, plusToSpace, if_neg hplus, List.singleton_append,
        percentBytes_cons_of_ne hpercent]
    · rw [map_plusToSpace_percentChar, percentChar, percentBytes_flatMap_percentByte]

/-- What is written for characters is read as their bytes. -/
theorem percentBytes_flatMap_formChar (cs : List Char) :
    percentBytes ((cs.flatMap formChar).map plusToSpace) = Utf8.encodeChars cs := by
  induction cs with
  | nil => rfl
  | cons c cs ih =>
    rw [List.flatMap_cons, List.map_append, percentBytes_formChar, ih, Utf8.encodeChars,
      Utf8.encodeChars, List.flatMap_cons]

/-- What is written for a name or a value is read as it. -/
theorem formDecodeText?_formText (s : String) : formDecodeText? (formText s) = some s := by
  have hbytes : percentBytes ((formText s).map plusToSpace) = Utf8.encode s :=
    percentBytes_flatMap_formChar s.toList
  unfold formDecodeText?
  change Utf8.decode? (percentBytes ((formText s).map plusToSpace)) = some s
  rw [hbytes, Utf8.decode?_encode]

/-- A pair is read as it was written. -/
theorem formDecodePair?_formPair (p : String × String) :
    formDecodePair? (formPair p) = some p := by
  have hname : ∀ c ∈ formText p.1, (c != '=') = true := by
    intro c hc
    have : c ≠ '=' := fun e => (not_mem_formText p.1).2 (e ▸ hc)
    simpa using this
  unfold formDecodePair? formPair
  rw [List.takeWhile_append_of_pos hname, List.dropWhile_append_of_pos hname]
  simp [formDecodeText?_formText]

/-- The text of pairs is cut into the texts of the pairs. -/
theorem splitAtAll_formEncode {pairs : List (String × String)} (h : pairs ≠ []) :
    splitAtAll (· == '&') (formEncode pairs) = pairs.map formPair := by
  -- no part has the separator in it
  rw [splitAtAll_eq_splitOnP]
  refine List.splitOn_intercalate '&' ?_ (by simpa using h)
  intro part hpart
  obtain ⟨q, -, rfl⟩ := List.mem_map.1 hpart
  simp [formPair, (not_mem_formText q.1).1, (not_mem_formText q.2).1]

/-- Pairs are read as they were written. -/
theorem formDecode?_formEncode (pairs : List (String × String)) :
    formDecode? (formEncode pairs) = some pairs := by
  cases pairs with
  | nil => rfl
  | cons p pairs =>
    have hcut := splitAtAll_formEncode (List.cons_ne_nil p pairs)
    have hne : (formEncode (p :: pairs)).isEmpty = false := by
      cases h : formEncode (p :: pairs) with
      | nil =>
        -- an empty text would be cut into one empty part, but a pair has an equals sign
        rw [h] at hcut
        cases pairs <;> simp [splitAtAll, formPair] at hcut
      | cons c r => rfl
    have hread : ((p :: pairs).map formPair).mapM formDecodePair? = some ((p :: pairs).map id) :=
      mapM_map_eq_some fun q _ => formDecodePair?_formPair q
    rw [List.map_id] at hread
    rw [formDecode?, hne, hcut]
    exact hread

end Courier.Text
