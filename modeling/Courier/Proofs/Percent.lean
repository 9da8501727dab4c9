import Courier.Proofs.Utf8
import Courier.Text.Percent
import Mathlib.Tactic.SplitIfs

/-!
# Percent encoding

Escapes stand for the bytes that they were made from (`percentBytes_flatMap_percentByte`). All marks
that a place keeps include the percent sign itself, so that escaping a text works character by
character (`percentQuote_eq_flatMap`), leaves only what the place keeps, and changes nothing when it
is repeated.
-/

namespace Courier.Text

/-- The digits of escapes never need an escape. -/
theorem isUnreserved_upperHexDigit : ∀ n < 16, isUnreserved (upperHexDigit n) = true := by decide

/-- The digits of escapes are read as the numbers that they were written for. -/
theorem hexDigit?_upperHexDigit : ∀ n < 16, hexDigit? (upperHexDigit n) = some n := by decide

/-- A hexadecimal digit never needs an escape. -/
theorem isUnreserved_of_hexDigit? {c : Char} (h : (hexDigit? c).isSome = true) :
    isUnreserved c = true := by
  unfold hexDigit? at h
  unfold isUnreserved
  simp only [Bool.or_eq_true, Bool.and_eq_true, decide_eq_true_eq]
  split_ifs at h with h1 h2 h3
  · simp [h1]
  · have hz : c ≤ 'z' := Char.le_trans h2.2 (by decide)
    simp [h2.1, hz]
  · have hz : c ≤ 'Z' := Char.le_trans h3.2 (by decide)
    simp [h3.1, hz]
  · cases h

/-- Escapes are made of percent signs and characters that need no escape. -/
theorem eq_percent_or_isUnreserved_of_mem_percentChar {c d : Char} (h : d ∈ percentChar c) :
    d = '%' ∨ isUnreserved d = true := by
  obtain ⟨b, -, hd⟩ := List.mem_flatMap.1 h
  have hb : b.toNat < 256 := b.toNat_lt
  simp only [percentByte, List.mem_cons, List.not_mem_nil, or_false] at hd
  rcases hd with rfl | rfl | rfl
  · exact .inl rfl
  · exact .inr (isUnreserved_upperHexDigit _ (by omega))
  · exact .inr (isUnreserved_upperHexDigit _ (by omega))

/-! ## Reading escapes -/

/-- The escape of a byte stands for it. -/
theorem percentBytes_percentByte (b : UInt8) (r : List Char) :
    percentBytes (percentByte b ++ r) = b :: percentBytes r := by
  have hb : b.toNat < 256 := b.toNat_lt
  have hhigh := hexDigit?_upperHexDigit (b.toNat / 16) (by omega)
  have hlow := hexDigit?_upperHexDigit (b.toNat % 16) (by omega)
  have hbyte : 16 * (b.toNat / 16) + b.toNat % 16 = b.toNat := Nat.div_add_mod _ _
  rw [percentByte, List.cons_append, List.cons_append, List.singleton_append, percentBytes, hhigh,
    hlow]
  simp only
  rw [hbyte, UInt8.ofNat_toNat]

/-- The escapes of bytes stand for them. -/
theorem percentBytes_flatMap_percentByte (bs : List UInt8) (r : List Char) :
    percentBytes (bs.flatMap percentByte ++ r) = bs ++ percentBytes r := by
  induction bs with
  | nil => rfl
  | cons b bs ih =>
    rw [List.flatMap_cons, List.append_assoc, percentBytes_percentByte, ih, List.cons_append]

/-- A character other than a percent sign stands for its bytes. -/
theorem percentBytes_cons_of_ne {c : Char} (hc : c ≠ '%') (r : List Char) :
    percentBytes (c :: r) = Utf8.encodeCode c.toNat ++ percentBytes r := by
  rw [percentBytes]
  intro a b t he
  exact absurd he hc

/-- Only the empty text stands for no bytes. -/
theorem percentBytes_eq_nil_iff (cs : List Char) : percentBytes cs = [] ↔ cs = [] := by
  refine ⟨fun h => ?_, fun h => by rw [h, percentBytes]⟩
  unfold percentBytes at h
  split at h
  · split at h
    · exact absurd h (List.cons_ne_nil _ _)
    · exact absurd h (List.cons_ne_nil _ _)
  · exact absurd (List.append_eq_nil_iff.1 h).1 (Utf8.encodeCode_ne_nil _)
  · rfl

/-- Only the empty text is empty without its escapes. -/
theorem percentDecode_eq_empty_iff (s : String) : percentDecode s = "" ↔ s = "" := by
  rw [percentDecode, Utf8.decodeLossy_eq_empty_iff, percentBytes_eq_nil_iff,
    String.toList_eq_nil_iff]

/-! ## Writing escapes -/

section Quote

variable {safe : Char → Bool}

/-- Escaping works character by character where the percent sign is kept, whether or not it begins
an escape. -/
theorem percentQuote_eq_flatMap (hp : safe '%' = true) (cs : List Char) :
    percentQuote safe cs = cs.flatMap (percentUnless safe) := by
  have hpercent : percentUnless safe '%' = ['%'] := by simp [percentUnless, hp]
  have hkeep : ∀ c, isUnreserved c = true → percentUnless safe c = [c] := by
    intro c hc
    simp [percentUnless, hc]
  fun_induction percentQuote safe cs with
  | case1 a b r h ih =>
    -- the digits of an escape are kept on their own, as the percent sign is
    simp only [Bool.and_eq_true] at h
    rw [List.flatMap_cons, List.flatMap_cons, List.flatMap_cons, hpercent,
      hkeep a (isUnreserved_of_hexDigit? h.1), hkeep b (isUnreserved_of_hexDigit? h.2), ih]
    rfl
  | case2 a b r h ih => rw [List.flatMap_cons, ih]
  | case3 c r h ih => rw [List.flatMap_cons, ih]
  | case4 => rfl

/-- Only what a place keeps is left after escaping. -/
theorem safe_of_mem_percentQuote (hp : safe '%' = true) {cs : List Char} {c : Char}
    (hc : c ∈ percentQuote safe cs) : (isUnreserved c || safe c) = true := by
  rw [percentQuote_eq_flatMap hp] at hc
  obtain ⟨d, -, hd⟩ := List.mem_flatMap.1 hc
  unfold percentUnless at hd
  split at hd
  · rename_i hsafe
    rw [List.mem_singleton.1 hd]
    exact hsafe
  · rcases eq_percent_or_isUnreserved_of_mem_percentChar hd with rfl | hu
    · simp [hp]
    · simp [hu]

/-- A text that has only what a place keeps is not changed by escaping. -/
theorem percentQuote_of_safe (hp : safe '%' = true) {cs : List Char}
    (h : ∀ c ∈ cs, (isUnreserved c || safe c) = true) : percentQuote safe cs = cs := by
  rw [percentQuote_eq_flatMap hp]
  induction cs with
  | nil => rfl
  | cons c cs ih =>
    rw [List.flatMap_cons, ih fun d hd => h d (List.mem_cons_of_mem c hd), percentUnless,
      if_pos (h c List.mem_cons_self)]
    rfl

/-- Escaping a text without percent signs in the result has changed nothing. -/
theorem percentQuote_of_percent_notMem (hp : safe '%' = true) {cs : List Char}
    (h : '%' ∉ percentQuote safe cs) : percentQuote safe cs = cs := by
  refine percentQuote_of_safe hp fun c hc => ?_
  refine Decidable.byContradiction fun hunsafe => h ?_
  rw [percentQuote_eq_flatMap hp]
  refine List.mem_flatMap.2 ⟨c, hc, ?_⟩
  -- the escapes of a character begin with a percent sign
  rw [percentUnless, if_neg hunsafe]
  obtain ⟨b, rest, hcode⟩ := List.exists_cons_of_ne_nil (Utf8.encodeCode_ne_nil c.toNat)
  rw [percentChar, hcode]
  exact List.mem_cons_self

end Quote

end Courier.Text
