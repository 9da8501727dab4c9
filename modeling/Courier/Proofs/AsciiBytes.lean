import Mathlib.Data.List.Infix
import Courier.Proofs.Basic
import Courier.Proofs.Utf8

/-!
# ASCII among the bytes of a text

Every byte below 128 in UTF-8 is a character of its own. So an ASCII text occurs in the bytes of
another text only where it occurs in the text (`isInfix_of_encodeChars`), and what is looked for
in bytes can be looked for in characters. An occurrence does not reach across a character that it
does not hold (`infix_or_infix_of_notMem`), which divides the search at line breaks and quotes.
-/

namespace Courier.Text

/-! ## Occurrences in lists -/

section Occurrence

variable {α : Type} {m xs ys : List α} {c : α}

/-- A beginning that lacks an element ends before it. -/
theorem prefix_of_notMem (h : m <+: xs ++ c :: ys) (hc : c ∉ m) : m <+: xs := by
  have hupto : xs ++ [c] <+: xs ++ c :: ys := ⟨ys, by simp⟩
  rcases List.prefix_or_prefix_of_prefix h hupto with hle | hge
  · rcases List.prefix_concat_iff.1 hle with heq | hle
    · rw [heq] at hc
      exact absurd (List.mem_append_right xs (List.mem_singleton_self c)) hc
    · exact hle
  · exact absurd (hge.subset (List.mem_append_right xs (List.mem_singleton_self c))) hc

/-- An occurrence that lacks an element is before it or behind it. -/
theorem infix_or_infix_of_notMem (h : m <:+: xs ++ c :: ys) (hc : c ∉ m) :
    m <:+: xs ∨ m <:+: ys := by
  induction xs with
  | nil =>
    rcases List.infix_cons_iff.1 h with hfirst | hlater
    · exact .inl (prefix_of_notMem hfirst hc).isInfix
    · exact .inr hlater
  | cons x xs ih =>
    rcases List.infix_cons_iff.1 h with hfirst | hlater
    · exact .inl (prefix_of_notMem hfirst hc).isInfix
    · rcases ih hlater with hbefore | hbehind
      · exact .inl (List.infix_cons hbefore)
      · exact .inr hbehind

/-- An occurrence begins behind what lacks its first element. -/
theorem infix_of_head_notMem {a : α} (h : a :: m <:+: xs ++ ys) (ha : a ∉ xs) :
    a :: m <:+: ys := by
  induction xs with
  | nil => exact h
  | cons x xs ih =>
    rw [List.mem_cons, not_or] at ha
    rcases List.infix_cons_iff.1 h with hfirst | hlater
    · obtain ⟨t, ht⟩ := hfirst
      rw [List.cons_append] at ht
      exact absurd (List.cons.inj ht).1 ha.1
    · exact ih hlater ha.2

end Occurrence

namespace Utf8

/-- The bytes of two lists of characters are those of one after those of the other. -/
theorem encodeChars_append (cs ds : List Char) :
    encodeChars (cs ++ ds) = encodeChars cs ++ encodeChars ds :=
  List.flatMap_append

/-- The bytes of two texts are those of one after those of the other. -/
theorem encode_append (s t : String) : encode (s ++ t) = encode s ++ encode t := by
  unfold encode
  rw [String.toList_append, encodeChars_append]

/-- A character below 128 is one byte. -/
theorem encodeCode_of_lt {n : Nat} (h : n < 0x80) : encodeCode n = [UInt8.ofNat n] :=
  if_pos h

/-- A character below 128 in front of a text is one byte in front of its bytes. -/
theorem encodeChars_cons_of_lt {a : Char} (ha : a.toNat < 0x80) (cs : List Char) :
    encodeChars (a :: cs) = UInt8.ofNat a.toNat :: encodeChars cs := by
  rw [encodeChars, List.flatMap_cons, encodeCode_of_lt ha]
  rfl

/-- The bytes of any other character are 128 or more. -/
theorem le_of_mem_encodeCode {c : Char} (hc : ¬c.toNat < 0x80) {b : UInt8}
    (hb : b ∈ encodeCode c.toNat) : 0x80 ≤ b.toNat := by
  have hmax : c.toNat < 0x110000 := by
    have hvalid : c.toNat < 0xD800 ∨ 0xDFFF < c.toNat ∧ c.toNat < 0x110000 := c.valid
    omega
  -- each byte is a number from 128 to 255, written out
  have hbyte : ∀ k, 0x80 ≤ k → k < 0x100 → 0x80 ≤ (UInt8.ofNat k).toNat := by
    intro k hlow hhigh
    rw [toNat_ofNat_of_lt hhigh]
    exact hlow
  generalize c.toNat = n at hc hmax hb
  unfold encodeCode at hb
  rw [if_neg hc] at hb
  split_ifs at hb with htwo hthree
  · simp only [List.mem_cons, List.not_mem_nil, or_false] at hb
    rcases hb with rfl | rfl <;> exact hbyte _ (by omega) (by omega)
  · simp only [List.mem_cons, List.not_mem_nil, or_false] at hb
    rcases hb with rfl | rfl | rfl <;> exact hbyte _ (by omega) (by omega)
  · simp only [List.mem_cons, List.not_mem_nil, or_false] at hb
    rcases hb with rfl | rfl | rfl | rfl <;> exact hbyte _ (by omega) (by omega)

/-- The byte of a character below 128 is only that character. -/
theorem ofNat_inj_of_lt {m n : Nat} (hm : m < 0x80) (hn : n < 0x80)
    (h : UInt8.ofNat m = UInt8.ofNat n) : m = n := by
  have hnumbers : (UInt8.ofNat m).toNat = (UInt8.ofNat n).toNat := congrArg UInt8.toNat h
  rw [toNat_ofNat_of_lt (by omega), toNat_ofNat_of_lt (by omega)] at hnumbers
  exact hnumbers

/-- A byte of a character below 128 is only in the bytes of that character. -/
theorem mem_encodeCode_iff {a c : Char} (ha : a.toNat < 0x80) :
    UInt8.ofNat a.toNat ∈ encodeCode c.toNat ↔ a = c := by
  constructor
  · intro hmem
    by_cases hc : c.toNat < 0x80
    · rw [encodeCode_of_lt hc, List.mem_singleton] at hmem
      exact Char.toNat_inj.1 (ofNat_inj_of_lt ha hc hmem)
    · have hhigh := le_of_mem_encodeCode hc hmem
      rw [toNat_ofNat_of_lt (by omega)] at hhigh
      omega
  · rintro rfl
    rw [encodeCode_of_lt ha]
    exact List.mem_singleton_self _

/-- The byte of a character below 128 is among the bytes of a text if the character is in the
text. -/
theorem mem_encodeChars_iff {a : Char} (ha : a.toNat < 0x80) (cs : List Char) :
    UInt8.ofNat a.toNat ∈ encodeChars cs ↔ a ∈ cs := by
  unfold encodeChars
  rw [List.mem_flatMap]
  constructor
  · rintro ⟨c, hc, hmem⟩
    rw [(mem_encodeCode_iff ha).1 hmem]
    exact hc
  · intro hmem
    exact ⟨a, hmem, (mem_encodeCode_iff ha).2 rfl⟩

/-- A text begins with ASCII characters if its bytes begin with theirs. -/
theorem isPrefix_of_encodeChars {m cs : List Char} (hm : ∀ c ∈ m, c.toNat < 0x80)
    (h : encodeChars m <+: encodeChars cs) : m <+: cs := by
  induction m generalizing cs with
  | nil => exact List.nil_prefix
  | cons a m ih =>
    have ha : a.toNat < 0x80 := hm a List.mem_cons_self
    have hbytes := encodeChars_cons_of_lt ha m
    cases cs with
    | nil =>
      rw [hbytes] at h
      exact absurd (List.prefix_nil.1 h) (List.cons_ne_nil _ _)
    | cons c cs =>
      have hchars : encodeChars (c :: cs) = encodeCode c.toNat ++ encodeChars cs :=
        List.flatMap_cons
      rw [hbytes, hchars] at h
      -- the byte of `a` begins the bytes of `c`, so `c` is `a`
      obtain ⟨b, bs, hb⟩ := List.exists_cons_of_ne_nil (encodeCode_ne_nil c.toNat)
      have hhead : UInt8.ofNat a.toNat = b := by
        rw [hb, List.cons_append] at h
        exact (List.cons_prefix_cons.1 h).1
      have hsame : a = c := by
        rw [← mem_encodeCode_iff ha, hb, hhead]
        exact List.mem_cons_self
      subst hsame
      rw [encodeCode_of_lt ha] at h
      have htail : encodeChars m <+: encodeChars cs := (List.cons_prefix_cons.1 h).2
      exact List.cons_prefix_cons.2
        ⟨rfl, ih (fun d hd => hm d (List.mem_cons_of_mem a hd)) htail⟩

/-- ASCII characters occur in a text if their bytes occur in its bytes. -/
theorem isInfix_of_encodeChars {m cs : List Char} (hm : ∀ c ∈ m, c.toNat < 0x80)
    (h : encodeChars m <:+: encodeChars cs) : m <:+: cs := by
  cases m with
  | nil => exact List.nil_infix
  | cons a m =>
    have ha : a.toNat < 0x80 := hm a List.mem_cons_self
    have hbytes := encodeChars_cons_of_lt ha m
    induction cs with
    | nil =>
      rw [hbytes] at h
      exact absurd (List.infix_nil.1 h) (List.cons_ne_nil _ _)
    | cons c cs ih =>
      have hchars : encodeChars (c :: cs) = encodeCode c.toNat ++ encodeChars cs :=
        List.flatMap_cons
      by_cases hsame : a = c
      · -- an occurrence at `c` or behind it
        have hone := encodeChars_cons_of_lt (hsame ▸ ha) cs
        have hcases := h
        rw [hone] at hcases
        rcases List.infix_cons_iff.1 hcases with hfirst | hlater
        · rw [← hone] at hfirst
          exact (isPrefix_of_encodeChars hm hfirst).isInfix
        · exact List.infix_cons (ih hlater)
      · -- no byte of `c` begins one
        have hnot : UInt8.ofNat a.toNat ∉ encodeCode c.toNat := by
          rw [mem_encodeCode_iff ha]
          exact hsame
        rw [hbytes, hchars] at h
        have hlater := infix_of_head_notMem h hnot
        rw [← hbytes] at hlater
        exact List.infix_cons (ih hlater)

end Utf8

end Courier.Text
