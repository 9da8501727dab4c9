import Courier.Proofs.Lower
import Courier.Proofs.Trimming
import Courier.Schema.Scalar

/-!
# Numerals of every script

Before a numeral is read, the digits and the white space of other scripts are replaced by those of
ASCII, white space is trimmed and underscores between digits are dropped. Characters of ASCII that
are neither blanks nor underscores are left as they are (`IsKept`).

No digits are read as what is no number: for that the word has to be written
(`double?_eq_nan_iff`). Its letters and its sign come from no other script, and no underscore was
dropped from it, because there is no digit that the underscore could have stood beside.
-/

namespace Courier.Numeral

open Text (decimalValue? isAsciiBlank isBlankChar lowerAsciiChar trimWhile)
open Schema (isNumeralBlank)

/-! ## One character -/

/-- Whether a character is read as it is: it is in ASCII and neither a blank nor an underscore. -/
def IsKept (c : Char) : Prop := c.toNat < 0x80 ∧ isAsciiBlank c = false ∧ c ≠ '_'

instance (c : Char) : Decidable (IsKept c) :=
  inferInstanceAs (Decidable (c.toNat < 0x80 ∧ isAsciiBlank c = false ∧ c ≠ '_'))

/-- The character of ASCII that a digit or a blank of another script stands for. -/
def asciiChar (c : Char) : Char :=
  if c.toNat < 0x80 then c
  else match decimalValue? c with
    | some d => Char.ofNat (48 + d)
    | none => if isBlankChar c then ' ' else c

/-- A text is put into ASCII character by character. -/
theorem toAscii_eq_map (cs : List Char) : toAscii cs = cs.map asciiChar := rfl

/-- A digit has one of ten values. -/
theorem lt_of_decimalValue? {c : Char} {d : Nat} (h : decimalValue? c = some d) : d < 10 := by
  obtain ⟨z, hz, rfl⟩ := Option.map_eq_some_iff.1 h
  have hrange := List.find?_some hz
  simp only [Bool.and_eq_true, decide_eq_true_eq] at hrange
  omega

/-- The white space of other scripts. -/
def wideBlanks : List Nat :=
  [0x85, 0xA0, 0x1680, 0x2000, 0x2001, 0x2002, 0x2003, 0x2004, 0x2005, 0x2006, 0x2007, 0x2008,
    0x2009, 0x200A, 0x2028, 0x2029, 0x202F, 0x205F, 0x3000]

/-- White space outside ASCII is white space of another script. -/
theorem mem_wideBlanks {c : Char} (h : isBlankChar c = true) (hwide : 0x80 ≤ c.toNat) :
    c.toNat ∈ wideBlanks := by
  simp only [isBlankChar, Bool.or_eq_true, Bool.and_eq_true, decide_eq_true_eq, beq_iff_eq] at h
  simp only [wideBlanks, List.mem_cons, List.not_mem_nil, or_false]
  omega

/-- No white space is a digit. -/
theorem decimalValue?_of_isBlankChar {c : Char} (h : isBlankChar c = true)
    (hwide : 0x80 ≤ c.toNat) : decimalValue? c = none := by
  have hnone : ∀ n ∈ wideBlanks,
      (Text.decimalZeros.find? fun z => decide (z ≤ n) && decide (n < z + 10)) = none :=
    forall_mem_of_all (by decide +kernel)
  rw [decimalValue?, hnone _ (mem_wideBlanks h hwide)]
  rfl

/-- A character behind the space in ASCII is no blank there. -/
theorem isAsciiBlank_eq_false {c : Char} (h : 0x20 < c.toNat) : isAsciiBlank c = false := by
  have hspace : c ≠ ' ' := by
    rintro rfl
    exact absurd h (by decide)
  have hhigh : ¬ c.toNat ≤ 0x0D := by omega
  simp [isAsciiBlank, hspace, hhigh]

/-- A digit has the number of one. -/
theorem toNat_of_isDigit {c : Char} (h : isDigit c = true) : 0x30 ≤ c.toNat ∧ c.toNat ≤ 0x39 := by
  simp only [isDigit, Bool.and_eq_true, decide_eq_true_eq] at h
  exact h

/-- What becomes of a character: in ASCII it is kept, and of the others white space becomes a space,
and what does not become a digit is kept. -/
theorem asciiChar_cases (c : Char) :
    (c.toNat < 0x80 ∧ asciiChar c = c) ∨
      (0x80 ≤ c.toNat ∧ isBlankChar c = true ∧ asciiChar c = ' ') ∨
      (0x80 ≤ c.toNat ∧ isBlankChar c = false ∧
        (asciiChar c = c ∨ isDigit (asciiChar c) = true)) := by
  by_cases hascii : c.toNat < 0x80
  · exact .inl ⟨hascii, if_pos hascii⟩
  · have hwide := Nat.not_lt.1 hascii
    have himage : asciiChar c = match decimalValue? c with
      | some d => Char.ofNat (48 + d)
      | none => if isBlankChar c then ' ' else c := if_neg hascii
    rw [himage]
    cases hblank : isBlankChar c with
    | true =>
      rw [decimalValue?_of_isBlankChar hblank hwide]
      exact .inr (.inl ⟨hwide, rfl, rfl⟩)
    | false =>
      refine .inr (.inr ⟨hwide, rfl, ?_⟩)
      cases hvalue : decimalValue? c with
      | none => exact .inl rfl
      | some d =>
        have hdigit : ∀ d < 10, isDigit (Char.ofNat (48 + d)) = true := by decide
        exact .inr (hdigit d (lt_of_decimalValue? hvalue))

/-- A character of ASCII other than the digits and the space stands for itself only. -/
theorem asciiChar_eq_iff {c t : Char} (ht : t.toNat < 0x80) (hdigit : isDigit t = false)
    (hspace : t ≠ ' ') : asciiChar c = t ↔ c = t := by
  constructor
  · rintro rfl
    obtain ⟨-, h⟩ | ⟨-, -, h⟩ | ⟨-, -, h | h⟩ := asciiChar_cases c
    · exact h.symm
    · exact (hspace h).elim
    · exact h.symm
    · cases h.symm.trans hdigit
  · rintro rfl
    exact if_pos ht

/-- What is trimmed is the white space of every script, apart from the separators of ASCII. -/
theorem isAsciiBlank_asciiChar (c : Char) : isAsciiBlank (asciiChar c) = isNumeralBlank c := by
  obtain ⟨hascii, h⟩ | ⟨hwide, hblank, h⟩ | ⟨hwide, hblank, h⟩ := asciiChar_cases c
  · rw [h]
    exact of_ascii (p := fun c => isAsciiBlank c = isNumeralBlank c) (by decide +kernel) hascii
  · have hseparator : ¬ c.toNat ≤ 0x1F := by omega
    rw [h, isNumeralBlank, hblank]
    simp [hseparator, isAsciiBlank]
  · have hbeyond : 0x20 < (asciiChar c).toNat := by
      obtain h | h := h
      · rw [h]
        omega
      · have hdigit := toNat_of_isDigit h
        omega
    rw [isAsciiBlank_eq_false hbeyond, isNumeralBlank, hblank, Bool.false_and]

/-! ## Characters that are kept -/

section Kept

variable {cs : List Char}

/-- Characters that are kept are in ASCII already. -/
theorem toAscii_eq_self (h : ∀ c ∈ cs, IsKept c) : toAscii cs = cs := by
  have hsame : ∀ c ∈ cs, asciiChar c = c := fun c hc => if_pos (h c hc).1
  rw [toAscii_eq_map, List.map_congr_left hsame, List.map_id']

/-- Characters that are kept are not trimmed. -/
theorem trimWhile_of_isKept (h : ∀ c ∈ cs, IsKept c) : trimWhile isAsciiBlank cs = cs :=
  Text.trimWhile_eq_self fun c hc => (h c hc).2.1

/-- No underscores are dropped where there are none. -/
theorem dropUnderscores_eq_self (h : ∀ c ∈ cs, IsKept c) (before : Bool) :
    dropUnderscores before cs = some cs := by
  induction cs generalizing before with
  | nil => rfl
  | cons c cs ih =>
    rw [List.forall_mem_cons] at h
    unfold dropUnderscores
    split
    · rename_i heq
      cases heq
    · rename_i heq
      exact (h.1.2.2 (List.cons.inj heq).1).elim
    · rename_i heq
      cases heq
      rw [ih h.2]
      rfl

end Kept

/-- Where no digit is left, no underscore was dropped: it would have stood in front of a digit. -/
theorem eq_of_dropUnderscores {before : Bool} {cs ds : List Char}
    (h : dropUnderscores before cs = some ds) (hdigits : ∀ d ∈ ds, isDigit d = false) :
    ds = cs := by
  fun_induction dropUnderscores before cs generalizing ds with
  | case1 => exact (Option.some.inj h).symm
  | case2 _ c r hdigit ih =>
    -- the digit behind the underscore is left
    obtain rfl := ih h hdigits
    rw [hdigits c List.mem_cons_self, Bool.and_false] at hdigit
    cases hdigit
  | case3 => cases h
  | case4 => cases h
  | case5 _ c r _ ih =>
    obtain ⟨rest, hrest, rfl⟩ := Option.map_eq_some_iff.1 h
    rw [ih hrest (List.forall_mem_cons.1 hdigits).2]

/-! ## What is no number -/

/-- A quotient is a number. -/
theorem roundRatio_ne_nan (negative : Bool) (num den : Nat) :
    Double.roundRatio negative num den ≠ .nan := by
  unfold Double.roundRatio Double.zero
  simp only
  split_ifs <;> exact nofun

/-- Digits write a number. -/
theorem toDouble_ne_nan (d : Decimal) : d.toDouble ≠ .nan := by
  unfold Decimal.toDouble Double.ofDecimal Double.ofScaled Double.zero
  simp only
  split_ifs
  · exact nofun
  · exact nofun
  · exact nofun
  · exact roundRatio_ne_nan _ _ _

/-- Whether characters are the word for what is no number, in letters of either case. -/
def IsNanWord (word : List Char) : Prop := word.map lowerAsciiChar = "nan".toList

/-- Whether characters are a sign, or none. -/
def IsSign (sign : List Char) : Prop := sign ∈ [[], ['+'], ['-']]

/-- A text begins with the sign that is taken off it. -/
theorem exists_sign (cs : List Char) : ∃ sign, IsSign sign ∧ cs = sign ++ (takeSign true cs).2 := by
  unfold takeSign
  split
  · exact ⟨['-'], by simp [IsSign], rfl⟩
  · exact ⟨['+'], by simp [IsSign], rfl⟩
  · exact ⟨[], by simp [IsSign], rfl⟩

/-- Only the word writes what is no number. -/
theorem signedDouble?_eq_nan_iff (cs : List Char) :
    signedDouble? cs = some .nan ↔ IsNanWord (takeSign true cs).2 := by
  have hword : (takeSign true cs).2.map (fun c =>
      if 'A' ≤ c ∧ c ≤ 'Z' then Char.ofNat (c.toNat + 32) else c) =
        (takeSign true cs).2.map lowerAsciiChar := rfl
  unfold signedDouble? IsNanWord
  simp only [hword]
  split_ifs with hinfinite hnan
  · refine iff_of_false nofun fun hnan => ?_
    rw [hnan] at hinfinite
    revert hinfinite
    decide
  · exact iff_of_true rfl hnan
  · refine iff_of_false ?_ hnan
    intro h
    obtain ⟨d, -, hd⟩ := Option.map_eq_some_iff.1 h
    exact toDouble_ne_nan d hd

/-- The letters of the word are kept, and none is a digit. -/
theorem isKept_of_isNanWord {word : List Char} (h : IsNanWord word) {c : Char} (hc : c ∈ word) :
    IsKept c ∧ isDigit c = false := by
  have hlower : lowerAsciiChar c ∈ "nan".toList := h ▸ List.mem_map_of_mem hc
  have hascii : c.toNat < 0x80 := by
    by_contra hwide
    rw [Text.lowerAsciiChar_of_toNat (by omega)] at hlower
    have hletters : ∀ d ∈ "nan".toList, d.toNat < 0x80 := forall_mem_of_all (by decide)
    exact hwide (hletters c hlower)
  refine of_ascii (p := fun c => lowerAsciiChar c ∈ "nan".toList → IsKept c ∧ isDigit c = false)
    ?_ hascii hlower
  decide +kernel

/-- No letter of the word is a sign. -/
theorem takeSign_append {sign word : List Char} (hsign : IsSign sign) (hword : IsNanWord word) :
    takeSign true (sign ++ word) = (sign == ['-'], word) := by
  obtain ⟨c, r, rfl⟩ : ∃ c r, word = c :: r := by
    refine List.exists_cons_of_ne_nil ?_
    rintro rfl
    cases hword
  have hfirst : lowerAsciiChar c = 'n' := (List.cons.inj hword).1
  have hminus : c ≠ '-' := by
    rintro rfl
    revert hfirst
    decide
  have hplus : c ≠ '+' := by
    rintro rfl
    revert hfirst
    decide
  simp only [IsSign, List.mem_cons, List.not_mem_nil, or_false] at hsign
  obtain rfl | rfl | rfl := hsign
  · rw [List.nil_append]
    unfold takeSign
    split
    · rename_i heq
      exact (hminus (List.cons.inj heq).1).elim
    · rename_i heq
      exact (hplus (List.cons.inj heq).1).elim
    · rfl
  · rfl
  · rfl

/-- The word behind its sign has only characters that are kept, and no digits. -/
theorem isKept_of_mem {sign word : List Char} (hsign : IsSign sign) (hword : IsNanWord word)
    {c : Char} (hc : c ∈ sign ++ word) : IsKept c ∧ isDigit c = false := by
  obtain hc | hc := List.mem_append.1 hc
  · simp only [IsSign, List.mem_cons, List.not_mem_nil, or_false] at hsign
    obtain rfl | rfl | rfl := hsign
    · cases hc
    · obtain rfl := List.mem_singleton.1 hc
      decide
    · obtain rfl := List.mem_singleton.1 hc
      decide
  · exact isKept_of_isNanWord hword hc

/-- Characters that are kept come from no other script, unless they are digits. -/
theorem eq_of_map_asciiChar {cs ts : List Char} (h : cs.map asciiChar = ts)
    (hkept : ∀ t ∈ ts, IsKept t ∧ isDigit t = false) : cs = ts := by
  have hsame : ∀ c ∈ cs, asciiChar c = c := by
    intro c hc
    obtain ⟨⟨hascii, hblank, -⟩, hdigit⟩ := hkept (asciiChar c) (h ▸ List.mem_map_of_mem hc)
    have hspace : asciiChar c ≠ ' ' := by
      intro heq
      rw [heq] at hblank
      cases hblank
    exact ((asciiChar_eq_iff hascii hdigit hspace).1 rfl).symm
  rw [← h, List.map_congr_left hsame, List.map_id']

/-- Whether a text writes what is no number: the word with a sign or none, and white space of any
script around it. -/
def WritesNan (s : String) : Prop :=
  ∃ front sign word back, s.toList = front ++ (sign ++ word) ++ back ∧ IsSign sign ∧
    IsNanWord word ∧ (∀ c ∈ front, isNumeralBlank c = true) ∧ ∀ c ∈ back, isNumeralBlank c = true

/-- A text is read as what is no number exactly if it writes that. -/
theorem double?_eq_nan_iff (s : String) : double? s = some .nan ↔ WritesNan s := by
  constructor
  · intro h
    obtain ⟨ds, hdrop, hread⟩ := Option.bind_eq_some_iff.1 h
    obtain ⟨sign, hsign, hds⟩ := exists_sign ds
    have hword := (signedDouble?_eq_nan_iff ds).1 hread
    have hkept : ∀ c ∈ ds, IsKept c ∧ isDigit c = false :=
      fun c hc => isKept_of_mem hsign hword (hds ▸ hc)
    have hwhole := eq_of_dropUnderscores hdrop fun c hc => (hkept c hc).2
    obtain ⟨front, back, hsplit, hfront, hback⟩ :=
      Text.exists_eq_trimWhile isAsciiBlank (toAscii s.toList)
    rw [← hwhole, toAscii_eq_map] at hsplit
    -- the text falls into three parts as its image does
    obtain ⟨before, last, htext, hbefore, rfl⟩ := List.map_eq_append_iff.1 hsplit
    obtain ⟨first, core, rfl, rfl, hcore⟩ := List.map_eq_append_iff.1 hbefore
    obtain rfl := eq_of_map_asciiChar hcore hkept
    refine ⟨first, sign, _, last, hds ▸ htext, hsign, hword, ?_, ?_⟩
    · intro c hc
      rw [← isAsciiBlank_asciiChar]
      exact hfront _ (List.mem_map_of_mem hc)
    · intro c hc
      rw [← isAsciiBlank_asciiChar]
      exact hback _ (List.mem_map_of_mem hc)
  · rintro ⟨front, sign, word, back, htext, hsign, hword, hfront, hback⟩
    have hkept : ∀ c ∈ sign ++ word, IsKept c := fun c hc => (isKept_of_mem hsign hword hc).1
    have hblank : ∀ cs : List Char, (∀ c ∈ cs, isNumeralBlank c = true) →
        ∀ c ∈ cs.map asciiChar, isAsciiBlank c = true := by
      intro cs hcs c hc
      obtain ⟨b, hb, rfl⟩ := List.mem_map.1 hc
      rw [isAsciiBlank_asciiChar]
      exact hcs b hb
    have htrim : trimWhile isAsciiBlank (toAscii s.toList) = sign ++ word := by
      rw [htext, toAscii_eq_map, List.map_append, List.map_append, ← toAscii_eq_map (sign ++ word),
        toAscii_eq_self hkept]
      exact Text.trimWhile_between _ _ _ _ (hblank front hfront) (hblank back hback)
        (fun c hc => (hkept c (List.mem_of_mem_head? hc)).2.1)
        fun c hc => (hkept c (List.mem_of_getLast? hc)).2.1
    have hread : signedDouble? (sign ++ word) = some .nan := by
      rw [signedDouble?_eq_nan_iff, takeSign_append hsign hword]
      exact hword
    unfold double?
    rw [htrim, dropUnderscores_eq_self hkept]
    exact hread

/-- The word may have capitals, a sign, and the white space of another script beside it; digits
beside it make it none. -/
example : double? "\u3000-NaN\n" = some .nan ∧ double? "nan0" = none := by decide +kernel

end Courier.Numeral
