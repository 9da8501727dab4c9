import Courier.Number.Numeral
import Courier.Proofs.Basic
import Courier.Proofs.CodeSet
import Courier.Text.Lower

/-!
# Two kinds of lower case

The full lower case of a text and the lower case of its letters A to Z are one and the same for the
question whether they are a given text, if that text is made of ASCII characters other than `i` and
`k` (`lower_eq_iff`). Only two characters outside ASCII have an image that begins in ASCII: the
dotted capital I, whose image begins with an `i`, and the Kelvin sign, whose image is `k`. That
there are no others is read off the table once (`lowerRuns_image`).
-/

namespace Courier.Text

/-- The lower case of a letter A to Z; other characters stay as they are. -/
def lowerAsciiChar (c : Char) : Char :=
  if 'A' ≤ c ∧ c ≤ 'Z' then Char.ofNat (c.toNat + 32) else c

/-- The lower case of the letters of a text works character by character. -/
theorem lowerAscii_eq_map (s : String) :
    lowerAscii s = String.ofList (s.toList.map lowerAsciiChar) := rfl

/-- The characters of a text in small letters. -/
theorem toList_lowerAscii (s : String) :
    (lowerAscii s).toList = s.toList.map lowerAsciiChar := by
  rw [lowerAscii_eq_map, String.toList_ofList]

/-- Whether a character is in ASCII, and no image of a character that is not. -/
def IsPlain (c : Char) : Prop := 0 < c.toNat ∧ c.toNat < 0x80 ∧ c ≠ 'i' ∧ c ≠ 'k'

instance (c : Char) : Decidable (IsPlain c) :=
  inferInstanceAs (Decidable (0 < c.toNat ∧ c.toNat < 0x80 ∧ c ≠ 'i' ∧ c ≠ 'k'))

/-- A code point and the character that it stands for; it stands for none if it is out of range. -/
theorem toNat_ofNat (n : Nat) : (Char.ofNat n).toNat = n ∨ (Char.ofNat n).toNat = 0 := by
  by_cases h : n.isValidChar
  · left
    rw [Char.ofNat, dif_pos h]
    rfl
  · right
    rw [Char.ofNat, dif_neg h]
    rfl

/-- Only the letters A to Z have another lower case. -/
theorem lowerAsciiChar_eq_self_iff (c : Char) :
    lowerAsciiChar c = c ↔ ¬('A' ≤ c ∧ c ≤ 'Z') := by
  constructor
  · intro h hletter
    have hbounds : 0x41 ≤ c.toNat ∧ c.toNat ≤ 0x5A := hletter
    have himage : Char.ofNat (c.toNat + 32) = c := by
      rw [lowerAsciiChar, if_pos hletter] at h
      exact h
    have hnumber := congrArg Char.toNat himage
    rcases toNat_ofNat (c.toNat + 32) with hc | hc
    · omega
    · omega
  · exact fun h => if_neg h

/-- The letters A to Z by their numbers: others stay as they are. -/
theorem lowerAsciiChar_of_toNat {c : Char} (h : c.toNat < 0x41 ∨ 0x5A < c.toNat) :
    lowerAsciiChar c = c := by
  refine (lowerAsciiChar_eq_self_iff c).2 fun hletter => ?_
  have hbounds : 0x41 ≤ c.toNat ∧ c.toNat ≤ 0x5A := hletter
  omega

/-- A small letter is no capital. -/
theorem lowerAsciiChar_lowerAsciiChar (c : Char) :
    lowerAsciiChar (lowerAsciiChar c) = lowerAsciiChar c := by
  by_cases h : 'A' ≤ c ∧ c ≤ 'Z'
  · have hbounds : 0x41 ≤ c.toNat ∧ c.toNat ≤ 0x5A := h
    have himage : lowerAsciiChar c = Char.ofNat (c.toNat + 32) := if_pos h
    rw [himage]
    refine lowerAsciiChar_of_toNat ?_
    rcases toNat_ofNat (c.toNat + 32) with hc | hc
    · omega
    · omega
  · rw [(lowerAsciiChar_eq_self_iff c).2 h, (lowerAsciiChar_eq_self_iff c).2 h]

/-- In small letters, a text is not changed by putting it there again. -/
theorem lowerAscii_lowerAscii (s : String) : lowerAscii (lowerAscii s) = lowerAscii s := by
  rw [lowerAscii_eq_map, lowerAscii_eq_map, String.toList_ofList, List.map_map]
  exact congrArg String.ofList (List.map_congr_left fun c _ => lowerAsciiChar_lowerAsciiChar c)

/-- A digit stays in lower case. -/
theorem lowerAsciiChar_of_isDigit {c : Char} (h : Numeral.isDigit c = true) :
    lowerAsciiChar c = c := by
  simp only [Numeral.isDigit, Bool.and_eq_true, decide_eq_true_eq] at h
  have hhigh : c.toNat ≤ 0x39 := h.2
  exact lowerAsciiChar_of_toNat (by omega)

/-- No run of the table leads to a code point of ASCII, apart from the one of the Kelvin sign. -/
theorem lowerRuns_image :
    lowerRuns.runs.toList.all (fun r => decide (0x80 ≤ (r.first : Int) + r.shift ∨
      r.first = 0x212A ∧ r.last = 0x212A ∧ r.shift = 0x6B - 0x212A)) = true := by
  unfold lowerRuns
  rw [CodeRuns.toList_runs_ofText rfl]
  decide +kernel

/-- The image of a code point outside ASCII is outside ASCII, or it is `k`. -/
theorem le_lowerCode {n : Nat} (h : 0x80 ≤ n) : 0x80 ≤ lowerCode n ∨ lowerCode n = 0x6B := by
  unfold lowerCode
  split
  · split
    · exact .inl (by omega)
    · exact .inl h
  · cases himage : lowerRuns.image? n with
    | none => exact .inl h
    | some m =>
      obtain ⟨r, hr, hfirst, hlast, rfl⟩ := CodeRuns.exists_of_image?_eq_some himage
      -- a run moves all its code points by the same distance, so its first one decides
      have hrun := List.all_eq_true.1 lowerRuns_image r hr
      rw [decide_eq_true_eq] at hrun
      rw [Option.getD_some]
      omega

/-- In ASCII, the image of a code point is the lower case of a letter A to Z. -/
theorem ofNat_lowerCode_of_ascii {c : Char} (hc : c.toNat < 0x80) :
    Char.ofNat (lowerCode c.toNat) = lowerAsciiChar c := by
  have hletter : 'A' ≤ c ∧ c ≤ 'Z' ↔ 0x41 ≤ c.toNat ∧ c.toNat ≤ 0x5A := Iff.rfl
  unfold lowerCode lowerAsciiChar
  rw [if_pos (by omega)]
  by_cases h : 0x41 ≤ c.toNat ∧ c.toNat ≤ 0x5A
  · rw [if_pos (.inl h), if_pos (hletter.2 h)]
  · rw [if_neg (by omega), if_neg fun hc => h (hletter.1 hc), Char.ofNat_toNat]

/-- The image of a character of ASCII, wherever it stands. -/
theorem lowerFrom_of_ascii {c : Char} (hc : c.toNat < 0x80) (before r : List Char) :
    lowerFrom before (c :: r) = lowerAsciiChar c :: lowerFrom (c :: before) r := by
  rw [lowerFrom, if_neg (by omega), if_neg (by omega), ofNat_lowerCode_of_ascii hc]
  rfl

/-- The image of another character does not begin with a plain one, wherever it stands. -/
theorem lowerFrom_of_not_ascii {c : Char} (hc : 0x80 ≤ c.toNat) (before r : List Char) :
    ∃ d ds, lowerFrom before (c :: r) = d :: ds ∧ ¬IsPlain d := by
  rw [lowerFrom]
  split
  · -- one of the two small sigmas
    refine ⟨_, _, rfl, ?_⟩
    split
    · decide
    · decide
  · split
    · exact ⟨'i', _, rfl, by decide⟩
    · refine ⟨Char.ofNat (lowerCode c.toNat), _, rfl, ?_⟩
      intro hplain
      rcases le_lowerCode hc with hle | hkelvin
      · rcases toNat_ofNat (lowerCode c.toNat) with h | h
        · have hlt := hplain.2.1
          omega
        · have hpos := hplain.1
          omega
      · rw [hkelvin] at hplain
        exact absurd hplain (by decide)

/-- The lower case of characters is a plain text if the lower case of the letters A to Z is. -/
theorem lowerFrom_eq_iff {t : List Char} (ht : ∀ d ∈ t, IsPlain d) (before cs : List Char) :
    lowerFrom before cs = t ↔ cs.map lowerAsciiChar = t := by
  induction cs generalizing before t with
  | nil => rfl
  | cons c cs ih =>
    by_cases hc : c.toNat < 0x80
    · rw [lowerFrom_of_ascii hc, List.map_cons]
      cases t with
      | nil => simp
      | cons d t =>
        rw [List.cons.injEq, List.cons.injEq,
          ih (fun e he => ht e (List.mem_cons_of_mem d he))]
    · -- neither side can be the text: the image begins with no character of it
      rw [Nat.not_lt] at hc
      have hupper : lowerAsciiChar c = c := lowerAsciiChar_of_toNat (by omega)
      obtain ⟨e, es, he, hplain⟩ := lowerFrom_of_not_ascii hc before cs
      rw [he, List.map_cons, hupper]
      constructor
      · rintro rfl
        exact absurd (ht e List.mem_cons_self) hplain
      · rintro rfl
        have hlt := (ht c List.mem_cons_self).2.1
        omega

/-- The lower case of a text is a plain text if the lower case of its letters A to Z is. -/
theorem lower_eq_iff {t : String} (ht : ∀ d ∈ t.toList, IsPlain d) (s : String) :
    lower s = t ↔ lowerAscii s = t := by
  have h := lowerFrom_eq_iff ht [] s.toList
  rw [lower, lowerAscii_eq_map]
  constructor
  · intro he
    rw [h.1 (by rw [← he, String.toList_ofList]), String.ofList_toList]
  · intro he
    rw [h.2 (by rw [← he, String.toList_ofList]), String.ofList_toList]

/-- What is in lower case has no capitals of ASCII. -/
theorem lowerAsciiChar_of_mem_lowerFrom {cs before : List Char} {c : Char}
    (h : c ∈ lowerFrom before cs) : lowerAsciiChar c = c := by
  induction cs generalizing before with
  | nil => cases h
  | cons d r ih =>
    by_cases hd : d.toNat < 0x80
    · rw [lowerFrom_of_ascii hd] at h
      rcases List.mem_cons.1 h with rfl | h
      · exact lowerAsciiChar_lowerAsciiChar d
      · exact ih h
    · rw [lowerFrom] at h
      rcases List.mem_append.1 h with h | h
      · split at h
        · -- one of the two small sigmas
          rw [List.mem_singleton.1 h]
          split
          · decide
          · decide
        · split at h
          · exact (forall_mem_of_all (p := fun c => lowerAsciiChar c = c) (by decide)) c h
          · rw [List.mem_singleton.1 h]
            refine lowerAsciiChar_of_toNat ?_
            have himage := le_lowerCode (n := d.toNat) (by omega)
            rcases toNat_ofNat (lowerCode d.toNat) with hc | hc
            · omega
            · omega
      · exact ih h

end Courier.Text
