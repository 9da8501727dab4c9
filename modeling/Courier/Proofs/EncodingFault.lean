import Courier.Proofs.Basic
import Courier.Proofs.TextCodes
import Courier.Text.EncodingFault
import Mathlib.Data.List.TakeWhile

/-!
# Which texts an encoding lacks

A text can be written in an encoding exactly when no fault is found in it: in ASCII when every
character is below 128 (`inAscii?_eq_none_iff`), in UTF-8 when no code point is a surrogate
(`inUtf8?_eq_none_iff`), and where bytes are kept, when every surrogate keeps one
(`inBytes?_eq_none_iff`). A fault is a run that is not empty, so `firstRun?` misses nothing.

So a text can be written in UTF-8 exactly when it is one of characters (`CodeText.utf8_eq_ok_iff`),
and several texts exactly when each is (`CodeText.utf8Pairs_eq_ok_iff`).
-/

namespace Courier.Text.EncodingFault

/-- No run is found exactly when nothing is missing. -/
theorem firstRun?_eq_none_iff (lacks : Nat → Bool) (codes : List Nat) :
    firstRun? lacks codes = none ↔ ∀ n ∈ codes, lacks n = false := by
  induction codes with
  | nil => simp [firstRun?]
  | cons n codes ih =>
    by_cases hn : lacks n = true
    · -- the run begins here
      have hrun : firstRun? lacks (n :: codes) = some (0, n :: codes.takeWhile lacks) := by
        simp [firstRun?, hn]
      rw [hrun]
      simp [hn]
    · rw [Bool.not_eq_true] at hn
      have hskip : firstRun? lacks (n :: codes) = none ↔ firstRun? lacks codes = none := by
        simp [firstRun?, hn]
      rw [hskip, ih]
      simp [hn]

/-- A text is ASCII exactly when every code point is. -/
theorem inAscii?_eq_none_iff (t : CodeText) : inAscii? t = none ↔ ∀ p ∈ t, p.toNat < 0x80 := by
  rw [inAscii?, Option.map_eq_none_iff, firstRun?_eq_none_iff]
  simp [CodeText.codes]

/-- Code points can be written in UTF-8 exactly when none is a surrogate. -/
theorem inUtf8?_eq_none_iff (codes : List Nat) :
    inUtf8? codes = none ↔ ∀ n ∈ codes, isSurrogate n = false := by
  rw [inUtf8?, Option.map_eq_none_iff, firstRun?_eq_none_iff]

/-- Code points can be written as text and kept bytes exactly when every surrogate keeps a byte. -/
theorem inBytes?_eq_none_iff (codes : List Nat) :
    inBytes? codes = none ↔ ∀ n ∈ codes, isSurrogate n = true → isKeptByte n = true := by
  unfold inBytes?
  simp only [ite_eq_left_iff, reduceCtorEq, imp_false, Decidable.not_not, List.isEmpty_iff,
    List.dropWhile_eq_nil_iff, Bool.or_eq_true, Bool.not_eq_true']
  refine forall₂_congr fun n _ => ?_
  cases isSurrogate n <;> simp

end Courier.Text.EncodingFault

namespace Courier

/-- Whether a text has only ASCII characters. -/
def CodeText.IsAscii (t : CodeText) : Prop := ∀ p ∈ t, p.toNat < 0x80

instance (t : CodeText) : Decidable t.IsAscii :=
  decidable_of_iff ((t.all fun p => decide (p.toNat < 0x80)) = true) (by simp [CodeText.IsAscii])

/-- Whether a text of characters has only those of ASCII. -/
def Text.IsAscii (s : String) : Prop := ∀ c ∈ s.toList, c.toNat < 0x80

instance (s : String) : Decidable (Text.IsAscii s) :=
  decidable_of_iff ((s.toList.all fun c => decide (c.toNat < 0x80)) = true)
    (by simp [Text.IsAscii])

namespace CodeText

open Text

variable {s : String} {t : CodeText}

/-- A text of characters is ASCII exactly if its characters are. -/
theorem isAscii_ofString_iff : (ofString s).IsAscii ↔ Text.IsAscii s := by
  simp [IsAscii, Text.IsAscii, ofString, CodePoint.toNat]

/-- A text that is ASCII is one of characters. -/
theorem IsAscii.ofString_characters (h : t.IsAscii) : ofString t.characters = t := by
  refine CodeText.ofString_characters fun p hp => ?_
  cases p with
  | char c => rfl
  | surrogate distance =>
    have hlow := h _ hp
    simp only [CodePoint.toNat] at hlow
    omega

/-- A text can be written in UTF-8 exactly if it is one of characters. -/
theorem utf8_eq_ok_iff : t.utf8 = .ok s ↔ t = ofString s := by
  have hwhole : EncodingFault.inUtf8? t.codes = none ↔ ∀ p ∈ t, p.char?.isSome = true := by
    rw [EncodingFault.inUtf8?_eq_none_iff, codes, List.forall_mem_map]
    refine forall₂_congr fun p _ => ?_
    rw [← Bool.not_eq_true, CodePoint.isSurrogate_toNat_iff, Option.isSome_iff_ne_none]
  unfold utf8
  constructor
  · intro h
    split at h
    · cases h
    · rename_i hnone
      cases h
      exact (ofString_characters (hwhole.1 hnone)).symm
  · rintro rfl
    have hnone : EncodingFault.inUtf8? (ofString s).codes = none :=
      hwhole.2 (by simp [ofString, CodePoint.char?])
    rw [hnone, characters_ofString]

theorem utf8_ofString (s : String) : (ofString s).utf8 = .ok s := utf8_eq_ok_iff.2 rfl

/-- A text cannot be written in UTF-8 exactly if it has a surrogate. -/
theorem exists_utf8_eq_error_iff : (∃ fault, t.utf8 = .error fault) ↔ t.toString? = none := by
  cases hwritten : t.utf8 with
  | ok s => simp [utf8_eq_ok_iff.1 hwritten, toString?_ofString]
  | error fault =>
    have hnone : t.toString? = none := by
      rw [Option.eq_none_iff_forall_ne_some]
      intro s hs
      rw [toString?_eq_some_iff.1 hs, utf8_ofString] at hwritten
      cases hwritten
    simp [hnone]

/-- A text without surrogates is made of its characters. -/
theorem ofString_characters_of_ne (h : t.toString? ≠ none) : ofString t.characters = t := by
  obtain ⟨s, hs⟩ := Option.ne_none_iff_exists'.1 h
  rw [toString?_eq_some_iff.1 hs, characters_ofString]

/-- A text of characters is shown as it is. -/
theorem shown_ofString (s : String) : (ofString s).shown = s := by
  have hchar : ∀ c : Char, (if isSurrogate c.toNat then (EncodingFault.escaped c.toNat).toList
      else [Char.ofNat c.toNat]) = [c] := by
    intro c
    rw [isSurrogate_toNat, if_neg Bool.false_ne_true, Char.ofNat_toNat]
  rw [shown, EncodingFault.shown, codes_ofString, List.flatMap_map]
  simp only [hchar, List.flatMap_singleton', String.ofList_toList]

/-- Pairs can be written in UTF-8 exactly if they are pairs of texts of characters. -/
theorem utf8Pairs_eq_ok_iff {pairs : List (CodeText × CodeText)}
    {written : List (String × String)} :
    utf8Pairs pairs = .ok written ↔ pairs = written.map ofPair := by
  have hpair : ∀ p : CodeText × CodeText, ∀ w : String × String,
      (do return (← p.1.utf8, ← p.2.utf8) : Except EncodingFault (String × String)) = .ok w ↔
        p = ofPair w := by
    intro p w
    simp only [bind_eq_ok_iff, utf8_eq_ok_iff]
    constructor
    · rintro ⟨a, ha, b, hb, hw⟩
      cases hw
      exact Prod.ext ha hb
    · rintro rfl
      exact ⟨w.1, rfl, w.2, rfl, rfl⟩
  induction pairs generalizing written with
  | nil => cases written <;> simp [utf8Pairs, pure, Except.pure]
  | cons p pairs ih =>
    rw [utf8Pairs, List.mapM_cons, bind_eq_ok_iff]
    simp only [bind_eq_ok_iff, hpair]
    constructor
    · rintro ⟨w, rfl, rest, hrest, hw⟩
      cases hw
      rw [List.map_cons, ← ih.1 hrest]
    · intro h
      cases written with
      | nil => cases h
      | cons w rest =>
        obtain ⟨hfirst, hrest⟩ := List.cons.inj h
        exact ⟨w, hfirst, rest, ih.2 hrest, rfl⟩

/-- Pairs cannot be written in UTF-8 exactly if one of them has a surrogate. -/
theorem exists_utf8Pairs_eq_error_iff {pairs : List (CodeText × CodeText)} :
    (∃ fault, utf8Pairs pairs = .error fault) ↔
      ∃ p ∈ pairs, p.1.toString? = none ∨ p.2.toString? = none := by
  rw [exists_eq_error_iff]
  simp only [utf8Pairs_eq_ok_iff]
  constructor
  · intro hnone
    by_contra hall
    refine hnone ⟨pairs.map fun p => (p.1.characters, p.2.characters), ?_⟩
    rw [List.map_map]
    refine ((List.map_congr_left fun p hp => ?_).trans (List.map_id pairs)).symm
    have hwhole : p.1.toString? ≠ none ∧ p.2.toString? ≠ none := by
      rw [← not_or]
      exact fun hbroken => hall ⟨p, hp, hbroken⟩
    exact Prod.ext (ofString_characters_of_ne hwhole.1) (ofString_characters_of_ne hwhole.2)
  · rintro ⟨p, hp, hbroken⟩ ⟨written, rfl⟩
    obtain ⟨q, -, rfl⟩ := List.mem_map.1 hp
    simp [ofPair, toString?_ofString] at hbroken

end CodeText

end Courier
