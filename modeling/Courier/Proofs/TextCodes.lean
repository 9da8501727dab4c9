import Courier.Data.Basic
import Courier.Proofs.Charset

/-!
# Texts as code points

A text is its code points: no character is half of a pair, so the code points of characters make up
the text again (`Data.ofCodes_map_toNat`), and those of any text do (`CodeText.ofCodes_codes`). A
text without surrogates is one of characters only (`CodeText.toString?_eq_some_iff`).
-/

namespace Courier

namespace Text

/-- The characters of a text are those of its code points. -/
theorem map_ofNat_map_toNat (cs : List Char) : (cs.map Char.toNat).map Char.ofNat = cs := by
  have hback : Char.ofNat ∘ Char.toNat = id := funext Char.ofNat_toNat
  rw [List.map_map, hback, List.map_id]

/-- The code points of characters have no half of a pair among them. -/
theorem any_isSurrogate_map_toNat (cs : List Char) :
    (cs.map Char.toNat).any isSurrogate = false := by
  rw [List.any_eq_false]
  intro n hn
  rw [isSurrogate_of_mem_map hn]
  exact Bool.false_ne_true

namespace CodePoint

/-- A code point is that of its number. -/
theorem ofNat_toNat (p : CodePoint) : ofNat p.toNat = p := by
  cases p with
  | char c =>
    have hplain := isSurrogate_toNat c
    simp only [isSurrogate, Bool.and_eq_false_iff, decide_eq_false_iff_not] at hplain
    rw [toNat, ofNat, dif_neg (by omega), Char.ofNat_toNat]
  | surrogate distance =>
    have hrange : 0xD800 ≤ 0xD800 + distance.val ∧ 0xD800 + distance.val < 0xE000 :=
      ⟨Nat.le_add_right _ _, Nat.add_lt_add_left distance.isLt 0xD800⟩
    have hback : 0xD800 + distance.val - 0xD800 = distance.val := Nat.add_sub_cancel_left ..
    rw [toNat, ofNat, dif_pos hrange]
    exact congrArg surrogate (Fin.ext hback)

/-- The surrogates are the code points that are no characters. -/
theorem isSurrogate_toNat_iff (p : CodePoint) : isSurrogate p.toNat = true ↔ p.char? = none := by
  cases p with
  | char c => simp [toNat, char?, isSurrogate_toNat c]
  | surrogate distance =>
    have hsmall := distance.isLt
    have hrange : isSurrogate (0xD800 + distance.val) = true := by
      simp only [isSurrogate, Bool.and_eq_true, decide_eq_true_eq]
      omega
    simp [toNat, char?, hrange]

end CodePoint

end Text

namespace CodeText

variable {s : String} {t : CodeText}

/-- A text of characters has the code points of its characters. -/
theorem codes_ofString (s : String) : (ofString s).codes = s.toList.map Char.toNat := by
  simp [codes, ofString, Text.CodePoint.toNat]

/-- A text is that of its code points. -/
theorem ofCodes_codes (t : CodeText) : ofCodes t.codes = t := by
  have hback : Text.CodePoint.ofNat ∘ Text.CodePoint.toNat = id :=
    funext Text.CodePoint.ofNat_toNat
  rw [ofCodes, codes, List.map_map, hback, List.map_id]

theorem ofString_append (s t : String) : ofString (s ++ t) = ofString s ++ ofString t := by
  simp [ofString]

/-- Two texts give one of characters exactly if both are. -/
theorem append_eq_ofString_iff {a b : CodeText} :
    a ++ b = ofString s ↔ ∃ x y, a = ofString x ∧ b = ofString y ∧ s = x ++ y := by
  constructor
  · intro h
    obtain ⟨front, back, hsplit, rfl, rfl⟩ := List.map_eq_append_iff.1 h.symm
    refine ⟨.ofList front, .ofList back, ?_, ?_, ?_⟩
    · simp [ofString]
    · simp [ofString]
    · rw [← String.ofList_append, ← hsplit, String.ofList_toList]
  · rintro ⟨x, y, rfl, rfl, rfl⟩
    exact (ofString_append x y).symm

theorem characters_ofString (s : String) : (ofString s).characters = s := by
  simp [characters, ofString, List.filterMap_map, Function.comp_def, Text.CodePoint.char?]

/-- Texts of characters are the same as such. -/
theorem ofString_inj {s t : String} : ofString s = ofString t ↔ s = t := by
  refine ⟨fun h => ?_, fun h => h ▸ rfl⟩
  rw [← characters_ofString s, h, characters_ofString]

/-- Pairs of texts of characters are the same as such. -/
theorem ofPair_injective : Function.Injective ofPair := by
  intro p q h
  obtain ⟨hfirst, hsecond⟩ := Prod.mk.inj h
  exact Prod.ext (ofString_inj.1 hfirst) (ofString_inj.1 hsecond)

/-- A text without surrogates is that of its characters. -/
theorem ofString_characters (h : ∀ p ∈ t, p.char?.isSome = true) : ofString t.characters = t := by
  induction t with
  | nil => rfl
  | cons p t ih =>
    obtain ⟨hp, ht⟩ := List.forall_mem_cons.1 h
    cases p with
    | surrogate distance => cases hp
    | char c =>
      have hrest : (t.filterMap Text.CodePoint.char?).map .char = t := by
        simpa [ofString, characters] using ih ht
      simp [ofString, characters, Text.CodePoint.char?, hrest]

/-- A text without surrogates is one of characters. -/
theorem toString?_eq_some_iff : t.toString? = some s ↔ t = ofString s := by
  unfold toString?
  constructor
  · intro h
    split at h
    · rename_i hall
      cases h
      exact (ofString_characters (List.all_eq_true.1 hall)).symm
    · cases h
  · rintro rfl
    rw [characters_ofString, if_pos]
    simp [ofString, Text.CodePoint.char?]

theorem toString?_ofString (s : String) : (ofString s).toString? = some s :=
  toString?_eq_some_iff.2 rfl

/-- A text is none of characters exactly if it has a surrogate. -/
theorem toString?_eq_none_iff : t.toString? = none ↔ ∃ p ∈ t, p.char? = none := by
  simp [toString?]

end CodeText

/-- The code points of characters make up a text. -/
theorem Data.ofCodes_map_toNat (cs : List Char) :
    ofCodes (cs.map Char.toNat) = .text (String.ofList cs) := by
  rw [ofCodes, Text.any_isSurrogate_map_toNat, if_neg Bool.false_ne_true, Text.map_ofNat_map_toNat]

/-- A text of characters as a value. -/
theorem Data.ofCodeText_ofString (s : String) : ofCodeText (.ofString s) = .text s := by
  rw [ofCodeText, CodeText.codes_ofString, ofCodes_map_toNat, String.ofList_toList]

/-- A text as a value is a text of characters, or it has a surrogate. -/
theorem Data.ofCodeText_cases (t : CodeText) :
    (∃ s, t = .ofString s ∧ ofCodeText t = .text s) ∨
      t.toString? = none ∧ ofCodeText t = .brokenText t.codes := by
  cases htext : t.toString? with
  | some s =>
    obtain rfl := CodeText.toString?_eq_some_iff.1 htext
    exact .inl ⟨s, rfl, ofCodeText_ofString s⟩
  | none =>
    obtain ⟨p, hp, hnone⟩ := CodeText.toString?_eq_none_iff.1 htext
    have hbroken : t.codes.any Text.isSurrogate = true :=
      List.any_eq_true.2 ⟨_, List.mem_map_of_mem hp, (p.isSurrogate_toNat_iff).2 hnone⟩
    refine .inr ⟨rfl, ?_⟩
    rw [ofCodeText, ofCodes, if_pos hbroken]

end Courier
