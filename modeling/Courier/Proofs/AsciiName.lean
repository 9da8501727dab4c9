import Courier.Domain.Name
import Courier.Proofs.Basic
import Courier.Proofs.CodeSet
import Courier.Proofs.Lower
import Courier.Proofs.Percent

/-!
# The characters of encoded names

An internationalised name in its ASCII form has small letters, digits, hyphens and full stops only
(`isNameChar_of_mem_toAscii?`). A label that is ASCII already has been checked as one that it stands
for, so its characters are in the tables of what is permitted, or they are digits of Punycode; those
of an encoded label are of the same two kinds. Of the tables only ASCII matters here: what they hold
of it is read off them once (`permitted_ascii`).
-/

namespace Courier

open Text

namespace Domain

/-- Whether a character may stand in an encoded name: it needs no escape and is no capital. -/
def IsNameChar (c : Char) : Prop := isUnreserved c = true ∧ lowerAsciiChar c = c

instance (c : Char) : Decidable (IsNameChar c) :=
  inferInstanceAs (Decidable (isUnreserved c = true ∧ lowerAsciiChar c = c))

/-! ## What the tables hold of ASCII -/

/-- Whether a range of code points has characters of names only, as far as ASCII goes. -/
def isNameRange (r : Nat × Nat) : Bool :=
  0x80 ≤ r.1 || (r.2 < 0x80 &&
    (List.range (r.2 + 1)).all fun n => n < r.1 || decide (IsNameChar (Char.ofNat n)))

set_option maxRecDepth 1000 in
/-- The tables hold characters of names only, as far as ASCII goes. -/
theorem permitted_ascii : ∀ t ∈ [permitted, joiners, contextual],
    t.ranges.toList.all isNameRange = true := by
  have hpermitted : permitted.ranges.toList.all isNameRange = true := by
    unfold permitted
    rw [CodeSet.toList_ranges_ofText rfl]
    decide +kernel
  have hjoiners : joiners.ranges.toList.all isNameRange = true := by
    unfold joiners
    rw [CodeSet.toList_ranges_ofText rfl]
    decide +kernel
  have hcontextual : contextual.ranges.toList.all isNameRange = true := by
    unfold contextual
    rw [CodeSet.toList_ranges_ofText rfl]
    decide +kernel
  simp only [List.forall_mem_cons, hpermitted, hjoiners, hcontextual, true_and]
  exact List.forall_mem_nil _

/-- What a table holds of ASCII may stand in names. -/
theorem isNameChar_of_contains {t : CodeSet} (ht : t ∈ [permitted, joiners, contextual]) {n : Nat}
    (h : t.contains n = true) (hn : n < 0x80) : IsNameChar (Char.ofNat n) := by
  obtain ⟨r, hr, hlow, hhigh⟩ := CodeSet.exists_of_contains h
  have hrange := List.all_eq_true.1 (permitted_ascii t ht) r hr
  simp only [isNameRange, Bool.or_eq_true, Bool.and_eq_true, decide_eq_true_eq, List.all_eq_true,
    List.mem_range] at hrange
  rcases hrange with hbeyond | ⟨-, hall⟩
  · omega
  · exact (hall n (by omega)).resolve_left (by omega)

/-- What is permitted in a label may stand in names, as far as ASCII goes. -/
theorem isNameChar_of_allPermitted {codes before : List Nat} (h : allPermitted before codes = true)
    {n : Nat} (hmem : n ∈ codes) (hn : n < 0x80) : IsNameChar (Char.ofNat n) := by
  induction codes generalizing before with
  | nil => cases hmem
  | cons m codes ih =>
    rw [allPermitted, Bool.and_eq_true] at h
    rcases List.mem_cons.1 hmem with rfl | hmem
    · have hfirst := h.1
      simp only [Bool.or_eq_true, Bool.and_eq_true] at hfirst
      rcases hfirst with hp | ⟨hj | hc, -⟩
      · exact isNameChar_of_contains (by simp) hp hn
      · exact isNameChar_of_contains (by simp) hj hn
      · exact isNameChar_of_contains (by simp) hc hn
    · exact ih h.2 hmem

/-- The ASCII code points of a valid label may stand in names. -/
theorem isNameChar_of_isValidLabel {codes : List Nat} (h : isValidLabel codes = true) {n : Nat}
    (hmem : n ∈ codes) (hn : n < 0x80) : IsNameChar (Char.ofNat n) := by
  unfold isValidLabel at h
  simp only [Bool.and_eq_true] at h
  exact isNameChar_of_allPermitted h.1.2 hmem hn

/-! ## Punycode -/

namespace Punycode

/-- The digits may stand in names. -/
theorem isNameChar_digitChar : ∀ d < 36, IsNameChar (digitChar d) := by decide +kernel

/-- What counts as a digit needs no escape. -/
theorem isUnreserved_of_digitValue? {c : Char} (h : digitValue? c ≠ none) :
    isUnreserved c = true := by
  unfold digitValue? at h
  unfold isUnreserved
  simp only [Bool.or_eq_true, Bool.and_eq_true, decide_eq_true_eq]
  split_ifs at h with h1 h2 h3
  · simp [h1]
  · simp [h2]
  · simp [h3]
  · exact absurd rfl h

/-- The threshold of a digit is at least one and at most 26. -/
theorem threshold_bounds (k bias : Nat) : 1 ≤ threshold k bias ∧ threshold k bias ≤ 26 := by
  unfold threshold
  split_ifs <;> omega

/-- A distance is written in digits, if there are as many as it can need. -/
theorem isNameChar_of_mem_distanceDigits {bias fuel k q : Nat} (hq : q ≤ fuel) :
    ∀ c ∈ distanceDigits bias fuel k q, IsNameChar c := by
  induction fuel generalizing k q with
  | zero =>
    obtain rfl : q = 0 := by omega
    intro c hc
    rw [distanceDigits, List.mem_singleton] at hc
    rw [hc]
    exact isNameChar_digitChar 0 (by decide)
  | succ fuel ih =>
    obtain ⟨hleast, hmost⟩ := threshold_bounds k bias
    intro c hc
    simp only [distanceDigits] at hc
    split at hc
    · rw [List.mem_singleton] at hc
      rw [hc]
      exact isNameChar_digitChar q (by omega)
    · rcases List.mem_cons.1 hc with rfl | hc
      · have hmod := Nat.mod_lt (q - threshold k bias)
          (show 0 < base - threshold k bias by unfold base; omega)
        exact isNameChar_digitChar _ (by unfold base at hmod ⊢; omega)
      · -- what is left to write is smaller, because the threshold is taken off
        refine ih ?_ c hc
        exact Nat.le_trans (Nat.div_le_self _ _) (by omega)

/-- Inserting a code point writes characters of names. -/
theorem isNameChar_of_mem_encodeAt {n : Nat} {s : Encoder} {code : Nat}
    (hs : ∀ c ∈ s.output, IsNameChar c) : ∀ c ∈ (encodeAt n s code).output, IsNameChar c := by
  unfold encodeAt
  split
  · exact hs
  · split
    · intro c hc
      rcases List.mem_append.1 hc with hc | hc
      · exact hs c hc
      · exact isNameChar_of_mem_distanceDigits (Nat.le_refl _) c hc
    · exact hs

/-- So does inserting all code points of a number, wherever they stand. -/
theorem isNameChar_of_mem_foldl_encodeAt {n : Nat} (codes : List Nat) {s : Encoder}
    (hs : ∀ c ∈ s.output, IsNameChar c) :
    ∀ c ∈ (codes.foldl (encodeAt n) s).output, IsNameChar c := by
  induction codes generalizing s with
  | nil => exact hs
  | cons code codes ih => exact ih (isNameChar_of_mem_encodeAt hs)

/-- So does inserting the code points of all numbers. -/
theorem isNameChar_of_mem_encodeFrom {codes : List Nat} (ns : List Nat) {low : Nat} {s : Encoder}
    (hs : ∀ c ∈ s.output, IsNameChar c) :
    ∀ c ∈ (encodeFrom codes ns low s).output, IsNameChar c := by
  induction ns generalizing low s with
  | nil => exact hs
  | cons n ns ih =>
    exact ih (isNameChar_of_mem_foldl_encodeAt codes hs)

/-- Code points whose ASCII ones may stand in names are encoded in characters of names. -/
theorem isNameChar_of_mem_encode {codes : List Nat}
    (hcodes : ∀ n ∈ codes, n < 0x80 → IsNameChar (Char.ofNat n)) :
    ∀ c ∈ encode codes, IsNameChar c := by
  have hhyphen : IsNameChar '-' := by decide
  refine isNameChar_of_mem_encodeFrom _ fun c hc => ?_
  rcases List.mem_append.1 hc with hc | hc
  · obtain ⟨n, hn, rfl⟩ := List.mem_map.1 hc
    obtain ⟨hmem, hsmall⟩ := List.mem_filter.1 hn
    exact hcodes n hmem (by simpa using hsmall)
  · split at hc
    · cases hc
    · rw [List.mem_singleton.1 hc]
      exact hhyphen

/-- A distance that is read has been written in digits. -/
theorem exists_of_readDistance {bias k w sum : Nat} {cs rest : List Char} {delta : Nat}
    (h : readDistance bias k w sum cs = some (delta, rest)) :
    ∃ digits, cs = digits ++ rest ∧ ∀ c ∈ digits, digitValue? c ≠ none := by
  induction cs generalizing k w sum with
  | nil => cases h
  | cons c cs ih =>
    rw [readDistance] at h
    obtain ⟨d, hd, h⟩ := Option.bind_eq_some_iff.1 h
    have hc : digitValue? c ≠ none := by
      rw [hd]
      exact Option.some_ne_none d
    simp only at h
    split at h
    · cases h
      exact ⟨[c], rfl, by simpa using hc⟩
    · obtain ⟨digits, rfl, hdigits⟩ := ih h
      exact ⟨c :: digits, rfl, List.forall_mem_cons.2 ⟨hc, hdigits⟩⟩

/-- What is decoded has the code points that were there before, and has been written in digits. -/
theorem of_decodeFrom {fuel n i bias : Nat} {first : Bool} {codes out : List Nat} {cs : List Char}
    (h : decodeFrom fuel n i bias first codes cs = some out) :
    (∀ c ∈ cs, digitValue? c ≠ none) ∧ ∀ m ∈ codes, m ∈ out := by
  induction fuel generalizing n i bias first codes cs with
  | zero =>
    cases cs with
    | nil =>
      cases h
      exact ⟨by simp, fun m hm => hm⟩
    | cons c cs => cases h
  | succ fuel ih =>
    cases cs with
    | nil =>
      cases h
      exact ⟨by simp, fun m hm => hm⟩
    | cons c cs =>
      rw [decodeFrom] at h
      · obtain ⟨⟨delta, rest⟩, hread, h⟩ := Option.bind_eq_some_iff.1 h
        obtain ⟨digits, hcut, hdigits⟩ := exists_of_readDistance hread
        simp only at h
        split at h
        · cases h
        · obtain ⟨hrest, hkept⟩ := ih h
          constructor
          · rw [hcut]
            exact fun c hc => (List.mem_append.1 hc).elim (hdigits c) (hrest c)
          · -- the new code point comes between those that are there
            intro m hm
            refine hkept m ?_
            rw [List.mem_append, List.mem_cons]
            rw [← List.take_append_drop ((i + delta) % (codes.length + 1)) codes,
              List.mem_append] at hm
            exact hm.imp_right .inr
      · exact List.cons_ne_nil c cs

/-- A text that is decoded has hyphens, digits, and ASCII code points of what it stands for. -/
theorem of_mem_of_decode? {cs : List Char} {codes : List Nat} (h : decode? cs = some codes)
    {c : Char} (hc : c ∈ cs) : c = '-' ∨ digitValue? c ≠ none ∨ c.toNat ∈ codes := by
  let front := (cs.reverse.dropWhile (· != '-')).reverse
  let tail := (cs.reverse.takeWhile (· != '-')).reverse
  have hcut : front ++ tail = cs := by
    rw [← List.reverse_append, List.takeWhile_append_dropWhile, List.reverse_reverse]
  have htake : cs.take (cs.length - tail.length) = front := by
    have hlength : cs.length - tail.length = front.length := by
      rw [← hcut, List.length_append, Nat.add_sub_cancel]
    rw [hlength, ← hcut, List.take_left]
  obtain ⟨htail, hplain⟩ := of_decodeFrom (show decodeFrom cs.length 0x80 0 72 true
    ((cs.take (cs.length - tail.length)).dropLast.map Char.toNat) tail = some codes from h)
  rw [htake] at hplain
  rw [← hcut] at hc
  rcases List.mem_append.1 hc with hc | hc
  · -- what stands in front ends with a hyphen
    cases hback : cs.reverse.dropWhile (· != '-') with
    | nil =>
      have hempty : front = [] := by simp [front, hback]
      rw [hempty] at hc
      cases hc
    | cons last init =>
      have hhyphen : last = '-' := by
        have hhead := List.head?_dropWhile_not (· != '-') cs.reverse
        rw [hback] at hhead
        simpa using hhead
      have hfront : front = init.reverse ++ [last] := by simp [front, hback]
      rw [hfront, List.dropLast_concat] at hplain
      rw [hfront] at hc
      rcases List.mem_append.1 hc with hc | hc
      · exact .inr (.inr (hplain _ (List.mem_map_of_mem hc)))
      · exact .inl ((List.mem_singleton.1 hc).trans hhyphen)
  · exact .inr (.inl (htail c hc))

end Punycode

/-! ## Labels -/

/-- A label in ASCII that stands for a valid one has characters of names only, if it is in lower
case. -/
theorem isNameChar_of_labelOfAscii? {cs : List Char} {codes : List Nat}
    (h : labelOfAscii? cs = some codes) (hascii : isAscii cs = true)
    (hlower : ∀ c ∈ cs, lowerAsciiChar c = c) : ∀ c ∈ cs, IsNameChar c := by
  have hsame : (lowerAscii (String.ofList cs)).toList = cs := by
    rw [toList_lowerAscii, String.toList_ofList,
      List.map_congr_left hlower, List.map_id']
  have hsmall : ∀ c ∈ cs, c.toNat < 0x80 := by
    simpa [isAscii] using hascii
  -- an ASCII code point of a valid label may stand in names
  have hvalid : ∀ {codes : List Nat}, isValidLabel codes = true → ∀ c ∈ cs, c.toNat ∈ codes →
      isUnreserved c = true := by
    intro codes hcodes c hc hmem
    have hname := isNameChar_of_isValidLabel hcodes hmem (hsmall c hc)
    rw [Char.ofNat_toNat] at hname
    exact hname.1
  intro c hc
  refine ⟨?_, hlower c hc⟩
  unfold labelOfAscii? at h
  simp only [hsame] at h
  split at h
  · rename_i hprefix
    obtain ⟨body, rfl⟩ := List.isPrefixOf_iff_prefix.1 hprefix
    split at h
    · cases h
    · split at h
      · rename_i decoded hdecoded
        split at h
        · rename_i hdecodes
          rcases List.mem_append.1 hc with hc | hbody
          · have hmark : ∀ d ∈ acePrefix, isUnreserved d = true := forall_mem_of_all (by decide)
            exact hmark c hc
          · rcases Punycode.of_mem_of_decode? hdecoded hbody with rfl | hdigit | hmem
            · decide
            · exact Punycode.isUnreserved_of_digitValue? hdigit
            · exact hvalid hdecodes c hc hmem
        · cases h
      · cases h
  · split at h
    · rename_i hcodes
      exact hvalid hcodes c hc (List.mem_map_of_mem hc)
    · cases h

/-- The ASCII form of a label in lower case has characters of names only. -/
theorem isNameChar_of_asciiLabel? {cs label : List Char} (h : asciiLabel? cs = some label)
    (hlower : ∀ c ∈ cs, lowerAsciiChar c = c) : ∀ c ∈ label, IsNameChar c := by
  unfold asciiLabel? at h
  obtain ⟨hlabel, -⟩ := Option.filter_eq_some_iff.1 h
  simp only at hlabel
  split at hlabel
  · rename_i hascii
    obtain ⟨codes, hcodes, rfl⟩ := Option.map_eq_some_iff.1 hlabel
    exact isNameChar_of_labelOfAscii? hcodes hascii hlower
  · split at hlabel
    · rename_i hvalid
      rw [← Option.some.inj hlabel]
      intro c hc
      rcases List.mem_append.1 hc with hc | hc
      · have hmark : ∀ d ∈ acePrefix, IsNameChar d := forall_mem_of_all (by decide)
        exact hmark c hc
      · exact Punycode.isNameChar_of_mem_encode
          (fun n hn hsmall => isNameChar_of_isValidLabel hvalid hn hsmall) c hc
    · cases hlabel

/-- The labels of a name are made of its pieces one by one; only a last one may be empty. -/
theorem of_mem_of_mapLabels? {f : List Char → Option (List Char)} {name : List Char}
    {labels : List (List Char)} (h : mapLabels? f name = some labels) {label : List Char}
    (hlabel : label ∈ labels) :
    label = [] ∨ ∃ piece ∈ splitAtAll isDot name, f piece = some label := by
  have hmapped : ∀ {pieces done : List (List Char)}, pieces.mapM f = some done →
      label ∈ done → ∃ piece ∈ pieces, f piece = some label := by
    intro pieces done hdone hmem
    induction pieces generalizing done with
    | nil =>
      cases hdone
      cases hmem
    | cons piece pieces ih =>
      rw [List.mapM_cons] at hdone
      obtain ⟨first, hfirst, hdone⟩ := Option.bind_eq_some_iff.1 hdone
      obtain ⟨rest, hrest, hdone⟩ := Option.bind_eq_some_iff.1 hdone
      rw [← Option.some.inj hdone] at hmem
      rcases List.mem_cons.1 hmem with rfl | hmem
      · exact ⟨piece, List.mem_cons_self, hfirst⟩
      · obtain ⟨found, hfound, hfrom⟩ := ih hrest hmem
        exact ⟨found, .tail piece hfound, hfrom⟩
  unfold mapLabels? at h
  simp only at h
  split at h
  · cases h
  · obtain ⟨done, hdone, rfl⟩ := Option.map_eq_some_iff.1 h
    have hbody : ∀ piece ∈ (if (splitAtAll isDot name).getLast? == some [] then
        (splitAtAll isDot name).dropLast else splitAtAll isDot name),
        piece ∈ splitAtAll isDot name := by
      intro piece hpiece
      split at hpiece
      · exact List.dropLast_subset _ hpiece
      · exact hpiece
    have hfrom : label ∈ done → ∃ piece ∈ splitAtAll isDot name, f piece = some label := by
      intro hmem
      obtain ⟨piece, hpiece, hf⟩ := hmapped hdone hmem
      exact ⟨piece, hbody piece hpiece, hf⟩
    split at hlabel
    · rcases List.mem_append.1 hlabel with hmem | hmem
      · exact .inr (hfrom hmem)
      · exact .inl (List.mem_singleton.1 hmem)
    · exact .inr (hfrom hlabel)

/-- The ASCII form of a name in lower case has characters of names only. -/
theorem isNameChar_of_mem_toAscii? {name ascii : String} (h : toAscii? (lower name) = some ascii) :
    ∀ c ∈ ascii.toList, IsNameChar c := by
  unfold toAscii? at h
  obtain ⟨labels, hlabels, htext⟩ := Option.bind_eq_some_iff.1 h
  simp only at htext
  generalize (if labels.getLast? = some [] then 254 else 253) = bound at htext
  split at htext
  · cases htext
  · rw [← Option.some.inj htext, String.toList_ofList]
    intro c hc
    rcases mem_intercalate hc with hdot | ⟨label, hlabel, hc⟩
    · -- a full stop between labels
      rw [List.mem_singleton.1 hdot]
      decide
    · rcases of_mem_of_mapLabels? hlabels hlabel with rfl | ⟨piece, hpiece, hform⟩
      · cases hc
      · refine isNameChar_of_asciiLabel? hform (fun d hd => ?_) c hc
        obtain ⟨hin, -⟩ := mem_splitAtAll_iff.1 ⟨piece, hpiece, hd⟩
        rw [lower, String.toList_ofList] at hin
        exact lowerAsciiChar_of_mem_lowerFrom hin

end Domain

end Courier
