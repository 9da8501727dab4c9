import Courier.Proofs.CodeSet
import Courier.Proofs.Percent
import Courier.Url.Parse
import Mathlib.Tactic.Tauto

/-!
# Hosts in URLs

A host that is encoded is not empty unless it was (`encodeHost_ne_empty`), whichever of its forms it
has: an address is kept, escaping drops nothing, and an internationalised name has labels that are
not empty. In the text of a URL a host stands in brackets if it has colons
(`toList_bracketedHost_of_mem`), and otherwise as it is.
-/

namespace Courier

open Text

namespace Text

/-- Escaping drops nothing. -/
theorem percentQuote_eq_nil_iff {safe : Char → Bool} (hp : safe '%' = true) (cs : List Char) :
    percentQuote safe cs = [] ↔ cs = [] := by
  rw [percentQuote_eq_flatMap hp, List.flatMap_eq_nil_iff]
  constructor
  · intro h
    cases cs with
    | nil => rfl
    | cons c cs =>
      have hc := h c List.mem_cons_self
      unfold percentUnless at hc
      split at hc
      · cases hc
      · obtain ⟨b, rest, hcode⟩ := List.exists_cons_of_ne_nil (Utf8.encodeCode_ne_nil c.toNat)
        rw [percentChar, hcode] at hc
        cases hc
  · rintro rfl c hc
    cases hc

end Text

namespace Domain

/-- A label in its ASCII form is not empty. -/
theorem asciiLabel?_ne_nil {cs label : List Char} (h : asciiLabel? cs = some label) :
    label ≠ [] := by
  unfold asciiLabel? at h
  obtain ⟨hlabel, -⟩ := Option.filter_eq_some_iff.1 h
  simp only at hlabel
  split at hlabel
  · obtain ⟨codes, hcodes, rfl⟩ := Option.map_eq_some_iff.1 hlabel
    rintro rfl
    have hnone : labelOfAscii? [] = none := rfl
    rw [hnone] at hcodes
    cases hcodes
  · split at hlabel
    · rw [← Option.some.inj hlabel]
      simp [acePrefix]
    · cases hlabel

/-- A list of labels begins with one that is the form of some text. -/
theorem exists_of_mapLabels?_eq_some {f : List Char → Option (List Char)} {name : List Char}
    {labels : List (List Char)} (h : mapLabels? f name = some labels) :
    ∃ cs label rest, f cs = some label ∧ labels = label :: rest := by
  unfold mapLabels? at h
  simp only at h
  split at h
  · cases h
  · rename_i hname
    obtain ⟨done, hdone, rfl⟩ := Option.map_eq_some_iff.1 h
    have hparts : splitAtAll isDot name ≠ [] := by
      rw [splitAtAll_eq_splitOnP]
      exact List.splitOnP_ne_nil _ _
    generalize splitAtAll isDot name = parts at hname hdone hparts
    -- a name is more than a final dot, so that there is a label in front
    have hbody : (if (parts.getLast? == some []) = true then parts.dropLast else parts) ≠ [] := by
      split
      · rename_i hfinal
        match parts, hparts with
        | [c], _ =>
          obtain rfl : c = [] := by simpa using hfinal
          exact absurd (.inr rfl) hname
        | c :: d :: rest, _ => simp
      · exact hparts
    obtain ⟨cs, body, hcons⟩ := List.exists_cons_of_ne_nil hbody
    rw [hcons, List.mapM_cons] at hdone
    obtain ⟨label, hlabel, hrest⟩ := Option.bind_eq_some_iff.1 hdone
    obtain ⟨rest, -, hall⟩ := Option.bind_eq_some_iff.1 hrest
    obtain rfl := Option.some.inj hall
    split
    · exact ⟨cs, label, rest ++ [[]], hlabel, rfl⟩
    · exact ⟨cs, label, rest, hlabel, rfl⟩

/-- An internationalised name in its ASCII form is not empty. -/
theorem toAscii?_ne_empty {name ascii : String} (h : toAscii? name = some ascii) : ascii ≠ "" := by
  unfold toAscii? at h
  obtain ⟨labels, hlabels, htext⟩ := Option.bind_eq_some_iff.1 h
  obtain ⟨cs, label, rest, hlabel, rfl⟩ := exists_of_mapLabels?_eq_some hlabels
  simp only at htext
  generalize (if (label :: rest).getLast? = some [] then 254 else 253) = bound at htext
  split at htext
  · cases htext
  · rw [← Option.some.inj htext, ne_eq, String.ofList_eq_empty_iff]
    intro hempty
    obtain ⟨c, cs', hcons⟩ := List.exists_cons_of_ne_nil (asciiLabel?_ne_nil hlabel)
    rw [hcons] at hempty
    cases rest with
    | nil => simp [List.intercalate] at hempty
    | cons d rest => simp [List.intercalate, List.intersperse] at hempty

end Domain

namespace Url

/-! ## Brackets -/

section Brackets

variable {u : Url}

/-- A host with colons stands in brackets. -/
theorem toList_bracketedHost_of_mem (h : ':' ∈ u.host.toList) :
    u.bracketedHost.toList = '[' :: u.host.toList ++ [']'] := by
  unfold bracketedHost
  rw [if_pos (List.contains_iff_mem.2 h), String.toList_append, String.toList_append]
  rfl

/-- Another host stands as it is. -/
theorem bracketedHost_of_notMem (h : ':' ∉ u.host.toList) : u.bracketedHost = u.host := by
  unfold bracketedHost
  exact if_neg (mt List.contains_iff_mem.1 h)

/-- The characters of a host as it stands are brackets or its own. -/
theorem of_mem_bracketedHost {c : Char} (h : c ∈ u.bracketedHost.toList) :
    c ∈ ['[', ']'] ∨ c ∈ u.host.toList := by
  by_cases hcolon : ':' ∈ u.host.toList
  · rw [toList_bracketedHost_of_mem hcolon] at h
    simp only [List.cons_append, List.mem_cons, List.mem_append, List.not_mem_nil,
      or_false] at h ⊢
    tauto
  · rw [bracketedHost_of_notMem hcolon] at h
    exact .inr h

end Brackets

/-! ## Encoding -/

/-- A host that is encoded is not empty unless it was. -/
theorem encodeHost_ne_empty {host encoded : String} (h : encodeHost host = .ok encoded)
    (hhost : host ≠ "") : encoded ≠ "" := by
  have hne : host.toList ≠ [] := by
    rw [ne_eq, String.toList_eq_nil_iff]
    exact hhost
  unfold encodeHost at h
  simp only [List.isEmpty_iff, hne, if_false] at h
  split at h
  · -- an address
    split at h
    · cases h
      exact hhost
    · cases h
  · split at h
    · split at h
      · rename_i hinside
        cases h
        rw [ne_eq, String.ofList_eq_empty_iff]
        intro hempty
        have hnone : isIpv6 [] = false := rfl
        rw [hempty, hnone] at hinside
        cases hinside
      · cases h
    · split at h
      · -- a name in ASCII
        rw [← Except.ok.inj h, ne_eq, String.ofList_eq_empty_iff,
          percentQuote_eq_nil_iff (by decide)]
        simp [lowerAscii, hne]
      · split at h
        · rename_i name hname
          cases h
          exact Domain.toAscii?_ne_empty hname
        · cases h

end Url

end Courier
