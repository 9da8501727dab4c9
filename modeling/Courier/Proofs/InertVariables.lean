import Courier.Proofs.InertParts
import Courier.Proofs.Placeholders
import Courier.Proofs.VariableCheck
import Mathlib.Data.List.Basic

/-!
# Inert variables

Variables that are switched off resolve nothing. Variables without a name resolve the placeholders
whose name is blank, because looking a name up tests whether a variable is switched on, and not
whether it is active (`Scope.lookup?_active`). Where there is no such placeholder, or no such
variable, the inert variables can be left out (`inert_variables`).

For the text after substitution this is almost the only way: it stays the same exactly if the
variable without a name has every blank placeholder itself for a value. The placeholders need not be
compared one by one for that. Values are not told apart from the text around them, so the lemma
behind it is about the whole text: it has as many closing braces as before, and the last one stands
where it stood (`eq_placeholder_of_flatMap_eq`).
-/

namespace Courier

open Text

/-- The scope without inert variables, those that are switched off or have no name. -/
def Scope.active (s : Scope) : Scope :=
  ⟨s.environment.map fun e => { e with entries := e.entries.filter Entry.isActive },
    s.globals.filter Entry.isActive⟩

namespace Scope

variable (s : Scope)

/-- The active variables stay in order. -/
theorem entries_active : s.active.entries = s.entries.filter Entry.isActive := by
  unfold entries active
  rw [List.filter_append]
  cases s.environment <;> rfl

/-- Without inert variables a name has the same value, except for the empty one, which has none. -/
theorem lookup?_active (name : CodeText) :
    lookup? s.active.entries name = if name = [] then none else lookup? s.entries name := by
  unfold lookup?
  rw [entries_active, List.find?_filter]
  by_cases hname : name = []
  · rw [if_pos hname, Option.map_eq_none_iff, List.find?_eq_none]
    intro v _
    rw [decide_eq_true_eq, hname, Entry.isActive]
    simp +contextual
  · have hsame :
        (fun v : Entry => decide (v.isActive = true ∧ (v.enabled && v.key == name) = true)) =
          fun v => v.enabled && v.key == name := by
      funext v
      by_cases hkey : v.key = name
      · simp [Entry.isActive, hkey, hname]
      · simp [hkey]
    rw [hsame, if_neg hname]

/-- What is put in the place of a placeholder without inert variables. -/
theorem put_active (raw : CodeText) :
    s.active.put raw = if referenceName raw = [] then placeholder raw else s.put raw := by
  unfold put
  rw [lookup?_active]
  by_cases hempty : referenceName raw = []
  · rw [if_pos hempty, if_pos hempty]
  · rw [if_neg hempty, if_neg hempty]

end Scope

/-! ## The check -/

/-- A check does not change exactly if the empty name is not checked or has no value. -/
theorem checkReferences_active_iff (s : Scope) (names : List CodeText) :
    checkReferences s.active names = checkReferences s names ↔
      ([] ∈ names → Scope.lookup? s.entries [] = none) := by
  unfold checkReferences
  rw [VariableCheck.mk.injEq, and_iff_right rfl]
  constructor
  · intro h hmem
    have hmissing : [] ∈ names.filter fun n => (Scope.lookup? s.active.entries n).isNone :=
      List.mem_filter.2 ⟨hmem, by rw [s.lookup?_active, if_pos rfl]; rfl⟩
    rw [h] at hmissing
    exact Option.isNone_iff_eq_none.1 (List.mem_filter.1 hmissing).2
  · intro h
    refine List.filter_congr fun n hn => ?_
    rw [s.lookup?_active]
    by_cases hempty : n = []
    · rw [if_pos hempty, hempty, h (hempty ▸ hn)]
    · rw [if_neg hempty]

/-! ## Texts after substitution -/

section Blank

variable {raw : CodeText}

/-- The characters of a blank name are blank. -/
theorem isBlankChar_of_mem (h : referenceName raw = []) {c : CodePoint} (hc : c ∈ raw) :
    c.satisfies isBlankChar = true := by
  by_contra hblank
  have hkept := mem_trimWhile hc (Bool.eq_false_iff.2 hblank)
  change c ∈ referenceName raw at hkept
  rw [h] at hkept
  cases hkept

/-- A blank placeholder has two closing braces. -/
theorem count_placeholder (h : referenceName raw = []) :
    (placeholder raw).count (.char '\x7d') = 2 := by
  have hraw : raw.count (.char '\x7d') = 0 := by
    refine List.count_eq_zero.2 fun hmem => ?_
    have hblank := isBlankChar_of_mem h hmem
    revert hblank
    decide
  simp [placeholder, hraw]

/-- A placeholder ends with a closing brace. -/
theorem getLast?_placeholder (raw : CodeText) : (placeholder raw).getLast? = some (.char '\x7d') :=
  List.getLast?_eq_some_iff.2
    ⟨[.char '\x7b', .char '\x7b'] ++ raw ++ [.char '\x7d'], by simp [placeholder]⟩

/-- Nothing goes on behind as many closing braces as there are, if one of them is the last. -/
theorem eq_nil_of_count_eq {front more : CodeText}
    (hlast : (front ++ more).getLast? = some (.char '\x7d'))
    (hcount : (front ++ more).count (.char '\x7d') = front.count (.char '\x7d')) : more = [] := by
  by_contra hmore
  rw [List.getLast?_append_of_ne_nil _ hmore] at hlast
  have hmem := List.count_pos_iff.2 (List.mem_of_getLast? hlast)
  rw [List.count_append] at hcount
  omega

/-- Two texts that begin what is the same are the same if both end with a closing brace and have as
many of them. -/
theorem eq_of_append_eq_append {a b more more' : CodeText} (h : a ++ more = b ++ more')
    (ha : a.getLast? = some (.char '\x7d')) (hb : b.getLast? = some (.char '\x7d'))
    (hcount : a.count (.char '\x7d') = b.count (.char '\x7d')) : a = b := by
  obtain ⟨rest, rfl, -⟩ | ⟨rest, rfl, -⟩ := List.append_eq_append_iff.1 h
  · rw [eq_nil_of_count_eq hb hcount.symm, List.append_nil]
  · rw [eq_nil_of_count_eq ha hcount, List.append_nil]

end Blank

section Comparison

variable {put put' : CodeText → CodeText} {v : CodeText}
  (hblank : ∀ raw, referenceName raw = [] → put raw = v)
  (hkept : ∀ raw, referenceName raw = [] → put' raw = placeholder raw)
  (hother : ∀ raw, referenceName raw ≠ [] → put' raw = put raw)

include hblank hkept hother

/-- A text with a value in the place of blank placeholders, and the text with these left, differ in
the number of closing braces by those of what stands there. -/
theorem count_flatMap_add (parts : List (CodeText × CodeText)) :
    (parts.flatMap fun p => p.1 ++ put p.2).count (.char '\x7d') +
        2 * parts.countP (fun p => referenceName p.2 = []) =
      (parts.flatMap fun p => p.1 ++ put' p.2).count (.char '\x7d') +
        v.count (.char '\x7d') * parts.countP (fun p => referenceName p.2 = []) := by
  induction parts with
  | nil => rfl
  | cons p parts ih =>
    simp only [List.flatMap_cons, List.count_append]
    by_cases h : referenceName p.2 = []
    · rw [List.countP_cons_of_pos (by simpa using h), hblank _ h, hkept _ h, count_placeholder h,
        Nat.mul_add, Nat.mul_add]
      omega
    · rw [List.countP_cons_of_neg (by simpa using h), hother _ h]
      omega

/-- If the two are the same, the last blank placeholder and the value in its place end together. -/
theorem getLast?_of_flatMap_eq {parts : List (CodeText × CodeText)}
    (h : parts.flatMap (fun p => p.1 ++ put' p.2) = parts.flatMap fun p => p.1 ++ put p.2)
    (hsome : ∃ p ∈ parts, referenceName p.2 = []) (hv : v ≠ []) :
    v.getLast? = some (.char '\x7d') := by
  induction parts using List.reverseRecOn with
  | nil =>
    obtain ⟨p, hp, -⟩ := hsome
    cases hp
  | append_singleton parts p ih =>
    simp only [List.flatMap_append, List.flatMap_singleton] at h
    by_cases hp : referenceName p.2 = []
    · rw [hblank _ hp, hkept _ hp, ← List.append_assoc, ← List.append_assoc] at h
      have hlast := congrArg List.getLast? h
      rw [List.getLast?_append_of_ne_nil _ hv,
        List.getLast?_append_of_ne_nil _ (by simp [placeholder]), getLast?_placeholder] at hlast
      exact hlast.symm
    · rw [hother _ hp, List.append_cancel_right_eq] at h
      refine ih h ?_
      obtain ⟨q, hq, hempty⟩ := hsome
      obtain hq | hq := List.mem_append.1 hq
      · exact ⟨q, hq, hempty⟩
      · rw [List.mem_singleton.1 hq] at hempty
        exact (hp hempty).elim

/-- If the two are the same, every blank placeholder is the value in its place. The value has as many
closing braces as a blank placeholder, and both end with one; so of the first value and the first
placeholder, which begin at the same place, neither goes on behind the other. -/
theorem eq_placeholder_of_flatMap_eq {parts : List (CodeText × CodeText)}
    (h : parts.flatMap (fun p => p.1 ++ put' p.2) = parts.flatMap fun p => p.1 ++ put p.2) :
    ∀ p ∈ parts, referenceName p.2 = [] → v = placeholder p.2 := by
  induction parts with
  | nil => nofun
  | cons p parts ih =>
    have hcount := count_flatMap_add hblank hkept hother (p :: parts)
    have hlast := getLast?_of_flatMap_eq hblank hkept hother h
    rw [h, Nat.add_right_inj] at hcount
    simp only [List.flatMap_cons, List.append_assoc, List.append_cancel_left_eq] at h
    by_cases hp : referenceName p.2 = []
    · rw [List.countP_cons_of_pos (by simpa using hp)] at hcount
      have htwo : v.count (.char '\x7d') = 2 :=
        (Nat.eq_of_mul_eq_mul_right (Nat.succ_pos _) hcount).symm
      have hne : v ≠ [] := by
        rintro rfl
        cases htwo
      have hend := hlast ⟨p, List.mem_cons_self, hp⟩ hne
      rw [hblank _ hp, hkept _ hp] at h
      have heq : v = placeholder p.2 := eq_of_append_eq_append h.symm hend
        (getLast?_placeholder p.2) (by rw [htwo, count_placeholder hp])
      rw [← heq, List.append_cancel_left_eq] at h
      exact List.forall_mem_cons.2 ⟨fun _ => heq, ih h⟩
    · rw [hother _ hp, List.append_cancel_left_eq] at h
      exact List.forall_mem_cons.2 ⟨fun hempty => (hp hempty).elim, ih h⟩

end Comparison

/-! ## Requests -/

/-- A request is the same after substitution by two scopes exactly if each of its texts is. -/
theorem Request.substitute_eq_iff (s t : Scope) (r : Request) :
    r.substitute s = r.substitute t ↔
      ∀ text ∈ r.substitutedTexts, Courier.substitute s text = Courier.substitute t text := by
  constructor
  · intro h
    have htexts := congrArg Request.substitutedTexts h
    rw [substitutedTexts_substitute, substitutedTexts_substitute] at htexts
    exact List.map_inj_left.1 htexts
  · intro h
    have hentry : ∀ e ∈ r.headers ++ r.params, substituteEntry s e = substituteEntry t e := by
      intro e he
      have hboth : ∀ text ∈ [e.key, e.value],
          Courier.substitute s text = Courier.substitute t text := fun text htext =>
        h text (by
          simp only [substitutedTexts, List.mem_append, List.mem_flatMap]
          exact .inl (.inl (.inr ⟨e, List.mem_append.1 he, htext⟩)))
      rw [substituteEntry, substituteEntry, hboth _ (by simp), hboth _ (by simp)]
    have hfields : ∀ fields ∈ r.body.formData,
        fields.map (substituteField s) = fields.map (substituteField t) := by
      intro fields hfields
      refine List.map_congr_left fun e he => ?_
      have hvalue : e.value ∈ r.substitutedTexts := by
        rw [Option.mem_def] at hfields
        rw [substitutedTexts, hfields]
        exact List.mem_append_right _ (List.mem_map_of_mem he)
      rw [substituteField, substituteField, h _ hvalue]
    have hcontent : ∀ text ∈ r.body.content,
        Courier.substitute s text = Courier.substitute t text := fun text htext =>
      h text (by simp [substitutedTexts, Option.mem_def.1 htext])
    rw [substitute, substitute, h r.url (by simp [substitutedTexts]),
      List.map_congr_left fun e he => hentry e (List.mem_append_left _ he),
      List.map_congr_left fun e he => hentry e (List.mem_append_right _ he),
      Option.map_congr hfields, Option.map_congr hcontent]

section Inert

variable (s : Scope)

/-- Whether blank placeholders are left in a text as if they were not resolved: what would be put in
the place of each is the placeholder itself. -/
def Scope.LeavesBlank (s : Scope) (text : CodeText) : Prop :=
  ∀ cut, Marks.doubled.IsLeftmost text cut → ∀ raw ∈ cut.names, referenceName raw = [] →
    ∀ value, s.Gives [] value → value = placeholder raw

/-- A text after substitution does not change exactly if its blank placeholders are left. -/
theorem substitute_active_iff (text : CodeText) :
    substitute s.active text = substitute s text ↔ s.LeavesBlank text := by
  rw [substitute_eq_fill, substitute_eq_fill]
  simp only [Scope.LeavesBlank, isLeftmost_iff, forall_eq]
  constructor
  · simp only [Cut.fill, List.append_cancel_right_eq, Cut.names, List.forall_mem_map]
    intro h p hp hempty value hvalue
    have hlookup := (s.lookup?_eq_some_iff [] value).2 hvalue
    refine eq_placeholder_of_flatMap_eq (fun raw hraw => ?_) (fun raw hraw => ?_)
      (fun raw hraw => ?_) h p hp hempty
    · rw [Scope.put, hraw, hlookup]
    · rw [s.put_active, if_pos hraw]
    · rw [s.put_active, if_neg hraw]
  · intro h
    refine Cut.fill_congr fun raw hraw => ?_
    rw [s.put_active]
    by_cases hempty : referenceName raw = []
    · rw [if_pos hempty, Scope.put, hempty]
      cases hlookup : Scope.lookup? s.entries [] with
      | none => rfl
      | some value => exact (h raw hraw hempty value ((s.lookup?_eq_some_iff _ _).1 hlookup)).symm
    · rw [if_neg hempty]

/-- The variables that are inert make no difference to the check of a text or of a request exactly
if the empty name is not referred to or has no value, and none to the text or the request after
substitution exactly if the blank placeholders are left as they are. Variables that are switched off
therefore never make a difference. -/
theorem inert_variables (text : CodeText) (r : Request) :
    (checkText s.active text = checkText s text ↔
        ([] ∈ references text → ∀ value, ¬ s.Gives [] value)) ∧
      (substitute s.active text = substitute s text ↔ s.LeavesBlank text) ∧
      (r.checkVariables s.active = r.checkVariables s ↔
        ([] ∈ r.references → ∀ value, ¬ s.Gives [] value)) ∧
      (r.substitute s.active = r.substitute s ↔ ∀ t ∈ r.substitutedTexts, s.LeavesBlank t) := by
  have hnone : Scope.lookup? s.entries [] = none ↔ ∀ value, ¬ s.Gives [] value := by
    simp only [Option.eq_none_iff_forall_not_mem, Option.mem_def, s.lookup?_eq_some_iff]
  refine ⟨?_, substitute_active_iff s text, ?_, ?_⟩
  · rw [checkText, checkText, checkReferences_active_iff, hnone]
  · rw [Request.checkVariables, Request.checkVariables, checkReferences_active_iff, hnone]
  · rw [Request.substitute_eq_iff]
    exact forall₂_congr fun t _ => substitute_active_iff s t

end Inert

/-- One global variable that has no name. -/
def namelessScope : Scope := ⟨none, [⟨"1", "", "x", true⟩]⟩

/-- A blank placeholder is replaced by the value of a variable without a name, and found missing
without that variable. -/
theorem nameless_variable_resolves :
    namelessScope.active.globals = [] ∧
      substitute namelessScope "\x7b\x7b \x7d\x7d" = "x" ∧
      substitute namelessScope.active "\x7b\x7b \x7d\x7d" = "\x7b\x7b \x7d\x7d" ∧
      (checkText namelessScope "\x7b\x7b \x7d\x7d").missing = [] ∧
      (checkText namelessScope.active "\x7b\x7b \x7d\x7d").missing = [""] ∧
      (checkText namelessScope "\x7b\x7b \x7d\x7d").isValid = true ∧
      (checkText namelessScope.active "\x7b\x7b \x7d\x7d").isValid = false :=
  ⟨by decide, by decide +kernel, by decide +kernel, by decide +kernel, by decide +kernel,
    by decide +kernel, by decide +kernel⟩

end Courier
