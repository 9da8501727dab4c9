import Courier.Proofs.LeftmostReferences
import Courier.Proofs.Substitution
import Courier.Proofs.Trimming

/-!
# Placeholders of a text

Substitution, the list of references and the check of variables all read the leftmost placeholders
of a text (`placeholders_of_text`): what each becomes is decided by the first enabled variable of
its name alone (`Scope.Gives`), and everything else stays.

So a placeholder is resolved wherever it stands, with one exception (`substitute_placeholder`). An
opening brace right in front of it makes the placeholder begin one character earlier, and the brace
is then a part of the name.
-/

namespace Courier

open Text

/-- Whether the first enabled variable of a name has a value. The variables of the environment come
before the global ones. -/
def Scope.Gives (s : Scope) (name value : CodeText) : Prop :=
  ∃ before v after, s.entries = before ++ v :: after ∧ v.enabled = true ∧ v.key = name ∧
    v.value = value ∧ ∀ u ∈ before, u.enabled = true → u.key ≠ name

/-- Looking a name up finds the value of the first enabled variable. -/
theorem Scope.lookup?_eq_some_iff (s : Scope) (name value : CodeText) :
    lookup? s.entries name = some value ↔ s.Gives name value := by
  unfold lookup? Gives
  rw [Option.map_eq_some_iff]
  simp only [List.find?_eq_some_iff_append, Bool.and_eq_true, beq_iff_eq]
  constructor
  · rintro ⟨v, ⟨⟨henabled, hkey⟩, before, after, hentries, hbefore⟩, hvalue⟩
    refine ⟨before, v, after, hentries, henabled, hkey, hvalue, fun u hu hon hname => ?_⟩
    simpa [hon, hname] using hbefore u hu
  · rintro ⟨before, v, after, hentries, henabled, hkey, hvalue, hbefore⟩
    refine ⟨v, ⟨⟨henabled, hkey⟩, before, after, hentries, fun u hu => ?_⟩, hvalue⟩
    by_cases hon : u.enabled = true
    · simpa [hon] using hbefore u hu hon
    · simp [hon]

/-- A placeholder as it is written. -/
def placeholder (raw : CodeText) : CodeText :=
  [.char '\x7b', .char '\x7b'] ++ raw ++ [.char '\x7d', .char '\x7d']

section Text

variable (scope : Scope) (text : CodeText)

/-- What stands in the place of a placeholder after substitution: the value of the first enabled
variable of its name, or the placeholder as it was. -/
def Scope.put (raw : CodeText) : CodeText :=
  match lookup? scope.entries (referenceName raw) with
  | some value => value
  | none => placeholder raw

/-- The text after substitution is the text with something put in the place of each placeholder. -/
theorem substitute_eq_fill :
    substitute scope text = (Cut.ofSegments (segments Marks.doubled text)).fill scope.put := by
  rw [substitute, flatMap_eq_fill fun _ => rfl]
  rfl

/-- The references of a text are named by its placeholders. -/
theorem references_eq_names :
    references text =
      (Cut.ofSegments (segments Marks.doubled text)).names.map referenceName := by
  rw [references, referenceNames_eq_names]

/-- Substitution, references and check read the same placeholders, the leftmost ones of the text that
do not overlap. The references are their names without white space at the ends, in order and with
repetitions. Substitution puts the value of the first enabled variable of the name in the place of
each, as it is, and leaves one without a value and all other characters as they were. The names that
the check finds missing are those of the placeholders that are left, in order, and the check is
passed exactly if none is left. -/
theorem placeholders_of_text :
    ∃ cut : Cut CodePoint, (∀ other, Marks.doubled.IsLeftmost text other ↔ other = cut) ∧
      (∀ name value, Scope.lookup? scope.entries name = some value ↔ scope.Gives name value) ∧
      references text = cut.names.map referenceName ∧
      substitute scope text = cut.fill scope.put ∧
      (checkText scope text).references = references text ∧
      (checkText scope text).missing = (cut.names.filter fun raw =>
        (Scope.lookup? scope.entries (referenceName raw)).isNone).map referenceName ∧
      ((checkText scope text).isValid = true ↔
        ∀ raw ∈ cut.names, ∃ value, scope.Gives (referenceName raw) value) := by
  have hmissing : (checkText scope text).missing =
      ((Cut.ofSegments (segments Marks.doubled text)).names.filter fun raw =>
        (Scope.lookup? scope.entries (referenceName raw)).isNone).map referenceName := by
    show (references text).filter _ = _
    rw [references_eq_names, List.filter_map]
    rfl
  refine ⟨_, isLeftmost_iff _, scope.lookup?_eq_some_iff, references_eq_names text,
    substitute_eq_fill scope text, rfl, hmissing, ?_⟩
  rw [VariableCheck.isValid, hmissing, List.isEmpty_iff, List.map_eq_nil_iff,
    List.filter_eq_nil_iff]
  refine forall₂_congr fun raw _ => ?_
  simp only [← scope.lookup?_eq_some_iff, ← Option.isSome_iff_exists, Bool.not_eq_true,
    Option.isNone_eq_false_iff]

end Text

/-! ## A placeholder among other text -/

section Around

variable {pre front rest : CodeText}

/-- Where no opening mark stands and no brace touches what follows, every character is a piece of its
own. -/
theorem segments_append_of_not_infix (h : ¬ [.char '\x7b', .char '\x7b'] <:+: pre)
    (hlast : pre.getLast? ≠ some (.char '\x7b')) :
    segments Marks.doubled (pre ++ rest) = pre.map .plain ++ segments Marks.doubled rest := by
  refine segments_append ?_
  rintro before within rfl hwithin ⟨name, behind, -, -, hsplit⟩
  obtain ⟨c, within, rfl⟩ := List.exists_cons_of_ne_nil hwithin
  -- the mark would begin with the last character, or stand in the text as a whole
  simp only [Marks.doubled, List.cons_append, List.nil_append, List.cons.injEq] at hsplit
  obtain ⟨rfl, hsplit⟩ := hsplit
  cases within with
  | nil => exact hlast (by simp)
  | cons d within =>
    simp only [List.cons_append, List.cons.injEq] at hsplit
    obtain ⟨rfl, -⟩ := hsplit
    exact h ⟨before, within, by simp⟩

/-- No opening mark stands in front of a brace that begins none. -/
theorem not_infix_of_brace (h : ¬ [.char '\x7b', .char '\x7b'] <:+: front ++ [.char '\x7b']) :
    ¬ [.char '\x7b', .char '\x7b'] <:+: front ∧ front.getLast? ≠ some (.char '\x7b') := by
  refine ⟨fun hfront => h (hfront.trans (List.prefix_append _ _).isInfix), fun hlast => h ?_⟩
  obtain ⟨before, rfl⟩ := List.getLast?_eq_some_iff.1 hlast
  exact ⟨before, [], by simp⟩

/-- A name with an opening brace in front of it is another name. -/
theorem referenceName_cons_ne {raw : CodeText} (hraw : .char '\x7b' ∉ raw) :
    referenceName (.char '\x7b' :: raw) ≠ referenceName raw := by
  intro h
  have hmem : .char '\x7b' ∈ referenceName (.char '\x7b' :: raw) :=
    mem_trimWhile List.mem_cons_self (by decide)
  rw [h] at hmem
  exact hraw (mem_of_mem_trimWhile hmem)

end Around

section Placed

variable {scope : Scope} {text pre name post value raw : CodeText}

/-- What is made of a text whose first placeholder is known. -/
theorem substitute_of_segments (h : segments Marks.doubled text =
      pre.map .plain ++ .reference raw :: segments Marks.doubled post) :
    references text = referenceName raw :: references post ∧
      substitute scope text =
        pre ++ scope.put raw ++ substitute scope post := by
  have hcut : Cut.ofSegments (segments Marks.doubled text) =
      ⟨(pre, raw) :: (Cut.ofSegments (segments Marks.doubled post)).parts,
        (Cut.ofSegments (segments Marks.doubled post)).tail⟩ := by
    rw [h, Cut.ofSegments_append, Cut.ofSegments, Cut.prepend, List.append_nil]
  refine ⟨?_, ?_⟩
  · rw [references_eq_names, hcut, references_eq_names]
    rfl
  · rw [substitute_eq_fill, hcut, substitute_eq_fill]
    simp [Cut.fill]

/-- A text with a placeholder in it. -/
def placed (pre name post : CodeText) : CodeText :=
  pre ++ placeholder name ++ post

/-- Such a text in its parts. -/
theorem placed_eq (pre name post : CodeText) :
    placed pre name post =
      pre ++ (Marks.doubled.opening ++ (name ++ (Marks.doubled.closing ++ post))) := by
  simp [placed, placeholder, Marks.doubled, Marks.closing]

/-- A placeholder with a value is replaced by it, and the rest of the text is substituted as if it
stood alone, exactly unless an opening brace stands right in front of the placeholder. Such a brace
becomes a part of the name. -/
theorem substitute_placeholder (hpre : ¬ [.char '\x7b', .char '\x7b'] <:+: pre) (hname : name ≠ [])
    (hopen : .char '\x7b' ∉ name) (hclose : .char '\x7d' ∉ name)
    (hvalue : scope.Gives (referenceName name) value) :
    (references (placed pre name post) = referenceName name :: references post ∧
        substitute scope (placed pre name post) = pre ++ value ++ substitute scope post ↔
          pre.getLast? ≠ some (.char '\x7b')) ∧
      ∀ front, pre = front ++ "\x7b" →
        references (placed pre name post) =
            referenceName (.char '\x7b' :: name) :: references post ∧
          substitute scope (placed pre name post) =
            front ++ scope.put (.char '\x7b' :: name) ++ substitute scope post := by
  have hput : scope.put name = value := by
    rw [Scope.put, (scope.lookup?_eq_some_iff _ _).2 hvalue]
  have hfree : pre.getLast? ≠ some (.char '\x7b') →
      references (placed pre name post) = referenceName name :: references post ∧
        substitute scope (placed pre name post) = pre ++ value ++ substitute scope post := by
    intro hlast
    have hfound : reference? Marks.doubled (Marks.doubled.opening ++
        (name ++ (Marks.doubled.closing ++ post))) = some (name, post) :=
      reference?_eq_some_iff.2 ⟨hname, hclose, rfl⟩
    rw [← hput]
    refine substitute_of_segments ?_
    rw [placed_eq, segments_append_of_not_infix hpre hlast, segments_of_reference hfound]
  have htouched : ∀ front, pre = front ++ "\x7b" →
      references (placed pre name post) =
          referenceName (.char '\x7b' :: name) :: references post ∧
        substitute scope (placed pre name post) =
          front ++ scope.put (.char '\x7b' :: name) ++ substitute scope post := by
    rintro front rfl
    obtain ⟨hfront, hlast⟩ := not_infix_of_brace hpre
    -- the mark is found one character earlier
    have hfound : reference? Marks.doubled (Marks.doubled.opening ++
        ((.char '\x7b' :: name) ++ (Marks.doubled.closing ++ post))) =
          some (.char '\x7b' :: name, post) :=
      reference?_eq_some_iff.2 ⟨by simp, by simpa [Marks.doubled] using hclose, rfl⟩
    refine substitute_of_segments ?_
    rw [← segments_of_reference hfound, ← segments_append_of_not_infix hfront hlast, placed_eq]
    simp [Marks.doubled, CodeText.ofString]
  refine ⟨⟨?_, hfree⟩, htouched⟩
  rintro ⟨hreferences, -⟩ hlast
  obtain ⟨front, hsplit⟩ := List.getLast?_eq_some_iff.1 hlast
  rw [(htouched front hsplit).1] at hreferences
  exact referenceName_cons_ne hopen (List.cons.inj hreferences).1

end Placed

/-- One global variable. -/
def keyScope : Scope := ⟨none, [⟨"1", "key", "id", true⟩]⟩

/-- The variable has its value. -/
theorem keyScope_gives : keyScope.Gives "key" "id" :=
  (keyScope.lookup?_eq_some_iff _ _).1 rfl

/-- `substitute_placeholder` at an object whose key is a placeholder in quotes. -/
theorem substitute_placeholder_quoted :
    ¬ [.char '\x7b', .char '\x7b'] <:+: CodeText.ofString "\x7b\"" ∧
      CodeText.ofString " key " ≠ [] ∧ .char '\x7b' ∉ CodeText.ofString " key " ∧
      .char '\x7d' ∉ CodeText.ofString " key " ∧ keyScope.Gives (referenceName " key ") "id" ∧
      references (placed "\x7b\"" " key " "\": 1\x7d") = ["key"] ∧
      substitute keyScope (placed "\x7b\"" " key " "\": 1\x7d") = "\x7b\"id\": 1\x7d" := by
  have hpre : ¬ [.char '\x7b', .char '\x7b'] <:+: CodeText.ofString "\x7b\"" := by decide
  have hname : CodeText.ofString " key " ≠ [] := by decide
  have hopen : .char '\x7b' ∉ CodeText.ofString " key " := by decide
  have hclose : .char '\x7d' ∉ CodeText.ofString " key " := by decide
  obtain ⟨hiff, -⟩ := @substitute_placeholder keyScope "\x7b\"" " key " "\": 1\x7d" "id" hpre
    hname hopen hclose keyScope_gives
  obtain ⟨hreferences, hsubstitute⟩ := hiff.2 (by decide)
  refine ⟨hpre, hname, hopen, hclose, keyScope_gives, ?_, ?_⟩
  · rw [hreferences]
    decide +kernel
  · rw [hsubstitute]
    decide +kernel

/-- Without the quotes the placeholder is not replaced: the brace of the object is taken for a part
of its name, which no variable has. -/
theorem substitute_placeholder_touched :
    ¬ [.char '\x7b', .char '\x7b'] <:+: CodeText.ofString "\x7b" ∧
      .char '\x7b' ∉ CodeText.ofString "key" ∧ .char '\x7d' ∉ CodeText.ofString "key" ∧
      keyScope.Gives (referenceName "key") "id" ∧
      substitute keyScope (placed "\x7b" "key" "") = "\x7b\x7b\x7bkey\x7d\x7d" ∧
      substitute keyScope (placed "\x7b" "key" "") ≠ "\x7b" ++ "id" ++ substitute keyScope "" ∧
      references (placed "\x7b" "key" "") = ["\x7bkey"] ∧
      references (placed "\x7b" "key" "") ≠ CodeText.ofString "key" :: references "" :=
  ⟨by decide, by decide, by decide, keyScope_gives, by decide +kernel, by decide +kernel,
    by decide +kernel, by decide +kernel⟩

end Courier
