import Courier.Proofs.ModelSpellings
import Courier.Proofs.ProcessReferences

/-!
# Entries that are ignored

Readers of requests look at the fields of records, and at nothing else in them. What a reader looks
at in a value is its essence, for a layout: the value without the entries that no field is read
from, at every level. Reading the essence is reading the value (`Request.ignores`). Taking it does
not get in the way of references to the process environment: texts are replaced in it as in the
value (`Layout.essence_mapTexts`), and the texts that are missing from it are those of the entries
left out (`Layout.flatMap_texts_essence`).
-/

namespace Courier.Schema

/-- Whether a field of a record is read from the entry of a name. -/
def FieldName.reads (f : FieldName) (es : List (Data × Data)) (name : Data) : Bool :=
  (f.find? es).any fun found => (Data.text found.1).same name

mutual

/-- A value without the entries of records that no field is read from. -/
def Layout.essence : Layout → Data → Data
  | .items l, .list xs => .list (xs.map l.essence)
  | .record fields, .map es => .map (es.filterMap (entryEssence? fields es))
  | _, v => v

/-- An entry of a record, if a field is read from it, with the essence of its value. -/
def entryEssence? : List (FieldName × Layout) → List (Data × Data) → Data × Data →
    Option (Data × Data)
  | [], _, _ => none
  | (f, l) :: rest, es, e =>
    if f.reads es e.1 then some (e.1, l.essence e.2) else entryEssence? rest es e

end

/-- The entries of a record that fields are read from, with the essence of their values. -/
def essentialEntries (fields : List (FieldName × Layout)) (es : List (Data × Data)) :
    List (Data × Data) :=
  es.filterMap (entryEssence? fields es)

mutual

/-- The values of the entries that are left out of the essence, in the order of the document. -/
def Layout.ignored : Layout → Data → List Data
  | .items l, .list xs => xs.flatMap l.ignored
  | .record fields, .map es => es.flatMap (ignoredInEntry fields es)
  | _, _ => []

/-- The value of an entry that no field is read from, or else what is left out of its essence. -/
def ignoredInEntry : List (FieldName × Layout) → List (Data × Data) → Data × Data → List Data
  | [], _, e => [e.2]
  | (f, l) :: rest, es, e =>
    if f.reads es e.1 then l.ignored e.2 else ignoredInEntry rest es e

end

/-! ## Fields of the essence -/

section Essence

variable {fields : List (FieldName × Layout)} {f : FieldName} {l : Layout}
  {es : List (Data × Data)} {e e' : Data × Data}

/-- A field is read from the entry with the name under which it is found. -/
theorem FieldName.reads_iff (f : FieldName) (es : List (Data × Data)) (name : Data) :
    f.reads es name = true ↔ ∃ s v, f.find? es = some (s, v) ∧ name = .text s := by
  unfold reads
  cases f.find? es with
  | none => simp
  | some found => simp [same_text_iff, Prod.ext_iff]

/-- A field is read from an entry only under one of its spellings. -/
theorem FieldName.isSpelledBy_of_reads {name : Data} (h : f.reads es name = true) :
    f.isSpelledBy name = true := by
  obtain ⟨s, v, hfind, rfl⟩ := (f.reads_iff es name).1 h
  exact isSpelledBy_of_find? hfind

/-- The essence keeps the entry that a field is read from. -/
theorem entryEssence?_of_reads (hapart : AreApart fields) (hf : (f, l) ∈ fields)
    (h : f.reads es e.1 = true) :
    entryEssence? fields es e = some (e.1, l.essence e.2) := by
  induction fields with
  | nil => cases hf
  | cons first rest ih =>
    obtain ⟨g, m⟩ := first
    unfold entryEssence?
    split
    · rename_i hg
      cases hapart.eq_of_isSpelledBy hf List.mem_cons_self (FieldName.isSpelledBy_of_reads h)
        (FieldName.isSpelledBy_of_reads hg)
      rfl
    · rename_i hg
      rcases List.mem_cons.1 hf with heq | hmem
      · cases heq
        exact (hg h).elim
      · exact ih hapart.of_cons hmem

/-- Entries of the essence keep their names. -/
theorem fst_of_entryEssence? (h : entryEssence? fields es e = some e') : e'.1 = e.1 := by
  induction fields with
  | nil => cases h
  | cons first rest ih =>
    unfold entryEssence? at h
    split at h
    · cases h
      rfl
    · exact ih h

/-- The value under a name is the first of an entry with it. -/
theorem lookup?_cons_of_ne {name : Data} {s : String} (h : name ≠ .text s) (v : Data)
    (rest : List (Data × Data)) :
    Data.lookup? ((name, v) :: rest) (.text s) = Data.lookup? rest (.text s) := by
  have hother : (Data.text s).same name = false := by
    rw [Bool.eq_false_iff, ne_eq, same_text_iff]
    exact h
  rw [Data.lookup?, List.find?_cons, hother]
  rfl

/-- The value of a name that the essence keeps is found in the essence. -/
theorem lookup?_essentialEntries {s : String}
    (hkept : ∀ e ∈ es, e.1 = .text s → entryEssence? fields es e = some (e.1, l.essence e.2)) :
    Data.lookup? (essentialEntries fields es) (.text s) =
      (Data.lookup? es (.text s)).map l.essence := by
  have hrest : ∀ rest ⊆ es, Data.lookup? (rest.filterMap (entryEssence? fields es)) (.text s) =
      (Data.lookup? rest (.text s)).map l.essence := by
    intro rest hsub
    induction rest with
    | nil => rfl
    | cons e rest ih =>
      obtain ⟨name, v⟩ := e
      obtain ⟨hmem, hrest⟩ := List.cons_subset.1 hsub
      by_cases hname : name = .text s
      · subst hname
        rw [List.filterMap_cons_some (hkept _ hmem rfl), lookup?_cons_text, lookup?_cons_text,
          if_pos rfl, if_pos rfl, Option.map_some]
      · rw [lookup?_cons_of_ne hname, ← ih hrest]
        cases hentry : entryEssence? fields es (name, v) with
        | none => rw [List.filterMap_cons_none hentry]
        | some e' =>
          have hkey := fst_of_entryEssence? hentry
          rw [List.filterMap_cons_some hentry]
          exact lookup?_cons_of_ne (by rwa [hkey]) e'.2 _
  exact hrest es (List.Subset.refl es)

/-- A field is found in the essence where it is found in the record, with the essence of its
value. -/
theorem find?_essentialEntries (hapart : AreApart fields) (hf : (f, l) ∈ fields)
    (es : List (Data × Data)) :
    f.find? (essentialEntries fields es) =
      (f.find? es).map fun found => (found.1, l.essence found.2) := by
  have hnone : ∀ s, Data.lookup? es (.text s) = none →
      Data.lookup? (essentialEntries fields es) (.text s) = none := by
    intro s hs
    have hothers : ∀ e ∈ es, e.1 ≠ .text s := by
      rw [Data.lookup?, Option.map_eq_none_iff, List.find?_eq_none] at hs
      exact fun e he hname => hs e he ((same_text_iff s e.1).2 hname)
    rw [lookup?_essentialEntries (l := l) fun e he hname => (hothers e he hname).elim, hs]
    rfl
  have hread : ∀ s v, f.find? es = some (s, v) →
      Data.lookup? (essentialEntries fields es) (.text s) =
        (Data.lookup? es (.text s)).map l.essence := by
    intro s v hfind
    refine lookup?_essentialEntries fun e he hname => entryEssence?_of_reads hapart hf ?_
    exact (f.reads_iff es e.1).2 ⟨s, v, hfind, hname⟩
  -- the spelling that is looked for first is looked for first in both
  unfold FieldName.find? at hread ⊢
  cases hwire : Data.lookup? es (.text f.wire) with
  | some v =>
    rw [hread f.wire v (by rw [hwire]), hwire]
    rfl
  | none =>
    rw [hnone _ hwire]
    cases halternative : Data.lookup? es (.text f.alternative) with
    | some v =>
      rw [hread f.alternative v (by rw [hwire, halternative]; rfl), halternative]
      rfl
    | none =>
      rw [hnone _ halternative]
      rfl

end Essence

/-! ## Readers -/

/-- Whether two records have the same essence, as far as fields are found in them. -/
def SameFields (fields : List (FieldName × Layout)) (es es' : List (Data × Data)) : Prop :=
  ∀ f l, (f, l) ∈ fields → f.find? es' = (f.find? es).map fun found => (found.1, l.essence found.2)

/-- Whether a reader takes the essence of a value like the value. -/
def Layout.Ignores {α : Type} (l : Layout) (read : Data → Check α) : Prop :=
  ∀ v, read (l.essence v) = read v

/-- Whether what is read from the entries of a record depends on its fields only. -/
def FieldsIgnore {α : Type} (fields : List (FieldName × Layout))
    (body : List (Data × Data) → Check α) : Prop :=
  ∀ es es', SameFields fields es es' → body es' = body es

section Ignore

variable {α β : Type} {fields : List (FieldName × Layout)} {f : FieldName} {l : Layout}

/-- A reader that is mapped depends on what it does. -/
theorem FieldsIgnore.map {c : List (Data × Data) → Check α} (hc : FieldsIgnore fields c)
    (g : α → β) : FieldsIgnore fields fun es => g <$> c es := by
  intro es es' h
  simp only [hc es es' h]

/-- Two readers that are put together depend on what both do. -/
theorem FieldsIgnore.seq {g : List (Data × Data) → Check (α → β)}
    {c : List (Data × Data) → Check α} (hg : FieldsIgnore fields g) (hc : FieldsIgnore fields c) :
    FieldsIgnore fields fun es => g es <*> c es := by
  intro es es' h
  simp only [hg es es' h, hc es es' h]

/-- The reader of a field depends on its value, whatever comes of a missing field. -/
theorem Layout.Ignores.field {read : Data → Check α} (hread : l.Ignores read)
    (hf : (f, l) ∈ fields) (missing : Check α) : FieldsIgnore fields fun es =>
      match f.find? es with
      | some (name, v) => (read v).under (.field name)
      | none => missing := by
  intro es es' h
  simp only [h f l hf]
  cases f.find? es with
  | none => rfl
  | some found => simp only [Option.map_some, hread found.2]

/-- So does that of a field that must be there. -/
theorem Layout.Ignores.required {read : Data → Check α} (hread : l.Ignores read)
    (hf : (f, l) ∈ fields) : FieldsIgnore fields (f.required read) := hread.field hf _

/-- And that of a field with a default. -/
theorem Layout.Ignores.optional {read : Data → Check α} (hread : l.Ignores read)
    (hf : (f, l) ∈ fields) (default : α) : FieldsIgnore fields (f.optional default read) :=
  hread.field hf _

/-- What is taken as it is has only its essence. -/
theorem ignores_whole (read : Data → Check α) : Layout.whole.Ignores read := fun _ => rfl

/-- A record is taken like its essence if what is read from it depends on its fields. -/
theorem Layout.Ignores.record {body : List (Data × Data) → Check α} (hapart : AreApart fields)
    (hbody : FieldsIgnore fields body) (name : String) :
    (Layout.record fields).Ignores fun v => (asRecord name v).andThen body := by
  intro v
  cases v with
  | map es => exact hbody es _ fun f l hf => find?_essentialEntries hapart hf es
  | _ => rfl

/-- Items are taken like their essence if each is. -/
theorem Layout.Ignores.items {read : Data → Check α} (hread : l.Ignores read) :
    (Layout.items l).Ignores (asList read) := by
  intro v
  cases v with
  | list xs =>
    have heach : ∀ (xs : List Data) (start : Int),
        Check.each read start (xs.map l.essence) = Check.each read start xs := by
      intro xs
      induction xs with
      | nil => exact fun _ => rfl
      | cons x xs ih =>
        intro start
        rw [List.map_cons, Check.each, Check.each, hread x, ih]
    exact heach xs 0
  | _ => rfl

end Ignore

/-! ## Texts of the essence -/

section Texts

variable {fill : List Nat → List Nat}

/-- A field is found in a record with other texts where it was found before. -/
theorem FieldName.find?_mapEntryTexts (f : FieldName) (es : List (Data × Data)) :
    f.find? (Data.mapEntryTexts fill es) =
      (f.find? es).map fun found => (found.1, found.2.mapTexts fill) := by
  have hlookup : ∀ s, Data.lookup? (Data.mapEntryTexts fill es) (.text s) =
      (Data.lookup? es (.text s)).map (Data.mapTexts fill) := by
    intro s
    induction es with
    | nil => rfl
    | cons e es ih =>
      obtain ⟨name, v⟩ := e
      by_cases hname : name = .text s
      · simp [Data.mapEntryTexts, hname]
      · rw [Data.mapEntryTexts, lookup?_cons_of_ne hname, lookup?_cons_of_ne hname, ih]
  unfold find?
  rw [hlookup, hlookup]
  cases Data.lookup? es (.text f.wire) with
  | some v => rfl
  | none => cases Data.lookup? es (.text f.alternative) <;> rfl

/-- So it is read from the entries of the same names. -/
theorem FieldName.reads_mapEntryTexts (f : FieldName) (es : List (Data × Data)) (name : Data) :
    f.reads (Data.mapEntryTexts fill es) name = f.reads es name := by
  unfold reads
  rw [f.find?_mapEntryTexts]
  cases f.find? es <;> rfl

/-- A text has only its essence. -/
theorem Layout.essence_ofCodes (l : Layout) (codes : List Nat) :
    l.essence (Data.ofCodes codes) = Data.ofCodes codes := by
  unfold Data.ofCodes
  split <;> cases l <;> rfl

mutual

/-- The essence of a value with other texts is the essence with other texts. -/
theorem Layout.essence_mapTexts : ∀ (l : Layout) (v : Data),
    l.essence (v.mapTexts fill) = (l.essence v).mapTexts fill
  | .whole, v => by
    unfold Layout.essence
    rfl
  | .items l, v => by
    have hitem := Layout.essence_mapTexts l
    cases v with
    | list xs =>
      have hitems : (Data.mapItemTexts fill xs).map l.essence =
          Data.mapItemTexts fill (xs.map l.essence) := by
        induction xs with
        | nil => rfl
        | cons x xs ih => rw [Data.mapItemTexts, List.map_cons, hitem, ih]; rfl
      exact congrArg Data.list hitems
    | text s => exact Layout.essence_ofCodes _ _
    | brokenText codes => exact Layout.essence_ofCodes _ _
    | _ => rfl
  | .record fields, v => by
    cases v with
    | map es =>
      have hentry := entryEssence?_mapTexts fields es
      have hentries : ∀ rest, (Data.mapEntryTexts fill rest).filterMap
          (entryEssence? fields (Data.mapEntryTexts fill es)) =
            Data.mapEntryTexts fill (rest.filterMap (entryEssence? fields es)) := by
        intro rest
        induction rest with
        | nil => rfl
        | cons e rest ih =>
          rw [Data.mapEntryTexts, List.filterMap_cons, List.filterMap_cons, hentry e, ih]
          cases entryEssence? fields es e <;> rfl
      exact congrArg Data.map (hentries es)
    | text s => exact Layout.essence_ofCodes _ _
    | brokenText codes => exact Layout.essence_ofCodes _ _
    | _ => rfl

/-- The same for an entry of a record. -/
theorem entryEssence?_mapTexts : ∀ (fields : List (FieldName × Layout))
    (es : List (Data × Data)) (e : Data × Data),
    entryEssence? fields (Data.mapEntryTexts fill es) (e.1, e.2.mapTexts fill) =
      (entryEssence? fields es e).map fun e' => (e'.1, e'.2.mapTexts fill)
  | [], _, _ => rfl
  | (f, l) :: rest, es, e => by
    have hvalue := Layout.essence_mapTexts l e.2
    have hrest := entryEssence?_mapTexts rest es e
    unfold entryEssence?
    rw [f.reads_mapEntryTexts, hvalue, hrest]
    split <;> rfl

end

section Ignored

variable {α : Type} (gather : List Nat → List α)

mutual

/-- What is gathered from the texts of a value is gathered from its essence, if there is nothing in
what is left out. -/
theorem Layout.flatMap_texts_essence : ∀ (l : Layout) (v : Data),
    (∀ u ∈ l.ignored v, u.texts.flatMap gather = []) →
      (l.essence v).texts.flatMap gather = v.texts.flatMap gather
  | .whole, v, _ => by
    unfold Layout.essence
    rfl
  | .items l, v, h => by
    have hitem := Layout.flatMap_texts_essence l
    cases v with
    | list xs =>
      change ∀ u ∈ xs.flatMap l.ignored, _ at h
      change (Data.itemTexts (xs.map l.essence)).flatMap gather =
        (Data.itemTexts xs).flatMap gather
      induction xs with
      | nil => rfl
      | cons x xs ih =>
        rw [List.flatMap_cons, List.forall_mem_append] at h
        rw [List.map_cons, Data.itemTexts, Data.itemTexts, List.flatMap_append,
          List.flatMap_append, hitem x h.1, ih h.2]
    | _ => rfl
  | .record fields, v, h => by
    cases v with
    | map es =>
      have hentry := flatMap_texts_entryEssence? fields es
      have hentries : ∀ rest, (∀ u ∈ rest.flatMap (ignoredInEntry fields es),
          u.texts.flatMap gather = []) →
            (Data.entryTexts (rest.filterMap (entryEssence? fields es))).flatMap gather =
              (Data.entryTexts rest).flatMap gather := by
        intro rest hrest
        induction rest with
        | nil => rfl
        | cons e rest ih =>
          rw [List.flatMap_cons, List.forall_mem_append] at hrest
          have he := hentry e hrest.1
          rw [Data.entryTexts, List.flatMap_append, ← ih hrest.2, ← he, List.filterMap_cons]
          cases entryEssence? fields es e with
          | none => rfl
          | some e' => simp [Data.entryTexts]
      exact hentries es h
    | _ => rfl

/-- The same for an entry of a record. -/
theorem flatMap_texts_entryEssence? : ∀ (fields : List (FieldName × Layout))
    (es : List (Data × Data)) (e : Data × Data),
    (∀ u ∈ ignoredInEntry fields es e, u.texts.flatMap gather = []) →
      ((entryEssence? fields es e).toList.flatMap fun e' => e'.2.texts.flatMap gather) =
        e.2.texts.flatMap gather
  | [], _, e, h => (h e.2 List.mem_cons_self).symm
  | (f, l) :: rest, es, e, h => by
    have hvalue := Layout.flatMap_texts_essence l e.2
    have hrest := flatMap_texts_entryEssence? rest es e
    unfold entryEssence?
    unfold ignoredInEntry at h
    split
    · rename_i hread
      rw [if_pos hread] at h
      simp [hvalue h]
    · rename_i hread
      rw [if_neg hread] at h
      exact hrest h

end

end Ignored

end Texts

end Courier.Schema

namespace Courier

open Schema

theorem Entry.ignores : layout.Ignores read := by
  refine .record (by decide) (.seq (.seq (.seq (.map ?_ _) ?_) ?_) ?_) _
  all_goals exact (ignores_whole _).optional (by simp) _

theorem Auth.ignores : layout.Ignores read := by
  refine .record (by decide) (.seq (.seq (.seq (.seq (.seq (.map ?_ _) ?_) ?_) ?_) ?_) ?_) _
  all_goals exact (ignores_whole _).optional (by simp) _

/-- Form fields are read as a list, unless there are none. -/
theorem Body.readFormData_ignores : (Layout.items Entry.layout).Ignores readFormData := by
  intro v
  cases v with
  | list xs => exact congrArg (Check.map some) (Entry.ignores.items (.list xs))
  | _ => rfl

theorem Body.ignores : layout.Ignores read := by
  refine .record (by decide) (.seq (.seq (.map ?_ _) ?_) ?_) _
  · exact (ignores_whole _).optional (by simp) _
  · exact (ignores_whole _).optional (by simp) _
  · exact readFormData_ignores.optional (by simp) _

/-- The fields of a request. -/
def Request.sourceFields : List (FieldName × Layout) :=
  [(.plain "method", .whole), (.plain "url", .whole), (.plain "headers", .items Entry.layout),
    (.plain "params", .items Entry.layout), (.plain "body", Body.layout),
    (.plain "auth", Auth.layout)]

/-- A request depends on its fields only. -/
theorem Request.read_of_sameFields {es es' : List (Data × Data)}
    (h : SameFields sourceFields es es') : read (.map es') = read (.map es) := by
  have hfields : FieldsIgnore sourceFields fun es => read (.map es) := by
    refine .seq (.seq (.seq (.seq (.seq (.map ?_ _) ?_) ?_) ?_) ?_) ?_
    · exact (ignores_whole _).required (by simp [sourceFields])
    · exact (ignores_whole _).required (by simp [sourceFields])
    · exact Entry.ignores.items.optional (by simp [sourceFields]) _
    · exact Entry.ignores.items.optional (by simp [sourceFields]) _
    · exact Body.ignores.optional (by simp [sourceFields]) _
    · exact Auth.ignores.optional (by simp [sourceFields]) _
  exact hfields es es' h

end Courier
