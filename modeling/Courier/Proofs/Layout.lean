import Courier.Proofs.Record
import Mathlib.Data.List.Forall2
import Mathlib.Data.List.Pairwise

/-!
# Spellings of fields

A reader finds the fields of a record under two spellings each, at every level of a value. Its
layout says where they are: which values are records, with which fields, and which have items. Two
values that differ only in how fields are spelled are accepted alike, unless a field is given twice
(`Layout.Fits`). That is shown for one layout at a time from the layouts of its parts: a reader of
items fits if that of an item does (`Layout.Fits.items`), and a reader of a record, as a chain of the
readers of its fields, if those do (`Layout.Fits.record`, `Layout.Fits.field`).
-/

namespace Courier.Schema

/-- How a value is laid out for a reader: taken as it is, as items of one layout, or as a record with
the layouts of its fields. -/
inductive Layout where
  | whole
  | items (item : Layout)
  | record (fields : List (FieldName × Layout))

/-- Whether a name in a mapping is a spelling of a field. -/
def FieldName.isSpelledBy (f : FieldName) : Data → Bool
  | .text s => s == f.wire || s == f.alternative
  | _ => false

/-- The entries of a field in a mapping. -/
def FieldName.entries (f : FieldName) (es : List (Data × Data)) : List (Data × Data) :=
  es.filter fun e => f.isSpelledBy e.1

mutual

/-- Whether no field is given twice in a value. As no mapping has a name twice, a field that is given
twice is given under both its spellings. -/
def Layout.GivenOnce : Layout → Data → Prop
  | .whole, _ => True
  | .items l, v => ∀ xs, asItems v = .accepted xs → ∀ x ∈ xs, l.GivenOnce x
  | .record fields, v => ∀ es, v = .map es → FieldsGivenOnce fields es

/-- Whether no field of a record is given twice in it, nor in the values of its fields. -/
def FieldsGivenOnce : List (FieldName × Layout) → List (Data × Data) → Prop
  | [], _ => True
  | (f, l) :: rest, es =>
    (f.entries es).length ≤ 1 ∧ (∀ e ∈ f.entries es, l.GivenOnce e.2) ∧ FieldsGivenOnce rest es

end

mutual

/-- Whether a value is another one with some of its fields respelled. -/
def Layout.Respells : Layout → Data → Data → Prop
  | .whole, v, w => w = v
  | .items l, v, w => w = v ∨ ∃ xs ys, asItems v = .accepted xs ∧ asItems w = .accepted ys ∧
      List.Forall₂ l.Respells xs ys
  | .record fields, v, w => w = v ∨ ∃ es es', v = .map es ∧ w = .map es' ∧
      List.Forall₂ (EntryRespells fields) es es'

/-- Whether an entry of a record is another one, respelled if it is that of a field. -/
def EntryRespells : List (FieldName × Layout) → Data × Data → Data × Data → Prop
  | [], e, e' => e' = e
  | (f, l) :: rest, e, e' =>
    if f.isSpelledBy e.1 = true then f.isSpelledBy e'.1 = true ∧ l.Respells e.2 e'.2
    else EntryRespells rest e e'

end

/-- A value is itself respelled nowhere. -/
theorem Layout.Respells.refl (l : Layout) (v : Data) : l.Respells v v := by
  cases l with
  | whole => exact rfl
  | items l => exact .inl rfl
  | record fields => exact .inl rfl

/-! ## The entries of a field -/

section Entries

variable {f : FieldName} {es : List (Data × Data)} {e : Data × Data}

/-- Whatever else is in a mapping, a field is found among its entries. -/
theorem FieldName.find?_entries (f : FieldName) (es : List (Data × Data)) :
    f.find? (f.entries es) = f.find? es := by
  -- A spelling of the field is looked up among its entries as among all.
  have hlookup : ∀ s, f.isSpelledBy (.text s) = true →
      Data.lookup? (f.entries es) (.text s) = Data.lookup? es (.text s) := by
    intro s hs
    unfold Data.lookup? entries
    rw [List.find?_filter]
    congr 2
    funext e
    cases hsame : (Data.text s).same e.1 with
    | false => simp
    | true => simp [(same_text_iff s e.1).1 hsame, hs]
  have hwire : f.isSpelledBy (.text f.wire) = true := by simp [isSpelledBy]
  have halternative : f.isSpelledBy (.text f.alternative) = true := by simp [isSpelledBy]
  unfold find?
  rw [hlookup f.wire hwire, hlookup f.alternative halternative]

/-- The only entry of a field is found. -/
theorem FieldName.find?_of_mem (hlength : (f.entries es).length ≤ 1) (he : e ∈ f.entries es) :
    ∃ s, e.1 = .text s ∧ f.find? es = some (s, e.2) := by
  obtain ⟨only, honly⟩ :=
    List.length_eq_one_iff.1 (Nat.le_antisymm hlength (List.length_pos_of_mem he))
  have hspelled := (List.mem_filter.1 he).2
  rw [honly, List.mem_singleton] at he
  subst he
  -- The first spelling is looked up before the other one, but only one is there.
  rw [← f.find?_entries es, honly]
  obtain ⟨k, v⟩ := e
  cases k with
  | text s =>
    simp only [isSpelledBy, Bool.or_eq_true, beq_iff_eq] at hspelled
    refine ⟨s, rfl, ?_⟩
    simp only [find?, lookup?_cons_text, lookup?_nil]
    by_cases hwire : s = f.wire
    · rw [if_pos hwire, hwire]
    · rw [if_neg hwire, if_pos (hspelled.resolve_left hwire), hspelled.resolve_left hwire]
      rfl
  | _ => cases hspelled

/-- A field is found under one of its spellings. -/
theorem FieldName.isSpelledBy_of_find? {s : String} {v : Data} (h : f.find? es = some (s, v)) :
    f.isSpelledBy (.text s) = true := by
  unfold find? at h
  split at h
  · cases h
    simp [isSpelledBy]
  · obtain ⟨w, -, hw⟩ := Option.map_eq_some_iff.1 h
    cases hw
    simp [isSpelledBy]

end Entries

/-! ## Respelled records -/

/-- Whether two fields have no spelling in common. -/
def IsApart (f g : FieldName × Layout) : Prop :=
  ∀ s ∈ [f.1.wire, f.1.alternative], s ∉ [g.1.wire, g.1.alternative]

instance : Std.Symm IsApart where
  symm _ _ h s hs hs' := h s hs' hs

instance (f g : FieldName × Layout) : Decidable (IsApart f g) := by
  unfold IsApart
  infer_instance

/-- Whether no spelling is that of two fields. -/
abbrev AreApart (fields : List (FieldName × Layout)) : Prop := fields.Pairwise IsApart

/-- Whether the entries of a record, in which no field is given twice, are those of another one with
some of its fields respelled. -/
structure RecordRespells (fields : List (FieldName × Layout)) (es es' : List (Data × Data)) :
    Prop where
  apart : AreApart fields
  once : FieldsGivenOnce fields es
  entries : List.Forall₂ (EntryRespells fields) es es'

section Record

variable {fields : List (FieldName × Layout)} {f : FieldName} {l : Layout}
  {es es' : List (Data × Data)} {e e' : Data × Data}

/-- What is known of a record in which no field is given twice, at one field. -/
theorem FieldsGivenOnce.of_mem (h : FieldsGivenOnce fields es) (hf : (f, l) ∈ fields) :
    (f.entries es).length ≤ 1 ∧ ∀ e ∈ f.entries es, l.GivenOnce e.2 := by
  induction fields with
  | nil => cases hf
  | cons first rest ih =>
    obtain ⟨g, m⟩ := first
    obtain ⟨hlength, hvalues, hrest⟩ := h
    rcases List.mem_cons.1 hf with heq | hmem
    · cases heq
      exact ⟨hlength, hvalues⟩
    · exact ih hrest hmem

/-- A respelled entry is unchanged, or it is that of a field, before and after. -/
theorem EntryRespells.cases (h : EntryRespells fields e e') :
    e' = e ∨ ∃ f l, (f, l) ∈ fields ∧ f.isSpelledBy e.1 = true ∧ f.isSpelledBy e'.1 = true ∧
      l.Respells e.2 e'.2 := by
  induction fields with
  | nil => exact .inl h
  | cons first rest ih =>
    obtain ⟨f, l⟩ := first
    unfold EntryRespells at h
    split at h
    · rename_i hspelled
      exact .inr ⟨f, l, List.mem_cons_self, hspelled, h⟩
    · obtain heq | ⟨g, m, hmem, hrest⟩ := ih h
      · exact .inl heq
      · exact .inr ⟨g, m, List.mem_cons_of_mem _ hmem, hrest⟩

/-- A name is a spelling of one field at most. -/
theorem AreApart.eq_of_isSpelledBy (hapart : AreApart fields) {g : FieldName} {m : Layout} {k : Data}
    (hf : (f, l) ∈ fields) (hg : (g, m) ∈ fields) (hfk : f.isSpelledBy k = true)
    (hgk : g.isSpelledBy k = true) : (f, l) = (g, m) := by
  by_contra hne
  have happart := List.Pairwise.forall hapart hf hg hne
  cases k with
  | text s =>
    simp only [FieldName.isSpelledBy, Bool.or_eq_true, beq_iff_eq] at hfk hgk
    exact happart s (by simpa using hfk) (by simpa using hgk)
  | _ => cases hfk

/-- A respelled entry is one of a field exactly if it was before, with a value that is respelled. -/
theorem EntryRespells.of_mem (h : EntryRespells fields e e') (hapart : AreApart fields)
    (hf : (f, l) ∈ fields) : f.isSpelledBy e'.1 = f.isSpelledBy e.1 ∧
      (f.isSpelledBy e.1 = true → l.Respells e.2 e'.2) := by
  obtain rfl | ⟨g, m, hg, hbefore, hafter, hvalue⟩ := h.cases
  · exact ⟨rfl, fun _ => .refl l _⟩
  · -- The entry is that of another field, or of this one.
    refine ⟨?_, fun hspelled => ?_⟩
    · rw [Bool.eq_iff_iff]
      constructor
      · intro hspelled
        cases hapart.eq_of_isSpelledBy hf hg hspelled hafter
        exact hbefore
      · intro hspelled
        cases hapart.eq_of_isSpelledBy hf hg hspelled hbefore
        exact hafter
    · cases hapart.eq_of_isSpelledBy hf hg hspelled hbefore
      exact hvalue

namespace RecordRespells

variable (h : RecordRespells fields es es') (hf : (f, l) ∈ fields)

include h hf

/-- The entries of a field are as many in a respelled record, and are respelled themselves. -/
theorem entries_of_mem :
    List.Forall₂ (EntryRespells fields) (f.entries es) (f.entries es') :=
  List.rel_filter (fun e e' hentry => by simp only [(hentry.of_mem h.apart hf).1]) h.entries

/-- A field is not given twice in a respelled record either. -/
theorem length_entries : (f.entries es).length ≤ 1 ∧ (f.entries es').length ≤ 1 := by
  have hlength := (h.once.of_mem hf).1
  exact ⟨hlength, (h.entries_of_mem hf).length_eq ▸ hlength⟩

/-- A field is missing from a record and from the respelled one, or it is found in both, with a value
that is respelled. -/
theorem find?_cases : (f.find? es = none ∧ f.find? es' = none) ∨
    ∃ s v s' v', f.find? es = some (s, v) ∧ f.find? es' = some (s', v') ∧ l.GivenOnce v ∧
      l.Respells v v' := by
  obtain ⟨hlength, hlength'⟩ := h.length_entries hf
  have hentries := h.entries_of_mem hf
  cases hfound : f.entries es with
  | nil =>
    rw [hfound, List.forall₂_nil_left_iff] at hentries
    rw [← f.find?_entries es, ← f.find?_entries es', hfound, hentries]
    exact .inl ⟨rfl, rfl⟩
  | cons e rest =>
    rw [hfound] at hentries
    obtain ⟨e', rest', hentry, -, hfound'⟩ := List.forall₂_cons_left_iff.1 hentries
    have he : e ∈ f.entries es := hfound ▸ List.mem_cons_self
    have he' : e' ∈ f.entries es' := hfound' ▸ List.mem_cons_self
    obtain ⟨s, -, hs⟩ := FieldName.find?_of_mem hlength he
    obtain ⟨s', -, hs'⟩ := FieldName.find?_of_mem hlength' he'
    have hvalue := (hentry.of_mem h.apart hf).2 (List.mem_filter.1 he).2
    exact .inr ⟨s, e.2, s', e'.2, hs, hs', (h.once.of_mem hf).2 e he, hvalue⟩

end RecordRespells

/-- Where no field is given twice, an entry is used exactly if it is that of a field. -/
theorem mem_used_iff (h : ∀ f ∈ fields, (f.1.entries es).length ≤ 1) (he : e ∈ es) {s : String}
    (hs : e.1 = .text s) :
    s ∈ (fields.map Prod.fst).filterMap (fun f => (f.find? es).map Prod.fst) ↔
      ∃ f ∈ fields, f.1.isSpelledBy e.1 = true := by
  rw [List.mem_filterMap]
  constructor
  · rintro ⟨f, hf, hfound⟩
    obtain ⟨⟨f, l⟩, hmem, rfl⟩ := List.mem_map.1 hf
    obtain ⟨⟨s', v⟩, hfind, rfl⟩ := Option.map_eq_some_iff.1 hfound
    rw [hs]
    exact ⟨(f, l), hmem, FieldName.isSpelledBy_of_find? hfind⟩
  · rintro ⟨⟨f, l⟩, hmem, hspelled⟩
    obtain ⟨s', hs', hfind⟩ := FieldName.find?_of_mem (h _ hmem) (List.mem_filter.2 ⟨he, hspelled⟩)
    cases hs.symm.trans hs'
    exact ⟨f, List.mem_map_of_mem hmem, by rw [hfind]; rfl⟩

/-- Where no field is given twice, nothing but fields is allowed exactly if every entry is that of a
field. -/
theorem value?_onlyFields_iff (h : ∀ f ∈ fields, (f.1.entries es).length ≤ 1) :
    (onlyFields (fields.map Prod.fst) es).value? = some () ↔
      ∀ e ∈ es, ∃ f ∈ fields, f.1.isSpelledBy e.1 = true := by
  have hempty : ∀ (rest : List (Data × Data)) (why : Refusal),
      (if rest.isEmpty then Check.accepted () else .refused why).value? = some () ↔
        rest = [] := by
    intro rest why
    cases rest with
    | nil => exact iff_of_true rfl rfl
    | cons e rest => exact iff_of_false nofun nofun
  unfold onlyFields
  rw [hempty, List.filter_eq_nil_iff]
  refine forall₂_congr fun e he => ?_
  split
  · rename_i s hs
    rw [Bool.not_eq_true, Bool.not_eq_false', List.contains_iff_mem, mem_used_iff h he hs]
  · -- What is no text is a spelling of nothing.
    rename_i hother
    refine iff_of_false (fun h => h rfl) ?_
    rintro ⟨f, -, hspelled⟩
    unfold FieldName.isSpelledBy at hspelled
    split at hspelled
    · rename_i s hs
      exact hother s hs
    · cases hspelled

end Record

/-! ## Readers that fit -/

/-- Whether a reader takes respelled values alike. -/
def Layout.Fits {α : Type} (l : Layout) (read : Data → Check α) : Prop :=
  ∀ v w, l.GivenOnce v → l.Respells v w → (read w).value? = (read v).value?

/-- Whether what is read from the entries of a record is taken alike from respelled ones. -/
def FieldsFit {α : Type} (fields : List (FieldName × Layout))
    (body : List (Data × Data) → Check α) : Prop :=
  ∀ es es', RecordRespells fields es es' → (body es').value? = (body es).value?

section Fit

variable {α β : Type} {fields : List (FieldName × Layout)} {f : FieldName} {l : Layout}

/-- A reader that is mapped fits if it does. -/
theorem FieldsFit.map {c : List (Data × Data) → Check α} (hc : FieldsFit fields c) (g : α → β) :
    FieldsFit fields fun es => g <$> c es := by
  intro es es' h
  rw [Check.value?_map, Check.value?_map, hc es es' h]

/-- Two readers that are put together fit if both do. -/
theorem FieldsFit.seq {g : List (Data × Data) → Check (α → β)} {c : List (Data × Data) → Check α}
    (hg : FieldsFit fields g) (hc : FieldsFit fields c) :
    FieldsFit fields fun es => g es <*> c es := by
  intro es es' h
  rw [Check.value?_seq, Check.value?_seq, hg es es' h, hc es es' h]

/-- The reader of a field fits if that of its value does, whatever comes of a missing field. -/
theorem Layout.Fits.field {read : Data → Check α} (hread : l.Fits read) (hf : (f, l) ∈ fields)
    (missing : Check α) : FieldsFit fields fun es =>
      match f.find? es with
      | some (name, v) => (read v).under (.field name)
      | none => missing := by
  intro es es' h
  obtain ⟨hnone, hnone'⟩ | ⟨s, v, s', v', hs, hs', honce, hvalue⟩ := h.find?_cases hf
  · simp only [hnone, hnone']
  · simp only [hs, hs', Check.value?_under]
    exact hread v v' honce hvalue

/-- So does that of a field that must be there. -/
theorem Layout.Fits.required {read : Data → Check α} (hread : l.Fits read) (hf : (f, l) ∈ fields) :
    FieldsFit fields (f.required read) := hread.field hf _

/-- And that of a field with a default. -/
theorem Layout.Fits.optional {read : Data → Check α} (hread : l.Fits read) (hf : (f, l) ∈ fields)
    (default : α) : FieldsFit fields (f.optional default read) := hread.field hf _

/-- That nothing but fields is allowed does not depend on how they are spelled. -/
theorem FieldsFit.onlyFields : FieldsFit fields (onlyFields (fields.map Prod.fst)) := by
  intro es es' h
  have honce := value?_onlyFields_iff fun f hf => (h.length_entries hf).1
  have honce' := value?_onlyFields_iff fun f hf => (h.length_entries hf).2
  have hentry : ∀ e e', EntryRespells fields e e' →
      ((∃ f ∈ fields, f.1.isSpelledBy e'.1 = true) ↔ ∃ f ∈ fields, f.1.isSpelledBy e.1 = true) := by
    intro e e' hentry
    refine exists_congr fun f => and_congr_right fun hf => ?_
    rw [(hentry.of_mem h.apart hf).1]
  have hentries : (∀ e ∈ es', ∃ f ∈ fields, f.1.isSpelledBy e.1 = true) ↔
      ∀ e ∈ es, ∃ f ∈ fields, f.1.isSpelledBy e.1 = true := by
    have hrel := h.entries
    clear honce honce' h
    induction hrel with
    | nil => rfl
    | cons hfirst hrest ih =>
      rw [List.forall_mem_cons, List.forall_mem_cons]
      exact and_congr (hentry _ _ hfirst) ih
  refine Option.ext fun _ => ?_
  rw [honce, honce', hentries]

/-- A reader of a record fits if that of its entries does. -/
theorem Layout.Fits.record {body : List (Data × Data) → Check α} (hapart : AreApart fields)
    (hbody : FieldsFit fields body) (name : String) :
    (Layout.record fields).Fits fun v => (asRecord name v).andThen body := by
  rintro v w hgiven (rfl | ⟨es, es', rfl, rfl, hentries⟩)
  · rfl
  · exact hbody es es' ⟨hapart, hgiven es rfl, hentries⟩

/-- What is checked after a reader is about what was read. -/
theorem Layout.Fits.andThen {read : Data → Check α} (hread : l.Fits read) (f : α → Check β) :
    l.Fits fun v => (read v).andThen f := by
  intro v w hgiven h
  simp only [Check.value?_andThen, hread v w hgiven h]

/-- Every reader fits with a value that is taken as it is. -/
theorem fits_whole (read : Data → Check α) : Layout.whole.Fits read := by
  rintro v w - rfl
  rfl

/-- A reader of items fits if that of an item does. -/
theorem Layout.Fits.items {read : Data → Check α} (hread : l.Fits read) :
    (Layout.items l).Fits (asList read) := by
  rintro v w hgiven (rfl | ⟨xs, ys, hv, hw, hitems⟩)
  · rfl
  · have honce := hgiven xs hv
    rw [asList, asList, hv, hw]
    simp only [Check.accepted_andThen, Check.value?_each]
    clear hv hw hgiven
    -- Item by item, the two lists are read alike.
    induction hitems with
    | nil => rfl
    | cons hfirst hrest ih =>
      obtain ⟨hx, hxs⟩ := List.forall_mem_cons.1 honce
      rw [List.mapM_cons, List.mapM_cons, hread _ _ hx hfirst, ih hxs]

end Fit

end Courier.Schema
