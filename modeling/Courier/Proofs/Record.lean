import Courier.Schema.Record

/-!
# What is read from a record

When a check that is put together accepts, and with what (`seq_eq_accepted_iff` and its like), when
it stops at an integer that is too long (`seq_eq_overlong_iff` and its like), and which entry of a
mapping is found under a name (`lookup?_cons_text`). A reader of a record is a chain of such checks,
so these lemmas take it apart without a look at any single record.
-/

namespace Courier.Schema

namespace Check

variable {α β : Type}

/-! ## Checks that accept -/

@[simp]
theorem map_accepted (f : α → β) (a : α) : f <$> accepted a = accepted (f a) := rfl

@[simp]
theorem accepted_seq (f : α → β) (a : α) : accepted f <*> accepted a = accepted (f a) := rfl

@[simp]
theorem under_accepted (s : Step) (a : α) : (accepted a).under s = accepted a := rfl

@[simp]
theorem accepted_andThen (a : α) (f : α → Check β) : (accepted a).andThen f = f a := rfl

/-- A mapped check accepts what it maps an accepted value to. -/
theorem map_eq_accepted_iff {f : α → β} {c : Check α} {b : β} :
    f <$> c = accepted b ↔ ∃ a, c = accepted a ∧ f a = b := by
  cases c with
  | accepted a => simp
  | refused is => exact iff_of_false nofun nofun

/-- Two checks put together accept exactly if both do. -/
theorem seq_eq_accepted_iff {f : Check (α → β)} {c : Check α} {b : β} :
    f <*> c = accepted b ↔ ∃ g a, f = accepted g ∧ c = accepted a ∧ g a = b := by
  cases f with
  | accepted g =>
    cases c with
    | accepted a => simp
    | refused is => exact iff_of_false nofun nofun
  | refused is =>
    refine iff_of_false ?_ nofun
    cases c <;> nofun

/-- The place of a check does not matter to what it accepts. -/
theorem under_eq_accepted_iff {s : Step} {c : Check α} {a : α} :
    c.under s = accepted a ↔ c = accepted a := by
  cases c with
  | accepted b => rfl
  | refused is => exact iff_of_false nofun nofun

/-- A check after another accepts what the first has accepted, in its own way. -/
theorem andThen_eq_accepted_iff {c : Check α} {f : α → Check β} {b : β} :
    c.andThen f = accepted b ↔ ∃ a, c = accepted a ∧ f a = accepted b := by
  cases c with
  | accepted a => simp
  | refused is => exact iff_of_false nofun nofun

/-- Items that are all accepted are accepted together. -/
theorem each_map {read : β → Check α} {dump : α → β} {xs : List α}
    (h : ∀ x ∈ xs, read (dump x) = accepted x) (start : Int) :
    each read start (xs.map dump) = accepted xs := by
  induction xs generalizing start with
  | nil => rfl
  | cons x xs ih =>
    obtain ⟨hfirst, hrest⟩ := List.forall_mem_cons.1 h
    rw [List.map_cons, each, hfirst, ih hrest]
    rfl

/-- Of items that are accepted together, each is. -/
theorem exists_of_each {read : β → Check α} {start : Int} {vs : List β} {xs : List α}
    (h : each read start vs = accepted xs) : ∀ x ∈ xs, ∃ v, read v = accepted x := by
  induction vs generalizing start xs with
  | nil =>
    cases h
    nofun
  | cons v vs ih =>
    obtain ⟨f, rest, hf, hrest, rfl⟩ := seq_eq_accepted_iff.1 h
    obtain ⟨x, hx, rfl⟩ := map_eq_accepted_iff.1 hf
    exact List.forall_mem_cons.2 ⟨⟨v, under_eq_accepted_iff.1 hx⟩, ih hrest⟩

/-! ## Checks that stop -/

/-- A mapped check stops where the check does. -/
@[simp]
theorem map_eq_overlong_iff {f : α → β} {c : Check α} :
    f <$> c = refused .overlong ↔ c = refused .overlong := by
  cases c with
  | accepted a => exact iff_of_false nofun nofun
  | refused why =>
    have hmap : f <$> refused why = (refused why : Check β) := rfl
    rw [hmap, refused.injEq, refused.injEq]

/-- Of two checks put together, either may stop the whole. -/
@[simp]
theorem seq_eq_overlong_iff {f : Check (α → β)} {c : Check α} :
    f <*> c = refused .overlong ↔ f = refused .overlong ∨ c = refused .overlong := by
  cases f with
  | accepted g =>
    cases c with
    | accepted a => exact iff_of_false nofun (by simp)
    | refused why =>
      have hseq : accepted g <*> refused why = (refused why : Check β) := rfl
      simp [hseq]
  | refused why =>
    cases c with
    | accepted a =>
      have hseq : refused why <*> accepted a = (refused why : Check β) := rfl
      simp [hseq]
    | refused other =>
      have hseq : refused why <*> (refused other : Check α) =
          (refused (why.and other) : Check β) := rfl
      rw [hseq]
      cases why <;> cases other <;> simp [Refusal.and]

/-- The place of a check does not matter to whether it stops. -/
@[simp]
theorem under_eq_overlong_iff {s : Step} {c : Check α} :
    c.under s = refused .overlong ↔ c = refused .overlong := by
  cases c with
  | accepted a => exact iff_of_false nofun nofun
  | refused why => cases why <;> simp [under, Refusal.under]

/-- A check after another stops if the first does, or with what the first has accepted. -/
theorem andThen_eq_overlong_iff {c : Check α} {f : α → Check β} :
    c.andThen f = refused .overlong ↔
      c = refused .overlong ∨ ∃ a, c = accepted a ∧ f a = refused .overlong := by
  cases c with
  | accepted a => simp
  | refused why => simp [andThen]

/-- Items are checked up to the end, so that each of them may stop the whole. -/
theorem each_eq_overlong_iff {read : β → Check α} {start : Int} {vs : List β} :
    each read start vs = refused .overlong ↔ ∃ v ∈ vs, read v = refused .overlong := by
  induction vs generalizing start with
  | nil => exact iff_of_false nofun (by simp)
  | cons v vs ih =>
    have hboth : each read start (v :: vs) =
      (List.cons <$> (read v).under (.index start)) <*> each read (start + 1) vs := rfl
    rw [hboth, seq_eq_overlong_iff, map_eq_overlong_iff, under_eq_overlong_iff, ih]
    simp

/-! ## Accepted values -/

theorem value?_map (f : α → β) (c : Check α) : (f <$> c).value? = c.value?.map f := by
  cases c <;> rfl

theorem value?_seq (f : Check (α → β)) (c : Check α) :
    (f <*> c).value? = f.value?.bind fun g => c.value?.map g := by
  cases f <;> cases c <;> rfl

theorem value?_under (s : Step) (c : Check α) : (c.under s).value? = c.value? := by
  cases c <;> rfl

theorem value?_andThen (c : Check α) (f : α → Check β) :
    (c.andThen f).value? = c.value?.bind fun a => (f a).value? := by
  cases c <;> rfl

/-- Items are accepted together if each is accepted. -/
theorem value?_each (read : β → Check α) (start : Int) (vs : List β) :
    (each read start vs).value? = vs.mapM fun v => (read v).value? := by
  induction vs generalizing start with
  | nil => rfl
  | cons v vs ih =>
    have hboth : each read start (v :: vs) =
      (List.cons <$> (read v).under (.index start)) <*> each read (start + 1) vs := rfl
    rw [hboth, value?_seq, value?_map, value?_under, ih, List.mapM_cons]
    cases (read v).value? with
    | none => rfl
    | some x => cases vs.mapM fun v => (read v).value? <;> rfl

end Check

/-! ## Entries -/

/-- A text is equal to itself only. -/
theorem same_text_iff (s : String) (k : Data) : (Data.text s).same k = true ↔ k = .text s := by
  -- A text is no collection, so only scalars are compared.
  have hscalar : (Data.text s).same k = Data.sameScalar (.text s) k := by
    rw [Data.same]
    all_goals intros; contradiction
  rw [hscalar]
  cases k with
  | text t =>
    have heq : Data.sameScalar (.text s) (.text t) = (s == t) := rfl
    rw [heq, beq_iff_eq, Data.text.injEq, eq_comm]
  | _ =>
    refine iff_of_false ?_ ?_
    · intro h
      cases h
    · intro h
      cases h

@[simp]
theorem lookup?_nil (k : Data) : Data.lookup? [] k = none := rfl

/-- Entries are looked through one by one. -/
@[simp]
theorem lookup?_cons_text (s : String) (v : Data) (rest : List (Data × Data)) (name : String) :
    Data.lookup? ((.text s, v) :: rest) (.text name) =
      if s = name then some v else Data.lookup? rest (.text name) := by
  by_cases h : s = name
  · have hsame : (Data.text name).same (.text s) = true := (same_text_iff name _).2 (by rw [h])
    rw [if_pos h, Data.lookup?, List.find?_cons, hsame]
    rfl
  · have hother : (Data.text name).same (.text s) = false := by
      rw [Bool.eq_false_iff, ne_eq, same_text_iff, Data.text.injEq]
      exact h
    rw [if_neg h, Data.lookup?, List.find?_cons, hother]
    rfl

/-- What a field that must be there is read as is read from a value. -/
theorem exists_of_required {α : Type} {f : FieldName} {read : Data → Check α}
    {entries : List (Data × Data)} {a : α} (h : f.required read entries = .accepted a) :
    ∃ v, read v = .accepted a := by
  unfold FieldName.required at h
  split at h
  · exact ⟨_, Check.under_eq_accepted_iff.1 h⟩
  · cases h

/-- What a field with a default is read as is the default or read from a value. -/
theorem eq_or_exists_of_optional {α : Type} {f : FieldName} {default : α} {read : Data → Check α}
    {entries : List (Data × Data)} {a : α} (h : f.optional default read entries = .accepted a) :
    a = default ∨ ∃ v, read v = .accepted a := by
  unfold FieldName.optional at h
  split at h
  · exact .inr ⟨_, Check.under_eq_accepted_iff.1 h⟩
  · cases h
    exact .inl rfl

/-- A name that is there is found. -/
theorem exists_lookup? {entries : List (Data × Data)} {name : String}
    (h : Data.text name ∈ entries.map Prod.fst) :
    ∃ v, Data.lookup? entries (.text name) = some v := by
  obtain ⟨e, he, hname⟩ := List.mem_map.1 h
  have hsome : (entries.find? fun e => (Data.text name).same e.1).isSome = true := by
    rw [List.find?_isSome]
    exact ⟨e, he, (same_text_iff _ _).2 hname⟩
  obtain ⟨found, hfound⟩ := Option.isSome_iff_exists.1 hsome
  exact ⟨found.2, by rw [Data.lookup?, hfound]; rfl⟩

/-- Entries that are named as the fields are written are all allowed. -/
theorem onlyFields_of_names {fields : List FieldName} {entries : List (Data × Data)}
    (h : entries.map Prod.fst = fields.map fun f => .text f.wire) :
    onlyFields fields entries = .accepted () := by
  unfold onlyFields
  simp only
  rw [if_pos]
  -- Every entry has the name of a field, and that field is found under it.
  rw [List.isEmpty_iff, List.filter_eq_nil_iff]
  intro e he
  have hname : e.1 ∈ fields.map fun f => Data.text f.wire := h ▸ List.mem_map_of_mem he
  obtain ⟨f, hf, hwire⟩ := List.mem_map.1 hname
  obtain ⟨v, hv⟩ := exists_lookup? (h ▸ List.mem_map_of_mem hf : Data.text f.wire ∈ _)
  have hfound : (f.find? entries).map Prod.fst = some f.wire := by
    rw [FieldName.find?, hv]
    rfl
  rw [← hwire, Bool.not_eq_true, Bool.not_eq_false', List.contains_iff_mem]
  exact List.mem_filterMap.2 ⟨f, hf, hfound⟩

end Courier.Schema
