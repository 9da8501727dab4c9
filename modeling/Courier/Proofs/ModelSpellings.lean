import Courier.Proofs.NormalForm

/-!
# Spellings of the fields of models

The layouts of all models, and that every reader fits with its own (`Request.fits` and its like):
each is a chain of the readers of its fields. Together with the normal form this says what reading a
model comes to (`models_normalize`).
-/

namespace Courier

open Schema

/-! ## Layouts

The fields of each model in the order in which they are read. Nested models have their own layout;
everything else is taken as it is, headers of a response among it, which are no fields. -/

def Entry.layout : Layout :=
  .record [(.plain "id", .whole), (.plain "key", .whole), (.plain "value", .whole),
    (.plain "enabled", .whole)]

def Auth.layout : Layout :=
  .record [(.plain "type", .whole), (.plain "username", .whole), (.plain "password", .whole),
    (.plain "token", .whole), (apiKeyField, .whole), (apiKeyHeaderField, .whole)]

def Body.layout : Layout :=
  .record [(.plain "type", .whole), (.plain "content", .whole), (formDataField, .items Entry.layout)]

def Request.layout : Layout :=
  .record [(.plain "method", .whole), (.plain "url", .whole),
    (.plain "headers", .items Entry.layout), (.plain "params", .items Entry.layout),
    (.plain "body", Body.layout), (.plain "auth", Auth.layout)]

def Response.layout : Layout :=
  .record [(.plain "status", .whole), (statusTextField, .whole), (.plain "headers", .whole),
    (.plain "body", .whole), (.plain "time", .whole), (.plain "size", .whole)]

def Environment.layout : Layout :=
  .record [(.plain "id", .whole), (.plain "name", .whole),
    (.plain "variables", .items Entry.layout)]

def Transport.layout : Layout :=
  .record [(.plain "timeout", .whole), (.plain "verify_ssl", .whole), (.plain "ca_bundle", .whole),
    (.plain "follow_redirects", .whole)]

def VariableCheck.layout : Layout :=
  .record [(.plain "references", .whole), (.plain "missing", .whole)]

def Assertion.layout : Layout :=
  .record [(.plain "name", .whole), (.plain "subject", .whole), (.plain "key", .whole),
    (.plain "op", .whole), (.plain "value", .whole)]

def Verdict.layout : Layout :=
  .record [(.plain "name", .whole), (.plain "passed", .whole), (.plain "message", .whole)]

def RequestFile.layout : Layout :=
  .record [(.plain "request", Request.layout), (.plain "assertions", .items Assertion.layout)]

/-! ## Readers

A reader is a chain with one link for each field, and fits link by link. Models that allow nothing but
their fields have one more link, which says so. -/

theorem Entry.fits : layout.Fits read := by
  refine .record (by decide) (.seq (.seq (.seq (.map ?_ _) ?_) ?_) ?_) _
  all_goals exact (fits_whole _).optional (by simp) _

theorem Auth.fits : layout.Fits read := by
  refine .record (by decide) (.seq (.seq (.seq (.seq (.seq (.map ?_ _) ?_) ?_) ?_) ?_) ?_) _
  all_goals exact (fits_whole _).optional (by simp) _

/-- Form fields are read as a list, unless there are none. -/
theorem Body.readFormData_fits : (Layout.items Entry.layout).Fits readFormData := by
  have hlist : ∀ {v xs}, asItems v = .accepted xs →
      (readFormData v).value? = (asList Entry.read v).value?.map some := by
    intro v xs hv
    -- What has items is not the value that stands for no form fields.
    have hread : readFormData v = some <$> asList Entry.read v := by
      cases v with
      | list _ => rfl
      | set _ => rfl
      | pair _ _ => rfl
      | _ => cases hv
    rw [hread, Check.value?_map]
  rintro v w hgiven (rfl | hitems)
  · rfl
  · have hsame := Entry.fits.items v w hgiven (.inr hitems)
    obtain ⟨xs, ys, hv, hw, -⟩ := hitems
    rw [hlist hv, hlist hw, hsame]

theorem Body.fits : layout.Fits read := by
  refine .record (by decide) (.seq (.seq (.map ?_ _) ?_) ?_) _
  · exact (fits_whole _).optional (by simp) _
  · exact (fits_whole _).optional (by simp) _
  · exact readFormData_fits.optional (by simp) _

theorem Request.fits : layout.Fits read := by
  refine .record (by decide) (.seq (.seq (.seq (.seq (.seq (.map ?_ _) ?_) ?_) ?_) ?_) ?_) _
  · exact (fits_whole _).required (by simp)
  · exact (fits_whole _).required (by simp)
  · exact Entry.fits.items.optional (by simp) _
  · exact Entry.fits.items.optional (by simp) _
  · exact Body.fits.optional (by simp) _
  · exact Auth.fits.optional (by simp) _

theorem Response.fits : layout.Fits read := by
  refine .record (by decide) (.seq (.seq (.seq (.seq (.seq (.seq (.map ?_ _) ?_) ?_) ?_) ?_) ?_) ?_) _
  · exact (fits_whole _).required (by simp)
  · exact (fits_whole _).required (by simp)
  · exact (fits_whole _).optional (by simp) _
  · exact (fits_whole _).optional (by simp) _
  · exact (fits_whole _).required (by simp)
  · exact (fits_whole _).required (by simp)
  · exact .onlyFields

theorem Environment.fits : layout.Fits read := by
  refine .record (by decide) (.seq (.seq (.map ?_ _) ?_) ?_) _
  · exact (fits_whole _).optional (by simp) _
  · exact (fits_whole _).optional (by simp) _
  · exact Entry.fits.items.optional (by simp) _

theorem Transport.fits : layout.Fits read := by
  refine .record (by decide) (.seq (.seq (.seq (.seq (.map ?_ _) ?_) ?_) ?_) ?_) _
  · exact (fits_whole _).optional (by simp) _
  · exact (fits_whole _).optional (by simp) _
  · exact (fits_whole _).optional (by simp) _
  · exact (fits_whole _).optional (by simp) _
  · exact .onlyFields

theorem VariableCheck.fits : layout.Fits read := by
  refine .record (by decide) (.seq (.seq (.map ?_ _) ?_) ?_) _
  · exact (fits_whole _).optional (by simp) _
  · exact (fits_whole _).optional (by simp) _
  · exact .onlyFields

theorem Assertion.fits : layout.Fits read := by
  refine .andThen (.record (by decide) (.seq (.seq (.seq (.seq (.seq (.map ?_ _) ?_) ?_) ?_) ?_) ?_) _) _
  · exact (fits_whole _).optional (by simp) _
  · exact (fits_whole _).required (by simp)
  · exact (fits_whole _).optional (by simp) _
  · exact (fits_whole _).optional (by simp) _
  · exact (fits_whole _).optional (by simp) _
  · exact .onlyFields

theorem Verdict.fits : layout.Fits read := by
  refine .record (by decide) (.seq (.seq (.seq (.map ?_ _) ?_) ?_) ?_) _
  · exact (fits_whole _).required (by simp)
  · exact (fits_whole _).required (by simp)
  · exact (fits_whole _).optional (by simp) _
  · exact .onlyFields

theorem RequestFile.fits : layout.Fits read := by
  refine .record (by decide) (.seq (.map ?_ _) ?_) _
  · exact Request.fits.required (by simp)
  · exact Assertion.fits.items.optional (by simp) _

/-! ## Normal forms -/

/-- Whether reading gives a normal form: what is read is read again, as the same, from the mapping
that it is written as; and a value with fields respelled is accepted as it was, as the same. -/
structure IsNormalizing {α : Type} (read : Data → Check α) (dump : α → Data) (layout : Layout) :
    Prop where
  read_dump : ∀ v x, read v = .accepted x → read (dump x) = .accepted x
  respelled : ∀ v w, layout.GivenOnce v → layout.Respells v w → (read w).value? = (read v).value?

/-- Every model is read into a normal form. -/
theorem models_normalize :
    IsNormalizing Entry.read Entry.dump Entry.layout ∧
      IsNormalizing Auth.read Auth.dump Auth.layout ∧
      IsNormalizing Body.read Body.dump Body.layout ∧
      IsNormalizing Request.read Request.dump Request.layout ∧
      IsNormalizing Response.read Response.dump Response.layout ∧
      IsNormalizing Environment.read Environment.dump Environment.layout ∧
      IsNormalizing Transport.read Transport.dump Transport.layout ∧
      IsNormalizing VariableCheck.read VariableCheck.dump VariableCheck.layout ∧
      IsNormalizing Assertion.read Assertion.dump Assertion.layout ∧
      IsNormalizing Verdict.read Verdict.dump Verdict.layout ∧
      IsNormalizing RequestFile.read RequestFile.dump RequestFile.layout :=
  ⟨⟨fun _ e _ => e.read_dump, Entry.fits⟩, ⟨fun _ a _ => a.read_dump, Auth.fits⟩,
    ⟨fun _ b _ => b.read_dump, Body.fits⟩, ⟨fun _ r _ => r.read_dump, Request.fits⟩,
    ⟨fun _ _ h => Response.read_dump (Response.isWellFormed_of_read h), Response.fits⟩,
    ⟨fun _ e _ => e.read_dump, Environment.fits⟩,
    ⟨fun _ _ h => Transport.read_dump (Transport.timeout_of_read h), Transport.fits⟩,
    ⟨fun _ c _ => c.read_dump, VariableCheck.fits⟩,
    ⟨fun _ _ h => Assertion.read_dump (Assertion.operandFault?_of_read h), Assertion.fits⟩,
    ⟨fun _ v _ => v.read_dump, Verdict.fits⟩,
    ⟨fun _ _ h => RequestFile.read_dump (RequestFile.operandFault?_of_read h), RequestFile.fits⟩⟩

/-- A request with a form field and a key, each under a spelling that is given. -/
def spelledRequest (formData apiKey : String) : Data :=
  .map [(.text "method", .text "POST"), (.text "url", .text "http://h.test/"),
    (.text "body", .map [(.text "type", .text "form_data"),
      (.text formData, .list [.map [(.text "key", .text "a"), (.text "value", .int 1)]])]),
    (.text "auth", .map [(.text "type", .text "apiKey"), (.text apiKey, .text "secret")])]

section Spelled

attribute [local simp] Request.layout Body.layout Auth.layout Entry.layout Body.formDataField
  Auth.apiKeyField Auth.apiKeyHeaderField FieldName.plain FieldName.isSpelledBy FieldName.entries
  asItems

/-- `models_normalize` at a request with fields spelled in two ways, two levels down. -/
theorem models_normalize_spelled :
    Request.layout.GivenOnce (spelledRequest "form_data" "api_key") ∧
      Request.layout.Respells (spelledRequest "form_data" "api_key")
        (spelledRequest "formData" "apiKey") ∧
      ∃ r, Request.read (spelledRequest "form_data" "api_key") = .accepted r ∧
        (Request.read (spelledRequest "formData" "apiKey")).value? = some r ∧
        r.auth.apiKey = some (.ofString "secret") ∧ Request.read r.dump = .accepted r := by
  have honce : Request.layout.GivenOnce (spelledRequest "form_data" "api_key") := by
    simp [spelledRequest, Layout.GivenOnce, FieldsGivenOnce, List.forall_mem_cons, -Prod.forall,
      -List.mem_cons, -forall_eq_or_imp]
  have hrespells : Request.layout.Respells (spelledRequest "form_data" "api_key")
      (spelledRequest "formData" "apiKey") := by
    simp [spelledRequest, Layout.Respells, EntryRespells]
  have hread : ((Request.read (spelledRequest "form_data" "api_key")).value?.any
      fun r => decide (r.auth.apiKey = some (.ofString "secret"))) = true := by
    decide +kernel
  obtain ⟨-, -, -, hrequest, -⟩ := models_normalize
  refine ⟨honce, hrespells, ?_⟩
  rw [hrequest.respelled _ _ honce hrespells]
  cases hfound : Request.read (spelledRequest "form_data" "api_key") with
  | accepted r =>
    rw [hfound] at hread
    exact ⟨r, rfl, rfl, of_decide_eq_true hread, hrequest.read_dump _ r hfound⟩
  | refused issues =>
    rw [hfound] at hread
    cases hread

end Spelled

end Courier
