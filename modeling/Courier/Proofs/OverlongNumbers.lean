import Courier.Model.Assertion
import Courier.Model.Environment
import Courier.Model.Transport
import Courier.Proofs.Record

/-!
# Integers that are too long for a text

Reading a model stops at an integer that should be a text and has too many digits, whatever else
there is. Which fields these are is said field by field (`Request.HasOverlong`,
`Environment.HasOverlong`), and reading stops exactly if there is such an integer
(`Request.read_eq_overlong_iff`, `Environment.read_eq_overlong_iff`), because only a reader of texts
that takes numbers for them can stop (`asText_eq_overlong_iff`). Assertions and transport settings
have no texts that a number may stand for.
-/

namespace Courier

open Schema

/-- Whether a value is an integer of too many digits to be written. -/
def Data.IsOverlong (v : Data) : Prop := ∃ n, v = .int n ∧ isWritable n = false

namespace Schema

/-- Whether a mapping has a field with a value that `p` holds of. -/
def FieldName.HasIn (f : FieldName) (p : Data → Prop) (es : List (Data × Data)) : Prop :=
  ∃ name v, f.find? es = some (name, v) ∧ p v

/-- Whether a value has items, and `p` holds of one of them. -/
def HasItem (p : Data → Prop) (v : Data) : Prop :=
  ∃ items, asItems v = .accepted items ∧ ∃ x ∈ items, p x

end Schema

/-! ## Where such an integer may stand -/

/-- Whether one of an entry's texts is an integer of too many digits. -/
def Entry.HasOverlong (v : Data) : Prop :=
  ∃ es, v = .map es ∧
    ((FieldName.plain "id").HasIn Data.IsOverlong es ∨
      (FieldName.plain "key").HasIn Data.IsOverlong es ∨
      (FieldName.plain "value").HasIn Data.IsOverlong es)

/-- Whether one of the texts of authentication settings is an integer of too many digits. -/
def Auth.HasOverlong (v : Data) : Prop :=
  ∃ es, v = .map es ∧
    ((FieldName.plain "username").HasIn Data.IsOverlong es ∨
      (FieldName.plain "password").HasIn Data.IsOverlong es ∨
      (FieldName.plain "token").HasIn Data.IsOverlong es ∨
      apiKeyField.HasIn Data.IsOverlong es ∨ apiKeyHeaderField.HasIn Data.IsOverlong es)

/-- Whether the content of a body or a text of its form fields is an integer of too many digits. -/
def Body.HasOverlong (v : Data) : Prop :=
  ∃ es, v = .map es ∧
    ((FieldName.plain "content").HasIn Data.IsOverlong es ∨
      formDataField.HasIn (HasItem Entry.HasOverlong) es)

/-- Whether a text of a request is an integer of too many digits. -/
def Request.HasOverlong (v : Data) : Prop :=
  ∃ es, v = .map es ∧
    ((FieldName.plain "method").HasIn Data.IsOverlong es ∨
      (FieldName.plain "url").HasIn Data.IsOverlong es ∨
      (FieldName.plain "headers").HasIn (HasItem Entry.HasOverlong) es ∨
      (FieldName.plain "params").HasIn (HasItem Entry.HasOverlong) es ∨
      (FieldName.plain "body").HasIn Body.HasOverlong es ∨
      (FieldName.plain "auth").HasIn Auth.HasOverlong es)

/-- Whether a text of an environment is an integer of too many digits. -/
def Environment.HasOverlong (v : Data) : Prop :=
  ∃ es, v = .map es ∧
    ((FieldName.plain "id").HasIn Data.IsOverlong es ∨
      (FieldName.plain "name").HasIn Data.IsOverlong es ∨
      (FieldName.plain "variables").HasIn (HasItem Entry.HasOverlong) es)

/-! ## Readers -/

namespace Schema

section Readers

variable {α : Type} {v : Data} {f : FieldName} {es : List (Data × Data)} {read : Data → Check α}

/-- A cause is an issue. -/
@[simp]
theorem refuse_ne_overlong (cause : Cause) :
    (Check.refuse cause : Check α) ≠ .refused .overlong := by
  simp [Check.refuse]

/-- A text is refused at once exactly if it is an integer of too many digits, where integers may
stand for texts. -/
theorem asText_eq_overlong_iff {coerce : Bool} :
    asText coerce v = .refused .overlong ↔ coerce = true ∧ v.IsOverlong := by
  unfold Data.IsOverlong
  cases v with
  | int n =>
    unfold asText
    cases coerce <;> by_cases h : isWritable n = true <;> simp [h]
  | float x => cases coerce <;> simp [asText]
  | bytes bs => cases h : Text.Utf8.decode? bs <;> simp [asText, h]
  | _ => simp [asText]

/-- The same for a text that may be missing. -/
theorem asOptionalText_eq_overlong_iff {coerce : Bool} :
    asOptionalText coerce v = .refused .overlong ↔ coerce = true ∧ v.IsOverlong := by
  have hmap : ∀ w, (asText coerce w).map some = .refused .overlong ↔
      asText coerce w = .refused .overlong :=
    fun w => Check.map_eq_overlong_iff (f := some) (c := asText coerce w)
  unfold asOptionalText
  split
  · exact iff_of_false nofun (by simp [Data.IsOverlong])
  · rw [hmap, asText_eq_overlong_iff]

/-- Truth values are read up to the end. -/
theorem asBool_ne_overlong (v : Data) : asBool v ≠ .refused .overlong := by
  have hword : ∀ s, boolWord s ≠ .refused .overlong := by
    intro s
    simp only [boolWord, ne_eq]
    split
    · simp
    · split <;> simp
  have hint : ∀ n, boolInt n ≠ .refused .overlong := by
    intro n
    unfold boolInt
    split
    · simp
    · split <;> simp
  unfold asBool
  split
  · simp
  · exact hword _
  · split
    · exact hword _
    · simp
  · simp
  · split
    · exact hint _
    · simp
  · split
    · split
      · exact hint _
      · simp
    · simp
  · simp

/-- Numbers are read up to the end. -/
theorem asNumber_ne_overlong (v : Data) : asNumber v ≠ .refused .overlong := by
  have hword : ∀ s, numberWord s ≠ .refused .overlong := by
    intro s
    simp only [numberWord, ne_eq]
    split <;> simp
  unfold asNumber
  split
  · simp
  · simp only
    split <;> simp
  · simp
  · exact hword _
  · simp
  · split
    · exact hword _
    · simp
  · simp

/-- Choices are read up to the end. -/
theorem asChoice_ne_overlong (choices : List (String × α)) (respell : String → Option String)
    (v : Data) : asChoice choices respell v ≠ .refused .overlong := by
  simp only [asChoice, ne_eq]
  split <;> simp

/-- Entries that no field has read are issues. -/
theorem onlyFields_ne_overlong (fields : List FieldName) (es : List (Data × Data)) :
    onlyFields fields es ≠ .refused .overlong := by
  simp only [onlyFields, ne_eq]
  split <;> simp

/-- A list stops at one of its items. -/
theorem asList_eq_overlong_iff :
    asList read v = .refused .overlong ↔ HasItem (fun x => read x = .refused .overlong) v := by
  have hitems : asItems v ≠ .refused .overlong := by
    cases v <;> simp [asItems]
  unfold asList HasItem
  simp only [Check.andThen_eq_overlong_iff, hitems, false_or, Check.each_eq_overlong_iff]

/-- A record stops at what is read from its entries. -/
theorem asRecord_andThen_eq_overlong_iff {name : String}
    {check : List (Data × Data) → Check α} :
    (asRecord name v).andThen check = .refused .overlong ↔
      ∃ es, v = .map es ∧ check es = .refused .overlong := by
  cases v <;> simp [asRecord, Check.andThen_eq_overlong_iff, Check.refuse]

/-- What a field has is its value. -/
theorem hasIn_iff {p : Data → Prop} {found : String × Data} (h : f.find? es = some found) :
    f.HasIn p es ↔ p found.2 := by
  constructor
  · rintro ⟨name, v, hfound, hv⟩
    rw [h] at hfound
    cases hfound
    exact hv
  · intro hv
    exact ⟨_, _, h, hv⟩

/-- A field that is missing has nothing. -/
theorem not_hasIn_of_missing {p : Data → Prop} (h : f.find? es = none) : ¬f.HasIn p es := by
  rintro ⟨name, v, hfound, -⟩
  rw [h] at hfound
  cases hfound

/-- A field that must be there stops at its value. -/
theorem required_eq_overlong_iff :
    f.required read es = .refused .overlong ↔
      f.HasIn (fun v => read v = .refused .overlong) es := by
  unfold FieldName.required
  cases hfind : f.find? es with
  | none => simp [not_hasIn_of_missing hfind]
  | some found => rw [hasIn_iff hfind, Check.under_eq_overlong_iff]

/-- So does a field with a default. -/
theorem optional_eq_overlong_iff {default : α} :
    f.optional default read es = .refused .overlong ↔
      f.HasIn (fun v => read v = .refused .overlong) es := by
  unfold FieldName.optional
  cases hfind : f.find? es with
  | none => simp [not_hasIn_of_missing hfind]
  | some found => rw [hasIn_iff hfind, Check.under_eq_overlong_iff]

/-- No field has a value that nothing holds of. -/
theorem not_hasIn (f : FieldName) (es : List (Data × Data)) : ¬f.HasIn (fun _ => False) es := by
  rintro ⟨-, -, -, ⟨⟩⟩

end Readers

end Schema

/-! ## Models -/

/-- Reading an entry stops exactly if one of its texts is too long. -/
theorem Entry.read_eq_overlong_iff (v : Data) :
    Entry.read v = .refused .overlong ↔ Entry.HasOverlong v := by
  unfold read HasOverlong
  simp only [asRecord_andThen_eq_overlong_iff, Check.seq_eq_overlong_iff,
    Check.map_eq_overlong_iff, optional_eq_overlong_iff, asText_eq_overlong_iff, true_and,
    asBool_ne_overlong, not_hasIn, or_false, or_assoc]

/-- Reading authentication settings stops exactly if one of their texts is too long. -/
theorem Auth.read_eq_overlong_iff (v : Data) :
    Auth.read v = .refused .overlong ↔ Auth.HasOverlong v := by
  unfold read HasOverlong
  simp only [asRecord_andThen_eq_overlong_iff, Check.seq_eq_overlong_iff,
    Check.map_eq_overlong_iff, optional_eq_overlong_iff, asOptionalText_eq_overlong_iff, true_and,
    AuthScheme.read, asChoice_ne_overlong, not_hasIn, false_or, or_assoc]

/-- Reading a body stops exactly if its content or a text of its form fields is too long. -/
theorem Body.read_eq_overlong_iff (v : Data) :
    Body.read v = .refused .overlong ↔ Body.HasOverlong v := by
  have hmap : ∀ w, (asList Entry.read w).map some = .refused .overlong ↔
      asList Entry.read w = .refused .overlong :=
    fun w => Check.map_eq_overlong_iff (f := some) (c := asList Entry.read w)
  have hform : ∀ w, readFormData w = .refused .overlong ↔ HasItem Entry.HasOverlong w := by
    intro w
    unfold readFormData
    split
    · exact iff_of_false nofun fun ⟨_, hitems, _⟩ => nomatch hitems
    · rw [hmap, asList_eq_overlong_iff]
      simp only [Entry.read_eq_overlong_iff]
  unfold read HasOverlong
  simp only [asRecord_andThen_eq_overlong_iff, Check.seq_eq_overlong_iff,
    Check.map_eq_overlong_iff, optional_eq_overlong_iff, asOptionalText_eq_overlong_iff, true_and,
    BodyKind.read, asChoice_ne_overlong, not_hasIn, false_or, hform]

/-- Reading a request stops exactly if one of its texts is too long. -/
theorem Request.read_eq_overlong_iff (v : Data) :
    Request.read v = .refused .overlong ↔ Request.HasOverlong v := by
  unfold read HasOverlong
  simp only [asRecord_andThen_eq_overlong_iff, Check.seq_eq_overlong_iff,
    Check.map_eq_overlong_iff, required_eq_overlong_iff, optional_eq_overlong_iff,
    asText_eq_overlong_iff, true_and, asList_eq_overlong_iff, Entry.read_eq_overlong_iff,
    Body.read_eq_overlong_iff, Auth.read_eq_overlong_iff, or_assoc]

/-- Reading an environment stops exactly if one of its texts is too long. -/
theorem Environment.read_eq_overlong_iff (v : Data) :
    Environment.read v = .refused .overlong ↔ Environment.HasOverlong v := by
  unfold read HasOverlong
  simp only [asRecord_andThen_eq_overlong_iff, Check.seq_eq_overlong_iff,
    Check.map_eq_overlong_iff, optional_eq_overlong_iff, asText_eq_overlong_iff, true_and,
    asList_eq_overlong_iff, Entry.read_eq_overlong_iff, or_assoc]

/-- Texts that no number stands for are read up to the end. -/
theorem asOptionalText_false_ne_overlong (v : Data) :
    asOptionalText false v ≠ .refused .overlong := by
  rw [ne_eq, asOptionalText_eq_overlong_iff]
  simp

/-- Reading transport settings does not stop. -/
theorem Transport.read_ne_overlong (v : Data) : Transport.read v ≠ .refused .overlong := by
  have htimeout : ∀ w, readTimeout w ≠ .refused .overlong := by
    intro w
    rw [readTimeout, ne_eq, Check.andThen_eq_overlong_iff]
    rintro (h | ⟨x, -, h⟩)
    · exact asNumber_ne_overlong w h
    · split at h <;> cases h
  unfold read
  simp only [ne_eq, asRecord_andThen_eq_overlong_iff, Check.seq_eq_overlong_iff,
    Check.map_eq_overlong_iff, optional_eq_overlong_iff, htimeout, asBool_ne_overlong,
    asOptionalText_false_ne_overlong, not_hasIn, onlyFields_ne_overlong, or_self, and_false,
    exists_false, not_false_eq_true]

/-- Reading an assertion does not stop: whatever is expected is kept as it is. -/
theorem Assertion.read_ne_overlong (v : Data) : Assertion.read v ≠ .refused .overlong := by
  have hrules : ∀ a : Assertion, a.checkOperands ≠ .refused .overlong := by
    intro a
    unfold checkOperands
    split <;> simp
  have hkept : ∀ w : Data, Check.accepted w ≠ .refused .overlong := by
    intro w h
    cases h
  unfold read
  rw [ne_eq, Check.andThen_eq_overlong_iff]
  simp only [asRecord_andThen_eq_overlong_iff, Check.seq_eq_overlong_iff,
    Check.map_eq_overlong_iff, required_eq_overlong_iff, optional_eq_overlong_iff,
    Subject.read, Operator.read, asOptionalText_false_ne_overlong, asChoice_ne_overlong, hkept,
    not_hasIn, onlyFields_ne_overlong, hrules, or_self, and_false, exists_false,
    not_false_eq_true]

end Courier
