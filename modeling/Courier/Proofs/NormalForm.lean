import Courier.Model.Assertion
import Courier.Model.Environment
import Courier.Model.Response
import Courier.Model.Transport
import Courier.Proofs.Layout
import Courier.Proofs.TextCodes

/-!
# Models in normal form

Whatever a model is read from, writing it as a mapping and reading that gives the same model, and
the spelling of its fields does not matter (`models_normalize`). For most models every value is read
back from its mapping (`Request.read_dump` and its like). A response, transport settings and an
assertion have rules that not every value keeps; what is read keeps them, and what keeps them is read
back.
-/

namespace Courier

open Schema

/-! ## Scalars and lists -/

/-- A text is read from its value. -/
theorem asText_ofCodeText (coerce : Bool) (t : CodeText) :
    asText coerce (.ofCodeText t) = .accepted t := by
  rcases Data.ofCodeText_cases t with ⟨s, rfl, htext⟩ | ⟨-, hbroken⟩
  · rw [htext]
    rfl
  · rw [hbroken, asText, CodeText.ofCodes_codes]

/-- An optional text is read from its mapping's value. -/
theorem asOptionalText_optionalText (coerce : Bool) (t : Option CodeText) :
    asOptionalText coerce (optionalText t) = .accepted t := by
  cases t with
  | none => rfl
  | some t =>
    have hread : asOptionalText coerce (.ofCodeText t) = (asText coerce (.ofCodeText t)).map some := by
      rcases Data.ofCodeText_cases t with ⟨s, rfl, htext⟩ | ⟨-, hbroken⟩
      · rw [htext]
        rfl
      · rw [hbroken]
        rfl
    show asOptionalText coerce (.ofCodeText t) = _
    rw [hread, asText_ofCodeText]
    rfl

/-- A text of characters is read from its value. -/
theorem asCharacters_text (s : String) : asCharacters (.text s) = .accepted s := by
  have haccepted : asText false (.text s) = .accepted (CodeText.ofString s) := rfl
  simp only [asCharacters, haccepted, Check.andThen, CodeText.toString?_ofString]

/-- A list is read back if its items are. -/
theorem asList_dumpList {α : Type} {read : Data → Check α} {dump : α → Data} {xs : List α}
    (h : ∀ x ∈ xs, read (dump x) = .accepted x) : asList read (dumpList dump xs) = .accepted xs :=
  Check.each_map h 0

theorem AuthScheme.read_name (s : AuthScheme) : AuthScheme.read (.text s.name) = .accepted s := by
  cases s <;> rfl

theorem BodyKind.read_name (k : BodyKind) : BodyKind.read (.text k.name) = .accepted k := by
  cases k <;> rfl

theorem Subject.read_name (s : Subject) : Subject.read (.text s.name) = .accepted s := by
  cases s <;> rfl

theorem Operator.read_name (o : Operator) : Operator.read (.text o.name) = .accepted o := by
  cases o <;> rfl

/-! ## Models that are read back -/

section Dump

attribute [local simp] asRecord FieldName.plain FieldName.find? FieldName.required
  FieldName.optional onlyFields_of_names asText_ofCodeText asBool asOptionalText_optionalText asList_dumpList
  AuthScheme.read_name BodyKind.read_name Subject.read_name Operator.read_name

theorem Entry.read_dump (e : Entry) : read e.dump = .accepted e := by
  simp [read, dump]

theorem Auth.read_dump (a : Auth) : read a.dump = .accepted a := by
  simp [read, dump, apiKeyField, apiKeyHeaderField]

theorem Body.read_dump (b : Body) : read b.dump = .accepted b := by
  obtain ⟨kind, content, formData⟩ := b
  cases formData with
  | none => simp [read, dump, formDataField, readFormData]
  | some fields =>
    have hfields : readFormData (dumpList Entry.dump fields) = .accepted (some fields) := by
      show (asList Entry.read (dumpList Entry.dump fields)).map some = _
      rw [asList_dumpList fun e _ => e.read_dump]
      rfl
    simp [read, dump, formDataField, hfields]

theorem Request.read_dump (r : Request) : read r.dump = .accepted r := by
  simp [read, dump, Entry.read_dump, Body.read_dump, Auth.read_dump]

theorem Environment.read_dump (e : Environment) : read e.dump = .accepted e := by
  simp [read, dump, Entry.read_dump]

theorem VariableCheck.read_dump (c : VariableCheck) : read c.dump = .accepted c := by
  have hlist : ∀ ts, asList (asText false) (dumpList .ofCodeText ts) = .accepted ts :=
    fun ts => asList_dumpList fun t _ => asText_ofCodeText false t
  simp [read, dump, fields, hlist]

theorem Verdict.read_dump (v : Verdict) : read v.dump = .accepted v := by
  simp [read, dump, fields]

/-- Transport settings are read back if the time is positive. -/
theorem Transport.read_dump {t : Transport} (h : (Double.zero false).lt t.timeout = true) :
    read t.dump = .accepted t := by
  have htimeout : readTimeout (.float t.timeout) = .accepted t.timeout := if_pos h
  simp [read, dump, fields, htimeout]

/-- An assertion is read back if it keeps the rules on its operands. -/
theorem Assertion.read_dump {a : Assertion} (h : a.operandFault? = none) :
    read a.dump = .accepted a := by
  simp [read, dump, fields, checkOperands, h]

/-- A request file is read back if its assertions keep the rules on their operands. -/
theorem RequestFile.read_dump {f : RequestFile}
    (h : ∀ a ∈ f.assertions, a.operandFault? = none) : read f.dump = .accepted f := by
  have hassertions : ∀ a ∈ f.assertions, Assertion.read a.dump = .accepted a :=
    fun a ha => Assertion.read_dump (h a ha)
  simp [read, dump, Request.read_dump, asList_dumpList hassertions]

/-- Whether a response keeps the rules on its fields: the status, the time and the size lie in their
ranges, and no header has two values. -/
structure Response.IsWellFormed (r : Response) : Prop where
  status : 0 ≤ r.status ∧ r.status ≤ maxStatus
  headers : (r.headers.map Prod.fst).Nodup
  time : 0 ≤ r.time
  size : 0 ≤ r.size

/-- Texts with distinct names are read from their mapping. -/
theorem asTextMap_texts {texts : List (String × String)} (h : (texts.map Prod.fst).Nodup) :
    asTextMap (.map (texts.map fun t => (.text t.1, .text t.2))) = .accepted texts := by
  unfold asTextMap
  simp only
  induction texts with
  | nil => rfl
  | cons t rest ih =>
    obtain ⟨hnew, hrest⟩ := List.nodup_cons.1 h
    rw [List.map_cons, List.foldr_cons, ih hrest, asCharacters_text, asCharacters_text]
    show Check.accepted (putText t.1 t.2 rest) = _
    -- The name is new, so nothing is taken out for it and the text is its own.
    have hother : ∀ e ∈ rest, e.1 ≠ t.1 := fun e he heq =>
      hnew (heq ▸ List.mem_map_of_mem he)
    have hlookup : rest.lookup t.1 = none :=
      List.lookup_eq_none_iff.2 fun e he => bne_iff_ne.2 (hother e he).symm
    have hfilter : rest.filter (fun e => e.1 != t.1) = rest :=
      List.filter_eq_self.2 fun e he => bne_iff_ne.2 (hother e he)
    rw [putText, hlookup, hfilter]
    rfl

/-- A response is read back if it keeps the rules on its fields. -/
theorem Response.read_dump {r : Response} (h : r.IsWellFormed) : read r.dump = .accepted r := by
  have hstatus : readCount (some maxStatus) (.int r.status) = .accepted r.status := by
    show inRange 0 (some maxStatus) r.status = _
    rw [inRange, if_neg (Int.not_lt.2 h.status.2), if_neg (Int.not_lt.2 h.status.1)]
  have hcount : ∀ {n : Int}, 0 ≤ n → readCount none (.int n) = .accepted n :=
    fun hn => if_neg (Int.not_lt.2 hn)
  have hheaders := asTextMap_texts h.headers
  simp [read, dump, fields, statusTextField, hstatus, hcount h.time, hcount h.size, hheaders,
    asCharacters_text]

end Dump

/-! ## What is read keeps the rules -/

/-- Texts with another one in front have distinct names. -/
theorem nodup_putText (name text : String) {texts : List (String × String)}
    (h : (texts.map Prod.fst).Nodup) : ((putText name text texts).map Prod.fst).Nodup := by
  rw [putText, List.map_cons, List.nodup_cons]
  constructor
  · intro hmem
    obtain ⟨e, he, heq⟩ := List.mem_map.1 hmem
    exact bne_iff_ne.1 (List.mem_filter.1 he).2 heq
  · exact h.sublist (List.filter_sublist.map _)

/-- A mapping is read as texts with distinct names. -/
theorem nodup_of_asTextMap {v : Data} {texts : List (String × String)}
    (h : asTextMap v = .accepted texts) : (texts.map Prod.fst).Nodup := by
  unfold asTextMap at h
  split at h
  · rename_i entries
    induction entries generalizing texts with
    | nil =>
      cases h
      exact List.nodup_nil
    | cons e rest ih =>
      rw [List.foldr_cons] at h
      obtain ⟨put, others, hput, hothers, rfl⟩ := Check.seq_eq_accepted_iff.1 h
      obtain ⟨name, text, hname, -, rfl⟩ := Check.seq_eq_accepted_iff.1 hput
      obtain ⟨name, -, rfl⟩ := Check.map_eq_accepted_iff.1 hname
      exact nodup_putText name text (ih hothers)
  · cases h

/-- What is read as a count lies in its range. -/
theorem of_readCount {greatest : Option Int} {v : Data} {n : Int}
    (h : Response.readCount greatest v = .accepted n) : 0 ≤ n ∧ ∀ g ∈ greatest, n ≤ g := by
  obtain ⟨m, -, hrange⟩ := Check.andThen_eq_accepted_iff.1 h
  unfold inRange at hrange
  split at hrange
  · split at hrange
    · cases hrange
    · split at hrange
      · cases hrange
      · cases hrange
        rename_i hmost hleast
        exact ⟨Int.not_lt.1 hleast, fun g hg => Option.some.inj hg ▸ Int.not_lt.1 hmost⟩
  · split at hrange
    · cases hrange
    · cases hrange
      rename_i hleast
      exact ⟨Int.not_lt.1 hleast, nofun⟩

/-- What is read as a response keeps the rules on its fields. -/
theorem Response.isWellFormed_of_read {v : Data} {r : Response} (h : read v = .accepted r) :
    r.IsWellFormed := by
  obtain ⟨es, -, hfields⟩ := Check.andThen_eq_accepted_iff.1 h
  simp only [Check.seq_eq_accepted_iff, Check.map_eq_accepted_iff] at hfields
  -- The chain is taken apart from its last check to its first one.
  obtain ⟨-, -, ⟨-, size, ⟨-, time, ⟨-, -, ⟨-, headers, ⟨-, -, ⟨status, hstatus, rfl⟩, -, rfl⟩,
    hheaders, rfl⟩, -, rfl⟩, htime, rfl⟩, hsize, rfl⟩, -, rfl⟩ := hfields
  obtain ⟨_, hstatus⟩ := exists_of_required hstatus
  obtain ⟨_, htime⟩ := exists_of_required htime
  obtain ⟨_, hsize⟩ := exists_of_required hsize
  obtain ⟨hleast, hmost⟩ := of_readCount hstatus
  refine ⟨⟨hleast, hmost _ rfl⟩, ?_, (of_readCount htime).1, (of_readCount hsize).1⟩
  obtain rfl | ⟨w, hw⟩ := eq_or_exists_of_optional hheaders
  · exact List.nodup_nil
  · exact nodup_of_asTextMap hw

/-- What is read as transport settings has a positive time. -/
theorem Transport.timeout_of_read {v : Data} {t : Transport} (h : read v = .accepted t) :
    (Double.zero false).lt t.timeout = true := by
  obtain ⟨es, -, hfields⟩ := Check.andThen_eq_accepted_iff.1 h
  simp only [Check.seq_eq_accepted_iff, Check.map_eq_accepted_iff] at hfields
  obtain ⟨-, -, ⟨-, -, ⟨-, -, ⟨-, -, ⟨timeout, htimeout, rfl⟩, -, rfl⟩, -, rfl⟩, -, rfl⟩, -, rfl⟩ :=
    hfields
  obtain rfl | ⟨w, hw⟩ := eq_or_exists_of_optional htimeout
  · show (Double.zero false).lt defaultTimeout = true
    decide +kernel
  · obtain ⟨x, -, hx⟩ := Check.andThen_eq_accepted_iff.1 hw
    split at hx
    · cases hx
      assumption
    · cases hx

/-- What is read as an assertion keeps the rules on its operands. -/
theorem Assertion.operandFault?_of_read {v : Data} {a : Assertion} (h : read v = .accepted a) :
    a.operandFault? = none := by
  obtain ⟨b, -, hb⟩ := Check.andThen_eq_accepted_iff.1 h
  unfold checkOperands at hb
  split at hb
  · cases hb
  · cases hb
    assumption

/-- So do the assertions of what is read as a request file. -/
theorem RequestFile.operandFault?_of_read {v : Data} {f : RequestFile} (h : read v = .accepted f) :
    ∀ a ∈ f.assertions, a.operandFault? = none := by
  obtain ⟨es, -, hfields⟩ := Check.andThen_eq_accepted_iff.1 h
  simp only [Check.seq_eq_accepted_iff, Check.map_eq_accepted_iff] at hfields
  obtain ⟨-, assertions, ⟨-, -, rfl⟩, hassertions, rfl⟩ := hfields
  obtain rfl | ⟨w, hw⟩ := eq_or_exists_of_optional hassertions
  · nofun
  · obtain ⟨items, -, hitems⟩ := Check.andThen_eq_accepted_iff.1 hw
    intro a ha
    obtain ⟨item, hitem⟩ := Check.exists_of_each hitems a ha
    exact Assertion.operandFault?_of_read hitem

end Courier
