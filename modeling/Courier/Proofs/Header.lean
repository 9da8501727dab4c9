import Courier.Header
import Courier.Proofs.Basic

/-!
# Writing headers

Headers that are written one after another have distinct names, in the order in which the names are
first written (`names_setAll`), and each is the last write of its name (`mem_setAll_iff`).

Both are inductions on the writes from their end. A single write keeps the names in their places and
adds a new one behind them (`names_set`), and what is left besides the write itself are the headers
of other names (`mem_set_iff`).

The last part looks at one name alone: its fields, in order, after each of the ways in which headers
are changed. A write leaves itself as the only field of its name and does not touch other names
(`fields_set`), and the ways that only complete headers do not touch a name that is there.
-/

namespace Courier.Headers

/-- The names of headers, in lower case. -/
def names (hs : Headers) : List String :=
  hs.map fun h => Text.lowerAscii h.1

/-- Names are the same if they are in lower case. -/
theorem sameName_iff {a b : String} :
    sameName a b = true ↔ Text.lowerAscii a = Text.lowerAscii b := by
  rw [sameName, beq_iff_eq]

/-- A name is the same as itself. -/
theorem sameName_self (name : String) : sameName name name = true :=
  sameName_iff.2 rfl

/-- It does not matter which of two names comes first. -/
theorem sameName_comm (a b : String) : sameName a b = sameName b a := by
  rw [Bool.eq_iff_iff, sameName_iff, sameName_iff]
  exact eq_comm

/-- There is a header of a name if the name is among the names. -/
theorem has_iff {hs : Headers} {name : String} :
    hs.has name = true ↔ Text.lowerAscii name ∈ hs.names := by
  rw [has, List.any_eq_true, names, List.mem_map]
  constructor
  · rintro ⟨h, hmem, hname⟩
    exact ⟨h, hmem, sameName_iff.1 hname⟩
  · rintro ⟨h, hmem, hname⟩
    exact ⟨h, hmem, sameName_iff.2 hname⟩

/-- Nothing is erased of a name that there is not. -/
theorem erase_of_notMem {hs : Headers} {name : String} (h : Text.lowerAscii name ∉ hs.names) :
    hs.erase name = hs := by
  refine List.filter_eq_self.2 fun p hp => ?_
  rw [Bool.not_eq_true', ← Bool.not_eq_true]
  intro hname
  refine h (List.mem_map.2 ⟨p, hp, ?_⟩)
  exact sameName_iff.1 hname

/-! ## One write -/

/-- A write keeps the names in their places, and a new name comes last. -/
theorem names_set {hs : Headers} (hd : hs.names.Nodup) (name value : String) :
    (hs.set name value).names =
      if Text.lowerAscii name ∈ hs.names then hs.names
      else hs.names ++ [Text.lowerAscii name] := by
  induction hs with
  | nil => rfl
  | cons h rest ih =>
    obtain ⟨hhead, htail⟩ : Text.lowerAscii h.1 ∉ names rest ∧ (names rest).Nodup :=
      List.nodup_cons.1 hd
    unfold set
    by_cases hname : sameName h.1 name = true
    · -- the first header of the name is the only one
      rw [sameName_iff] at hname
      rw [hname] at hhead
      rw [if_pos (sameName_iff.2 hname), erase_of_notMem hhead, if_pos]
      · simp [names, hname]
      · simp [names, hname]
    · have hne : Text.lowerAscii name ≠ Text.lowerAscii h.1 := fun e =>
        hname (sameName_iff.2 e.symm)
      have hmem : Text.lowerAscii name ∈ names (h :: rest) ↔
          Text.lowerAscii name ∈ names rest := by
        simp [names, hne]
      rw [if_neg hname]
      change Text.lowerAscii h.1 :: (set rest name value).names = _
      rw [ih htail]
      by_cases hrest : Text.lowerAscii name ∈ names rest
      · rw [if_pos hrest, if_pos (hmem.2 hrest)]
        rfl
      · rw [if_neg hrest, if_neg fun hm => hrest (hmem.1 hm)]
        rfl

/-- After a write there are the write and the headers of other names. -/
theorem mem_set_iff {hs : Headers} {name value : String} {p : String × String} :
    p ∈ hs.set name value ↔ p = (name, value) ∨ p ∈ hs ∧ sameName p.1 name = false := by
  induction hs with
  | nil => simp [set]
  | cons h rest ih =>
    unfold set
    by_cases hname : sameName h.1 name = true
    · rw [if_pos hname, List.mem_cons, List.mem_cons, erase, List.mem_filter]
      constructor
      · rintro (rfl | ⟨hp, hother⟩)
        · exact .inl rfl
        · exact .inr ⟨.inr hp, by simpa using hother⟩
      · rintro (rfl | ⟨rfl | hp, hother⟩)
        · exact .inl rfl
        · rw [hother] at hname
          cases hname
        · exact .inr ⟨hp, by simpa using hother⟩
    · rw [if_neg hname, List.mem_cons, List.mem_cons, ih]
      constructor
      · rintro (rfl | rfl | ⟨hp, hother⟩)
        · exact .inr ⟨.inl rfl, by simpa using hname⟩
        · exact .inl rfl
        · exact .inr ⟨.inr hp, hother⟩
      · rintro (rfl | ⟨rfl | hp, hother⟩)
        · exact .inr (.inl rfl)
        · exact .inl rfl
        · exact .inr (.inr ⟨hp, hother⟩)

/-! ## All writes -/

/-- The last of some writes comes after the others. -/
theorem setAll_append_singleton (hs writes : Headers) (w : String × String) :
    hs.setAll (writes ++ [w]) = (hs.setAll writes).set w.1 w.2 := by
  rw [setAll, List.foldl_append]
  rfl

/-- The names that are written come in the order in which they are first written, each once. -/
theorem names_setAll (writes : Headers) :
    (setAll [] writes).names = (names writes).eraseDups := by
  induction writes using List.reverseRecOn with
  | nil => rfl
  | append_singleton writes w ih =>
    have hnodup : (setAll [] writes).names.Nodup := by
      rw [ih]
      exact nodup_eraseDups _
    have hsplit : names (writes ++ [w]) = names writes ++ [Text.lowerAscii w.1] :=
      List.map_append
    rw [setAll_append_singleton, names_set hnodup, hsplit, eraseDups_append_singleton, ih]
    simp only [List.mem_eraseDups]

/-- The headers that are there in the end are of different names. -/
theorem pairwise_setAll (writes : Headers) :
    (setAll [] writes).Pairwise fun a b => sameName a.1 b.1 = false := by
  have hnodup : (setAll [] writes).names.Nodup := by
    rw [names_setAll]
    exact nodup_eraseDups _
  refine (List.pairwise_map.1 hnodup).imp fun {a b} hne => ?_
  rw [← Bool.not_eq_true, sameName_iff]
  exact hne

/-- The headers that are there in the end are the last writes of their names. -/
theorem mem_setAll_iff {writes : Headers} {p : String × String} :
    p ∈ setAll [] writes ↔
      ∃ earlier later, writes = earlier ++ p :: later ∧ ∀ w ∈ later, sameName w.1 p.1 = false := by
  induction writes using List.reverseRecOn with
  | nil => simp [setAll]
  | append_singleton writes w ih =>
    rw [setAll_append_singleton, mem_set_iff, ih]
    constructor
    · -- a header that was there is the last write of its name if this write is of another one
      rintro (rfl | ⟨⟨earlier, later, rfl, hlater⟩, hw⟩)
      · exact ⟨writes, [], rfl, by simp⟩
      · refine ⟨earlier, later ++ [w], by simp, ?_⟩
        intro v hv
        rcases List.mem_append.1 hv with hv | hv
        · exact hlater v hv
        · rw [List.mem_singleton.1 hv, sameName_comm]
          exact hw
    · rintro ⟨earlier, later, he, hlater⟩
      -- the write is the last of all, or it comes before the last
      rcases List.eq_nil_or_concat later with rfl | ⟨later, v, rfl⟩
      · exact .inl (List.append_singleton_inj.1 he).2.symm
      · rw [List.concat_eq_append, ← List.cons_append, ← List.append_assoc] at he
        obtain ⟨hwrites, rfl⟩ := List.append_singleton_inj.1 he
        refine .inr ⟨⟨earlier, later, hwrites, fun u hu => hlater u (by simp [hu])⟩, ?_⟩
        rw [sameName_comm]
        exact hlater w (by simp)

/-! ## The fields of one name -/

/-- The fields of a name, in order. -/
def fields (hs : Headers) (name : String) : Headers :=
  hs.filter fun h => sameName h.1 name

/-- The last of some headers with its name. -/
def IsLast (hs : Headers) (p : String × String) : Prop :=
  ∃ earlier later, hs = earlier ++ p :: later ∧ ∀ h ∈ later, sameName h.1 p.1 = false

/-- Names that are the same are the same as the same names. -/
theorem sameName_congr {a b : String} (h : sameName a b = true) (c : String) :
    sameName a c = sameName b c := by
  rw [sameName_iff] at h
  rw [sameName, sameName, h]

/-- The fields of a name, one header at a time. -/
theorem fields_cons (h : String × String) (rest : Headers) (name : String) :
    fields (h :: rest) name =
      if sameName h.1 name = true then h :: fields rest name else fields rest name := by
  rw [fields, List.filter_cons]
  rfl

/-- The fields of a name in two lists of headers. -/
theorem fields_append (hs later : Headers) (name : String) :
    fields (hs ++ later) name = fields hs name ++ fields later name :=
  List.filter_append hs later

/-- A name that headers do not have has no fields. -/
theorem fields_eq_nil_iff {hs : Headers} {name : String} :
    hs.fields name = [] ↔ hs.has name = false := by
  rw [fields, List.filter_eq_nil_iff, has, List.any_eq_false]

/-- A name with a field is there. -/
theorem has_of_mem_fields {hs : Headers} {name : String} {f : String × String}
    (hf : f ∈ hs.fields name) : hs.has name = true := by
  rw [← Bool.not_eq_false, ← fields_eq_nil_iff]
  exact List.ne_nil_of_mem hf

/-- Headers with the same fields of a name have it or do not. -/
theorem has_of_fields_eq {hs other : Headers} {name : String}
    (h : other.fields name = hs.fields name) : other.has name = hs.has name := by
  rw [Bool.eq_iff_iff, ← not_iff_not, Bool.not_eq_true, Bool.not_eq_true, ← fields_eq_nil_iff,
    ← fields_eq_nil_iff, h]

/-- It does not matter by which of its spellings a name is looked for. -/
theorem has_congr {hs : Headers} {a b : String} (h : sameName a b = true) :
    hs.has a = hs.has b := by
  rw [Bool.eq_iff_iff, has_iff, has_iff, sameName_iff.1 h]

/-- The fields of a name do not depend on its spelling. -/
theorem fields_congr {a b : String} (h : sameName a b = true) (hs : Headers) :
    hs.fields a = hs.fields b := by
  refine List.filter_congr fun p _ => ?_
  rw [sameName_comm, sameName_congr h, sameName_comm]

/-- A name that is there has a last header. -/
theorem exists_isLast {hs : Headers} {name : String} (h : hs.has name = true) :
    ∃ p, IsLast hs p ∧ sameName p.1 name = true := by
  induction hs using List.reverseRecOn with
  | nil => cases h
  | append_singleton hs w ih =>
    by_cases hw : sameName w.1 name = true
    · exact ⟨w, ⟨hs, [], rfl, by simp⟩, hw⟩
    · have hbefore : has hs name = true := by
        rw [← h, has, has, List.any_append]
        simp [hw]
      obtain ⟨p, ⟨earlier, later, rfl, hlater⟩, hp⟩ := ih hbefore
      refine ⟨p, ⟨earlier, later ++ [w], by simp, ?_⟩, hp⟩
      intro v hv
      rcases List.mem_append.1 hv with hv | hv
      · exact hlater v hv
      · rw [List.mem_singleton.1 hv, sameName_comm, sameName_congr hp, sameName_comm]
        simpa using hw

/-- Nothing is left of a name that is erased, by whichever of its spellings. -/
theorem fields_erase_of_same {name other : String} (h : sameName name other = true)
    (hs : Headers) : (hs.erase name).fields other = [] := by
  refine List.filter_eq_nil_iff.2 fun p hp => ?_
  have hp := (List.mem_filter.1 hp).2
  rw [sameName_comm, sameName_congr h, sameName_comm] at hp
  simpa using hp

/-- The fields of other names are not erased. -/
theorem fields_erase_of_ne {name other : String} (h : ¬sameName name other = true)
    (hs : Headers) : (hs.erase name).fields other = hs.fields other := by
  rw [fields, erase, List.filter_filter]
  refine List.filter_congr fun p _ => ?_
  by_cases hp : sameName p.1 name = true
  · rw [sameName_congr hp]
    simp [h]
  · simp [hp]

/-- A write is the only field of its name, and the fields of other names stay. -/
theorem fields_set (hs : Headers) (name value other : String) :
    (Headers.set hs name value).fields other =
      if sameName name other = true then [(name, value)] else hs.fields other := by
  induction hs with
  | nil =>
    rw [set, fields_cons]
    rfl
  | cons h rest ih =>
    unfold set
    by_cases hhead : sameName h.1 name = true
    · rw [if_pos hhead, fields_cons, fields_cons, sameName_congr hhead]
      by_cases hother : sameName name other = true
      · rw [if_pos hother, if_pos hother, fields_erase_of_same hother]
      · rw [if_neg hother, if_neg hother, if_neg hother, fields_erase_of_ne hother]
    · rw [if_neg hhead, fields_cons, fields_cons, ih]
      by_cases hother : sameName name other = true
      · -- the first header has another name than the write
        have hne : ¬sameName h.1 other = true := by
          rw [sameName_comm, ← sameName_congr hother, sameName_comm]
          exact hhead
        rw [if_pos hother, if_pos hother, if_neg hne]
      · rw [if_neg hother, if_neg hother]

/-- After all writes, the only field of a name is the last write of it. -/
theorem fields_setAll {writes : Headers} {p : String × String} (h : IsLast writes p) :
    (setAll [] writes).fields p.1 = [p] := by
  obtain ⟨earlier, later, rfl, hlater⟩ := h
  induction later using List.reverseRecOn with
  | nil =>
    rw [setAll_append_singleton, fields_set, if_pos (sameName_self _)]
  | append_singleton later w ih =>
    have hw : ¬sameName w.1 p.1 = true := by
      rw [hlater w (by simp)]
      decide
    rw [← List.cons_append, ← List.append_assoc, setAll_append_singleton, fields_set, if_neg hw]
    exact ih fun v hv => hlater v (by simp [hv])

/-- All writes together have the names that are written. -/
theorem has_setAll (writes : Headers) (name : String) :
    (setAll [] writes).has name = writes.has name := by
  rw [Bool.eq_iff_iff, has_iff, has_iff, names_setAll, List.mem_eraseDups]

/-- Headers in the place of others have the names of both. -/
theorem has_update (base other : Headers) (name : String) :
    (base.update other).has name = (base.has name || other.has name) := by
  by_cases hother : other.has name = true
  · rw [hother, Bool.or_true, update, has, List.any_append]
    exact Bool.or_eq_true_iff.2 (.inr hother)
  · rw [Bool.not_eq_true] at hother
    have hkept : fields (base.filter fun p => !other.has p.1) name = base.fields name := by
      rw [fields, List.filter_filter]
      refine List.filter_congr fun p _ => ?_
      by_cases hp : sameName p.1 name = true
      · rw [has_congr hp, hother, hp]
        rfl
      · simp [hp]
    rw [hother, Bool.or_false]
    refine has_of_fields_eq ?_
    rw [update, fields_append, hkept, fields_eq_nil_iff.2 hother, List.append_nil]

/-- Headers that take the place of others keep their fields. -/
theorem fields_update {base other : Headers} {name : String} (h : other.has name = true) :
    (base.update other).fields name = other.fields name := by
  have hnone : fields (base.filter fun p => !other.has p.1) name = [] := by
    refine List.filter_eq_nil_iff.2 fun p hp hname => ?_
    have hp := (List.mem_filter.1 hp).2
    rw [has_congr hname, h] at hp
    cases hp
  rw [update, fields_append, hnone, List.nil_append]

/-- Headers that take the place of others have their own fields of a name that the others lack. -/
theorem fields_update_of_absent {base other : Headers} {name : String}
    (h : base.has name = false) : (base.update other).fields name = other.fields name := by
  cases hother : other.has name with
  | true => exact fields_update hother
  | false =>
    have hnone := has_update base other name
    rw [h, hother, Bool.or_false] at hnone
    rw [fields_eq_nil_iff.2 hnone, fields_eq_nil_iff.2 hother]

/-- A header that is written unless it is there leaves other names alone. -/
theorem fields_setDefault_of_ne {hs : Headers} {name default : String}
    (h : ¬sameName default name = true) (value : String) :
    (hs.setDefault default value).fields name = hs.fields name := by
  unfold setDefault
  split
  · rfl
  · rw [fields_append, fields_cons, if_neg h]
    exact List.append_nil _

/-- A header that is written unless it is there leaves alone the names that are. -/
theorem fields_setDefault {hs : Headers} {name : String} (h : hs.has name = true)
    (default value : String) : (hs.setDefault default value).fields name = hs.fields name := by
  by_cases hname : sameName default name = true
  · have hthere : hs.has default = true := by rw [has_congr hname, h]
    rw [setDefault, if_pos hthere]
  · exact fields_setDefault_of_ne hname value

/-- Headers with the same fields of a name have the same value for it. -/
theorem get?_of_fields_eq {hs other : Headers} {name : String}
    (h : other.fields name = hs.fields name) : other.get? name = hs.get? name := by
  unfold fields at h
  simp only [get?, h]

/-- A name without a field has no value. -/
theorem get?_of_fields_nil {hs : Headers} {name : String} (h : hs.fields name = []) :
    hs.get? name = none := by
  unfold fields at h
  simp only [get?, h]
  rfl

/-- The value of a name with one field is that of the field. -/
theorem get?_of_fields {hs : Headers} {name spelling value : String}
    (h : hs.fields name = [(spelling, value)]) : hs.get? name = some value := by
  have hjoin : ", ".intercalate [value] = value := by simp
  unfold fields at h
  simp only [get?, h]
  rw [List.map_cons, List.map_nil, hjoin]
  rfl

end Courier.Headers
