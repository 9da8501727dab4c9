import Courier.Config
import Courier.Proofs.EncodingFault
import Courier.Proofs.LeftmostReferences
import Courier.Proofs.TextCodes
import Courier.Proofs.Utf8

/-!
# References to the process environment

Resolving a value is looking up names, in the order in which they stand in the document, and then
filling the texts: `ProcessEnvironment.resolve_eq`. The value keeps its shape, and what is looked up
are the names of the leftmost references of its texts. So the first name that is not found decides
which error there is, and where all are found there is none (`resolve_references`).

A name that is not set is reported as such only if it can be written as bytes, which a surrogate that
keeps no byte cannot.
-/

namespace Courier

open Text

/-! ## The texts of a value -/

namespace Data

mutual

/-- The code points of the texts in a value, in the order of the document. Names of entries do not
count. -/
def texts : Data → List (List Nat)
  | .text s => [s.toList.map Char.toNat]
  | .brokenText codes => [codes]
  | .list xs => itemTexts xs
  | .map es => entryTexts es
  | _ => []

/-- The texts of items. -/
def itemTexts : List Data → List (List Nat)
  | [] => []
  | x :: xs => x.texts ++ itemTexts xs

/-- The texts of the values of entries. -/
def entryTexts : List (Data × Data) → List (List Nat)
  | [] => []
  | (_, v) :: rest => v.texts ++ entryTexts rest

end

mutual

/-- A value of the same shape with other texts. Names of entries stay. -/
def mapTexts (f : List Nat → List Nat) : Data → Data
  | .text s => ofCodes (f (s.toList.map Char.toNat))
  | .brokenText codes => ofCodes (f codes)
  | .list xs => .list (mapItemTexts f xs)
  | .map es => .map (mapEntryTexts f es)
  | v => v

/-- The items with other texts. -/
def mapItemTexts (f : List Nat → List Nat) : List Data → List Data
  | [] => []
  | x :: xs => x.mapTexts f :: mapItemTexts f xs

/-- The entries with other texts in their values. -/
def mapEntryTexts (f : List Nat → List Nat) : List (Data × Data) → List (Data × Data)
  | [] => []
  | (k, v) :: rest => (k, v.mapTexts f) :: mapEntryTexts f rest

end

section Congruence

variable {f g : List Nat → List Nat}

mutual

/-- A value has other texts only where it has texts. -/
theorem mapTexts_congr (v : Data) (h : ∀ codes ∈ v.texts, f codes = g codes) :
    v.mapTexts f = v.mapTexts g := by
  cases v with
  | text s => rw [mapTexts, mapTexts, h _ List.mem_cons_self]
  | brokenText codes => rw [mapTexts, mapTexts, h _ List.mem_cons_self]
  | list xs => rw [mapTexts, mapTexts, mapItemTexts_congr xs h]
  | map es => rw [mapTexts, mapTexts, mapEntryTexts_congr es h]
  | _ => rfl

/-- The same for items. -/
theorem mapItemTexts_congr (xs : List Data) (h : ∀ codes ∈ itemTexts xs, f codes = g codes) :
    mapItemTexts f xs = mapItemTexts g xs := by
  cases xs with
  | nil => rfl
  | cons x xs =>
    rw [mapItemTexts, mapItemTexts,
      mapTexts_congr x fun codes hcodes => h codes (List.mem_append_left _ hcodes),
      mapItemTexts_congr xs fun codes hcodes => h codes (List.mem_append_right _ hcodes)]

/-- The same for entries. -/
theorem mapEntryTexts_congr (es : List (Data × Data))
    (h : ∀ codes ∈ entryTexts es, f codes = g codes) :
    mapEntryTexts f es = mapEntryTexts g es := by
  cases es with
  | nil => rfl
  | cons e es =>
    obtain ⟨k, v⟩ := e
    rw [mapEntryTexts, mapEntryTexts,
      mapTexts_congr v fun codes hcodes => h codes (List.mem_append_left _ hcodes),
      mapEntryTexts_congr es fun codes hcodes => h codes (List.mem_append_right _ hcodes)]

end

end Congruence

/-- The names of the references in a value, given how texts are cut. -/
def names (cut : List Nat → Cut Nat) (v : Data) : List (List Nat) :=
  v.texts.flatMap fun codes => (cut codes).names

end Data

namespace ProcessEnvironment

variable (env : ProcessEnvironment)

/-! ## Looking up names -/

/-- Whether a name can be written as bytes: every surrogate in it keeps a byte. -/
def IsWritable (name : List Nat) : Prop :=
  ∀ n ∈ name, isSurrogate n = true → isKeptByte n = true

instance (name : List Nat) : Decidable (IsWritable name) :=
  inferInstanceAs (Decidable (∀ n ∈ name, isSurrogate n = true → isKeptByte n = true))

/-- Whether a name is set to a value, by the first variable with its bytes. -/
def Sets (name value : List Nat) : Prop :=
  ∃ before bytes after, env = before ++ (nameBytes name, bytes) :: after ∧
    value = Utf8.decodeKept bytes ∧ ∀ v ∈ before, v.1 ≠ nameBytes name

/-- The bytes of a variable are those of the first one with its name. -/
theorem sets_iff (name value : List Nat) :
    env.Sets name value ↔ ∃ bytes, env.value? (nameBytes name) = some bytes ∧
      value = Utf8.decodeKept bytes := by
  unfold Sets value?
  simp only [Option.map_eq_some_iff, List.find?_eq_some_iff_append, beq_iff_eq]
  constructor
  · rintro ⟨before, bytes, after, henv, hvalue, hbefore⟩
    exact ⟨bytes, ⟨(nameBytes name, bytes), ⟨rfl, before, after, henv, fun v hv => by
      simpa using hbefore v hv⟩, rfl⟩, hvalue⟩
  · rintro ⟨_, ⟨⟨_, bytes⟩, ⟨rfl, before, after, henv, hbefore⟩, rfl⟩, hvalue⟩
    exact ⟨before, bytes, after, henv, hvalue, fun v hv => by simpa using hbefore v hv⟩

/-- A name is found if it can be written and is set. -/
theorem lookup_eq_ok_iff (name value : List Nat) :
    env.lookup name = .ok value ↔ IsWritable name ∧ env.Sets name value := by
  rw [sets_iff, IsWritable, ← EncodingFault.inBytes?_eq_none_iff, lookup]
  cases EncodingFault.inBytes? name with
  | some f => simp
  | none => cases env.value? (nameBytes name) <;> simp [eq_comm]

/-- A name is reported if it can be written and is not set. -/
theorem lookup_eq_unset_iff (name other : List Nat) :
    env.lookup name = .error (.unset other) ↔
      other = name ∧ IsWritable name ∧ ∀ value, ¬ env.Sets name value := by
  simp only [sets_iff]
  rw [IsWritable, ← EncodingFault.inBytes?_eq_none_iff, lookup]
  cases EncodingFault.inBytes? name with
  | some f => simp
  | none => cases env.value? (nameBytes name) <;> simp [eq_comm]

/-- A name that cannot be written is a fault of its own. -/
theorem lookup_eq_unwritable_iff (name : List Nat) (fault : EncodingFault) :
    env.lookup name = .error (.unwritable fault) ↔
      ¬ IsWritable name ∧ EncodingFault.inBytes? name = some fault := by
  rw [IsWritable, ← EncodingFault.inBytes?_eq_none_iff, lookup]
  cases EncodingFault.inBytes? name with
  | some f => simp
  | none => cases env.value? (nameBytes name) <;> simp

/-- The value of a name that is found. -/
def valueOf (name : List Nat) : List Nat :=
  match env.lookup name with
  | .ok value => value
  | .error _ => []

/-- The error of the first name that is not found. -/
def firstError? (names : List (List Nat)) : Option Unresolved :=
  names.findSome? fun name =>
    match env.lookup name with
    | .ok _ => none
    | .error e => some e

/-- A result behind looking up names. -/
def after {α : Type} (names : List (List Nat)) (a : α) : Except Unresolved α :=
  match env.firstError? names with
  | some e => .error e
  | none => .ok a

section After

variable {α β γ : Type} (names more : List (List Nat)) (a : α) (b : β)

/-- What is made of a result comes behind the same names. -/
theorem after_map (f : α → β) : (do return f (← env.after names a)) = env.after names (f a) := by
  unfold after
  cases env.firstError? names <;> rfl

/-- What is made of two results comes behind the names of both. -/
theorem after_append (f : α → β → γ) :
    (do return f (← env.after names a) (← env.after more b)) =
      env.after (names ++ more) (f a b) := by
  unfold after firstError?
  rw [List.findSome?_append]
  cases names.findSome? _ with
  | some e => rfl
  | none => cases more.findSome? _ <;> rfl

/-- There is no error if all names are found. -/
theorem firstError?_eq_none_iff :
    env.firstError? names = none ↔
      ∀ name ∈ names, env.lookup name = .ok (env.valueOf name) := by
  unfold firstError? valueOf
  rw [List.findSome?_eq_none_iff]
  refine forall₂_congr fun name _ => ?_
  cases env.lookup name <;> simp

/-- The result is there if all names are found. -/
theorem after_eq_ok_iff (c : α) :
    env.after names a = .ok c ↔
      (∀ name ∈ names, env.lookup name = .ok (env.valueOf name)) ∧ c = a := by
  rw [← firstError?_eq_none_iff, after]
  cases env.firstError? names <;> simp [eq_comm]

/-- There is an error if a name is not found, and all before it are. -/
theorem after_eq_error_iff (e : Unresolved) :
    env.after names a = .error e ↔ ∃ before name later, names = before ++ name :: later ∧
      env.lookup name = .error e ∧ ∀ n ∈ before, ∃ value, env.lookup n = .ok value := by
  have herror : env.after names a = .error e ↔ env.firstError? names = some e := by
    unfold after
    cases env.firstError? names <;> simp
  rw [herror, firstError?, List.findSome?_eq_some_iff]
  refine exists_congr fun before => exists_congr fun name => exists_congr fun later =>
    and_congr_right fun _ => and_congr ?_ (forall₂_congr fun n _ => ?_)
  · cases env.lookup name <;> simp
  · cases env.lookup n <;> simp

end After

/-! ## Resolving a value -/

/-- The cut of a text at its leftmost references. -/
def cutText (codes : List Nat) : Cut Nat := Cut.ofSegments (segments Marks.dollar codes)

/-- A text with all its references replaced. -/
def fillText (codes : List Nat) : List Nat := (cutText codes).fill env.valueOf

/-- Pieces are resolved by looking up the names among them. -/
theorem resolveSegments_eq (segs : List (Segment Nat)) :
    env.resolveSegments segs =
      env.after (Cut.ofSegments segs).names ((Cut.ofSegments segs).fill env.valueOf) := by
  induction segs with
  | nil => rfl
  | cons seg segs ih =>
    cases seg with
    | plain n =>
      rw [resolveSegments, ih, after_map, Cut.ofSegments, Cut.names_prepend, Cut.fill_prepend]
      rfl
    | reference name =>
      have hname : env.lookup name = env.after [name] (env.valueOf name) := by
        unfold after firstError? valueOf
        rw [List.findSome?_singleton]
        cases env.lookup name <;> rfl
      have hfill : (Cut.ofSegments (.reference name :: segs)).fill env.valueOf =
          env.valueOf name ++ (Cut.ofSegments segs).fill env.valueOf := by
        simp [Cut.ofSegments, Cut.fill]
      rw [resolveSegments, ih, hname, after_append, hfill]
      rfl

/-- A text is resolved by looking up the names in it. -/
theorem resolveText_eq (codes : List Nat) :
    env.resolveText codes =
      env.after (cutText codes).names (Data.ofCodes (env.fillText codes)) := by
  rw [resolveText, resolveSegments_eq, after_map]
  rfl

mutual

/-- A value is resolved by looking up the names in it, in the order of the document. -/
theorem resolve_eq (v : Data) :
    env.resolve v = env.after (v.names cutText) (v.mapTexts env.fillText) := by
  cases v with
  | text s =>
    rw [resolve, resolveText_eq, Data.names, Data.texts, List.flatMap_singleton, Data.mapTexts]
  | brokenText codes =>
    rw [resolve, resolveText_eq, Data.names, Data.texts, List.flatMap_singleton, Data.mapTexts]
  | list xs =>
    rw [resolve, resolveItems_eq, after_map]
    rfl
  | map es =>
    rw [resolve, resolveEntries_eq, after_map]
    rfl
  | _ => rfl

/-- Items are resolved by looking up the names in them. -/
theorem resolveItems_eq (xs : List Data) :
    env.resolveItems xs =
      env.after ((Data.itemTexts xs).flatMap fun codes => (cutText codes).names)
        (Data.mapItemTexts env.fillText xs) := by
  cases xs with
  | nil => rfl
  | cons x xs =>
    rw [resolveItems, resolve_eq, resolveItems_eq, after_append, Data.itemTexts,
      List.flatMap_append]
    rfl

/-- Entries are resolved by looking up the names in their values. -/
theorem resolveEntries_eq (es : List (Data × Data)) :
    env.resolveEntries es =
      env.after ((Data.entryTexts es).flatMap fun codes => (cutText codes).names)
        (Data.mapEntryTexts env.fillText es) := by
  cases es with
  | nil => rfl
  | cons e es =>
    obtain ⟨k, v⟩ := e
    rw [resolveEntries, resolve_eq, resolveEntries_eq, Data.entryTexts, List.flatMap_append]
    exact env.after_append _ _ _ _ fun w rest => (k, w) :: rest

end

section Outcomes

variable {v w : Data} {e : Unresolved}

/-- A value is resolved if all its names are found, and then its texts are filled. -/
theorem resolve_eq_ok_iff :
    env.resolve v = .ok w ↔ ∃ value : List Nat → List Nat,
      (∀ name ∈ v.names cutText, env.lookup name = .ok (value name)) ∧
        w = v.mapTexts fun codes => (cutText codes).fill value := by
  rw [resolve_eq, after_eq_ok_iff]
  constructor
  · rintro ⟨hfound, rfl⟩
    exact ⟨env.valueOf, hfound, rfl⟩
  · rintro ⟨value, hfound, rfl⟩
    have hvalue : ∀ name ∈ v.names cutText, value name = env.valueOf name := by
      intro name hname
      rw [valueOf, hfound name hname]
    refine ⟨fun name hname => ?_, Data.mapTexts_congr v fun codes hcodes => ?_⟩
    · rw [hfound name hname, hvalue name hname]
    · exact Cut.fill_congr fun name hname =>
        hvalue name (List.mem_flatMap.2 ⟨codes, hcodes, hname⟩)

/-- A value is not resolved if a name is not found, and all before it are. -/
theorem resolve_eq_error_iff :
    env.resolve v = .error e ↔ ∃ before name later, v.names cutText = before ++ name :: later ∧
      env.lookup name = .error e ∧ ∀ n ∈ before, ∃ value, env.lookup n = .ok value := by
  rw [resolve_eq, after_eq_error_iff]

/-- Where all names can be written, one that is not set is an error, and there is no other. -/
theorem exists_resolve_eq_unset_iff (hwritable : ∀ name ∈ v.names cutText, IsWritable name) :
    (∃ name, env.resolve v = .error (.unset name)) ↔
      ∃ name ∈ v.names cutText, ∀ value, ¬ env.Sets name value := by
  constructor
  · rintro ⟨name, herror⟩
    obtain ⟨before, other, later, hnames, hlookup, -⟩ := env.resolve_eq_error_iff.1 herror
    obtain ⟨-, -, hunset⟩ := (env.lookup_eq_unset_iff other name).1 hlookup
    exact ⟨other, by simp [hnames], hunset⟩
  · rintro ⟨name, hname, hunset⟩
    cases hresult : env.resolve v with
    | ok w =>
      obtain ⟨value, hfound, -⟩ := env.resolve_eq_ok_iff.1 hresult
      exact (hunset _ ((env.lookup_eq_ok_iff _ _).1 (hfound name hname)).2).elim
    | error e =>
      obtain ⟨before, first, later, hnames, hlookup, -⟩ := env.resolve_eq_error_iff.1 hresult
      cases e with
      | unset other => exact ⟨other, rfl⟩
      | unwritable fault =>
        have hnot := ((env.lookup_eq_unwritable_iff first fault).1 hlookup).1
        exact (hnot (hwritable first (by simp [hnames]))).elim

/-- Environments with the same variables of the names in a value resolve it alike. -/
theorem resolve_congr {other : ProcessEnvironment}
    (h : ∀ name ∈ v.names cutText,
      env.value? (nameBytes name) = other.value? (nameBytes name)) :
    env.resolve v = other.resolve v := by
  have hlookup : ∀ name ∈ v.names cutText, env.lookup name = other.lookup name := by
    intro name hname
    rw [lookup, lookup, h name hname]
  cases hresult : env.resolve v with
  | ok w =>
    obtain ⟨value, hfound, hw⟩ := env.resolve_eq_ok_iff.1 hresult
    refine (other.resolve_eq_ok_iff.2 ⟨value, fun name hname => ?_, hw⟩).symm
    rw [← hlookup name hname, hfound name hname]
  | error e =>
    obtain ⟨before, name, later, hnames, herror, hbefore⟩ := env.resolve_eq_error_iff.1 hresult
    rw [hnames] at hlookup
    refine (other.resolve_eq_error_iff.2 ⟨before, name, later, hnames, ?_, fun n hn => ?_⟩).symm
    · rw [← hlookup name (by simp), herror]
    · rw [← hlookup n (List.mem_append_left _ hn)]
      exact hbefore n hn

end Outcomes

end ProcessEnvironment

open ProcessEnvironment in
/-- Loading fails with the error that a variable is not set exactly if resolving does. -/
theorem resolveMapping_eq_unset_iff (env : ProcessEnvironment) (entries : List (Data × Data))
    (name : List Nat) :
    resolveMapping env entries = .error (.config (.unset name)) ↔
      env.resolve (.map entries) = .error (.unset name) := by
  rw [resolveMapping, resolve]
  cases env.resolveEntries entries with
  | ok es => exact iff_of_false nofun nofun
  | error e => cases e <;> simp [bind, Except.bind]

open ProcessEnvironment in
/-- A value is resolved at every depth as its texts are. A text refers to the variables that its
leftmost references name, and a name is found if it can be written and is set. The value is
resolved if all names in it are found: it keeps its shape, and each text is filled with the values as
they are. Otherwise the first name that is not found, in the order of the document, decides the
error. It is the one that loading reports if the name can be written; and where all names can be
written, there is an error exactly if one of them is not set. Variables that the value does not refer
to do not matter. -/
theorem resolve_references (env : ProcessEnvironment) (v : Data) :
    (∀ codes cut, Marks.dollar.IsLeftmost codes cut ↔ cut = cutText codes) ∧
      (∀ name value, env.lookup name = .ok value ↔ IsWritable name ∧ env.Sets name value) ∧
      (∀ name other, env.lookup name = .error (.unset other) ↔
        other = name ∧ IsWritable name ∧ ∀ value, ¬ env.Sets name value) ∧
      (∀ name fault, env.lookup name = .error (.unwritable fault) ↔
        ¬ IsWritable name ∧ EncodingFault.inBytes? name = some fault) ∧
      (∀ w, env.resolve v = .ok w ↔ ∃ value : List Nat → List Nat,
        (∀ name ∈ v.names cutText, env.lookup name = .ok (value name)) ∧
          w = v.mapTexts fun codes => (cutText codes).fill value) ∧
      (∀ e, env.resolve v = .error e ↔
        ∃ before name later, v.names cutText = before ++ name :: later ∧
          env.lookup name = .error e ∧ ∀ n ∈ before, ∃ value, env.lookup n = .ok value) ∧
      (∀ entries name, v = .map entries →
        (resolveMapping env entries = .error (.config (.unset name)) ↔
          env.resolve v = .error (.unset name))) ∧
      ((∀ name ∈ v.names cutText, IsWritable name) →
        ((∃ name, env.resolve v = .error (.unset name)) ↔
          ∃ name ∈ v.names cutText, ∀ value, ¬ env.Sets name value)) ∧
      ∀ other : ProcessEnvironment, (∀ name ∈ v.names cutText,
        env.value? (nameBytes name) = other.value? (nameBytes name)) →
          env.resolve v = other.resolve v := by
  refine ⟨fun codes cut => isLeftmost_iff codes cut, env.lookup_eq_ok_iff,
    env.lookup_eq_unset_iff, env.lookup_eq_unwritable_iff, fun w => env.resolve_eq_ok_iff,
    fun e => env.resolve_eq_error_iff, ?_, env.exists_resolve_eq_unset_iff,
    fun other h => env.resolve_congr h⟩
  rintro entries name rfl
  exact resolveMapping_eq_unset_iff env entries name

/-- A reference among the items of an entry whose name is no reference, and is written like one. -/
def nestedReferences (text : String) : Data :=
  .map [(.text "$\x7bKEY\x7d", .list [.text text, .int 1])]

/-- A variable whose value is written like a reference. -/
def nestedVariables : ProcessEnvironment := .ofTexts [("HOST", "$\x7bPORT\x7d"), ("PORT", "80")]

open ProcessEnvironment in
/-- `resolve_references` at a value that is nested. -/
theorem resolve_references_nested :
    ∃ v w other, v = nestedReferences "http://$\x7bHOST\x7d:$\x7bPORT\x7d/$\x7b\x7d" ∧
      w = nestedReferences "http://$\x7bPORT\x7d:80/$\x7b\x7d" ∧
      other = ofTexts [("KEY", ""), ("PORT", "80"), ("HOST", "$\x7bPORT\x7d")] ∧
      (∀ name ∈ v.names cutText, IsWritable name) ∧
      (∀ name ∈ v.names cutText,
        nestedVariables.value? (nameBytes name) = other.value? (nameBytes name)) ∧
      nestedVariables.resolve v = .ok w ∧ other.resolve v = .ok w ∧
      ¬ ∃ name ∈ v.names cutText, ∀ value, ¬ nestedVariables.Sets name value := by
  have hfill : (cutText
      ("http://$\x7bHOST\x7d:$\x7bPORT\x7d/$\x7b\x7d".toList.map Char.toNat)).fill
        nestedVariables.valueOf = "http://$\x7bPORT\x7d:80/$\x7b\x7d".toList.map Char.toNat := by
    decide +kernel
  obtain ⟨-, -, -, -, hok, -, -, herror, hagree⟩ := resolve_references nestedVariables
    (nestedReferences "http://$\x7bHOST\x7d:$\x7bPORT\x7d/$\x7b\x7d")
  have hwritable : ∀ name ∈ (nestedReferences
      "http://$\x7bHOST\x7d:$\x7bPORT\x7d/$\x7b\x7d").names cutText, IsWritable name := by
    decide +kernel
  have hresult := (hok (nestedReferences "http://$\x7bPORT\x7d:80/$\x7b\x7d")).2
    ⟨nestedVariables.valueOf, (nestedVariables.firstError?_eq_none_iff _).1 (by decide +kernel), by
      simp only [nestedReferences, Data.mapTexts, Data.mapEntryTexts, Data.mapItemTexts, hfill,
        Data.ofCodes_map_toNat, String.ofList_toList]⟩
  refine ⟨_, _, _, rfl, rfl, rfl, hwritable, by decide +kernel, hresult, ?_, fun hunset => ?_⟩
  · rw [← hagree _ (by decide +kernel), hresult]
  · obtain ⟨name, hname⟩ := (herror hwritable).2 hunset
    rw [hresult] at hname
    cases hname

/-- The code points of a reference, the name of which is a surrogate that keeps no byte. -/
def surrogateReference : List Nat := [0x24, 0x7B, 0xD800, 0x7D]

open ProcessEnvironment in
/-- A name that is not set is not reported if it cannot be written. -/
theorem surrogate_reference_unreported :
    cutText surrogateReference = ⟨[([], [0xD800])], []⟩ ∧
      Marks.dollar.IsLeftmost surrogateReference ⟨[([], [0xD800])], []⟩ ∧
      (∀ value, ¬ Sets [] [0xD800] value) ∧
      resolve [] (.map [(.text "url", .brokenText surrogateReference)]) =
        .error (.unwritable ⟨"utf-8", "surrogates not allowed", 0, [0xD800]⟩) ∧
      ∀ c, resolveMapping [] [(.text "url", .brokenText surrogateReference)] ≠
        .error (.config c) := by
  have hcut : cutText surrogateReference = ⟨[([], [0xD800])], []⟩ := by decide +kernel
  have hfirst : firstError? [] [[0xD800]] =
      some (.unwritable ⟨"utf-8", "surrogates not allowed", 0, [0xD800]⟩) := by
    decide +kernel
  have hresolve : resolveEntries [] [(.text "url", .brokenText surrogateReference)] =
      .error (.unwritable ⟨"utf-8", "surrogates not allowed", 0, [0xD800]⟩) := by
    rw [resolveEntries_eq]
    simp only [Data.entryTexts, Data.texts, List.append_nil, List.flatMap_singleton, hcut]
    simp only [Cut.names, List.map_cons, List.map_nil, after, hfirst]
  refine ⟨hcut, (isLeftmost_iff _ _).2 hcut.symm, fun value h => ?_, ?_, fun c h => ?_⟩
  · obtain ⟨before, bytes, later, henv, -⟩ := h
    simp at henv
  · rw [resolve, hresolve]
    rfl
  · rw [resolveMapping, hresolve] at h
    cases h

end Courier
