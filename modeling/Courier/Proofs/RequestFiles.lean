import Courier.Proofs.IgnoredEntries
import Courier.Proofs.Loading

/-!
# Loading request files

A request file is loaded as a whole, or its first fault is the error
(`loadRequestFile_first_fault`). References to the process environment are resolved before anything
else; then the items of the assertions are found, the request is read from the other entries, and
each item is read as an assertion (`requestFileOf_eq`). The outcomes of each stage are described by
what the mapping holds, `DescribesRequestFile` and `RequestFileFault`, and as one of the two always
applies, each is the outcome exactly if it does. Other entries matter only for the names that they
refer to (`requestFileFrom_essentialEntries`).
-/

namespace Courier

open Schema Data ProcessEnvironment

/-! ## From a resolved mapping -/

section Contents

variable {path : String} {es : List (Data × Data)}

/-- Whether a mapping is that of a request file: the request is read from the other entries, and the
assertions are read from the items, one from each. -/
structure DescribesRequestFile (es : List (Data × Data)) (file : RequestFile) : Prop where
  request : Request.read (.map (requestEntries es)) = .accepted file.request
  assertions : ∃ items, AssertionItems es items ∧
    List.Forall₂ (fun v a => Assertion.read v = .accepted a) items file.assertions

/-- The first fault of a mapping that is not that of a request file. An integer of too many digits
that should be a text of the request is a fault of its own. -/
inductive RequestFileFault (path : String) (es : List (Data × Data)) : LoadError → Prop where
  | assertionsNotList {v : Data} (h : lookup? es assertionsKey = some v)
    (hempty : v.isEmptyValue = false) (hlist : ∀ items, v ≠ .list items) :
    RequestFileFault path es (.config (.assertionsNotList path))
  | request {items : List Data} {issues : List Issue} (hitems : AssertionItems es items)
    (h : Request.read (.map (requestEntries es)) = .refused (.issues issues)) :
    RequestFileFault path es (.config (.invalid .request path issues))
  | overlong {items : List Data} (hitems : AssertionItems es items)
    (h : Request.HasOverlong (.map (requestEntries es))) :
    RequestFileFault path es .overlong
  | assertion {before after : List Data} {v : Data} {request : Request} {issues : List Issue}
    (hitems : AssertionItems es (before ++ v :: after))
    (hrequest : Request.read (.map (requestEntries es)) = .accepted request)
    (hbefore : ∀ u ∈ before, ∃ a, Assertion.read u = .accepted a)
    (h : Assertion.read v = .refused (.issues issues)) :
    RequestFileFault path es (.config (.invalidAssertion (before.length + 1) path issues))

variable {items : List Data}

/-- Assertions are read from all items, one from each. -/
theorem readAssertions_eq_ok {as : List Assertion}
    (h : List.Forall₂ (fun v a => Assertion.read v = .accepted a) items as) (path : String)
    (number : Nat) : readAssertions path number items = .ok as := by
  induction h generalizing number with
  | nil => rfl
  | cons hread _ ih => simp only [readAssertions, hread, ih, bind, Except.bind, pure, Except.pure]

/-- The first item that no assertion is read from is the fault. -/
theorem readAssertions_eq_error {before after : List Data} {v : Data} {issues : List Issue}
    (hbefore : ∀ u ∈ before, ∃ a, Assertion.read u = .accepted a)
    (h : Assertion.read v = .refused (.issues issues)) (path : String) (number : Nat) :
    readAssertions path number (before ++ v :: after) =
      .error (.config (.invalidAssertion (number + before.length) path issues)) := by
  induction before generalizing number with
  | nil =>
    simp only [List.nil_append, readAssertions, h, List.length_nil, Nat.add_zero,
      LoadError.ofRefusal]
  | cons u before ih =>
    obtain ⟨⟨a, ha⟩, hrest⟩ := List.forall_mem_cons.1 hbefore
    have hnumber : number + (u :: before).length = number + 1 + before.length := by
      rw [List.length_cons]
      omega
    simp only [List.cons_append, readAssertions, ha, ih hrest, hnumber, bind, Except.bind]

/-- Assertions are read from all items, or there is a first one that none is read from. -/
theorem items_cases (items : List Data) :
    (∃ as, List.Forall₂ (fun v a => Assertion.read v = .accepted a) items as) ∨
      ∃ before v after issues, items = before ++ v :: after ∧
        (∀ u ∈ before, ∃ a, Assertion.read u = .accepted a) ∧
        Assertion.read v = .refused (.issues issues) := by
  induction items with
  | nil => exact .inl ⟨[], .nil⟩
  | cons v items ih =>
    cases hread : Assertion.read v with
    | refused why =>
      cases why with
      | issues issues => exact .inr ⟨[], v, items, issues, rfl, nofun, hread⟩
      | overlong => exact (Assertion.read_ne_overlong v hread).elim
    | accepted a =>
      obtain ⟨as, has⟩ | ⟨before, u, after, issues, rfl, hbefore, hu⟩ := ih
      · exact .inl ⟨a :: as, .cons hread has⟩
      · exact .inr ⟨v :: before, u, after, issues, rfl,
          List.forall_mem_cons.2 ⟨⟨a, hread⟩, hbefore⟩, hu⟩

/-- A request file is what its mapping describes. -/
theorem DescribesRequestFile.eq_ok {file : RequestFile} (h : DescribesRequestFile es file)
    (path : String) : requestFileOf path es = .ok file := by
  obtain ⟨hrequest, items, hitems, hassertions⟩ := h
  rw [requestFileOf_eq, hitems.eq_ok path, hrequest]
  simp only [readAssertions_eq_ok hassertions path 1, Except.mapError, Except.bind, Except.map]

/-- The first fault of a mapping is the error. -/
theorem RequestFileFault.eq_error {e : LoadError} (h : RequestFileFault path es e) :
    requestFileOf path es = .error e := by
  cases h with
  | assertionsNotList h hempty hlist =>
    obtain ⟨items, hitems⟩ | ⟨-, herror⟩ := assertionItems_cases path es
    · -- items are not found in anything else
      cases hitems with
      | absent hnone => cases h.symm.trans hnone
      | empty hsome hisEmpty =>
        cases h.symm.trans hsome
        rw [hempty] at hisEmpty
        cases hisEmpty
      | list hsome => exact (hlist _ (Option.some.inj (h.symm.trans hsome))).elim
    · rw [requestFileOf_eq, herror]
      rfl
  | request hitems h =>
    rw [requestFileOf_eq, hitems.eq_ok path, h]
    rfl
  | overlong hitems h =>
    rw [requestFileOf_eq, hitems.eq_ok path, (Request.read_eq_overlong_iff _).2 h]
    rfl
  | assertion hitems hrequest hbefore h =>
    rw [requestFileOf_eq, hitems.eq_ok path, hrequest]
    simp only [readAssertions_eq_error hbefore h path 1, Except.mapError, Except.bind, Except.map,
      Nat.add_comm 1]

/-- A mapping is that of a request file, or has a first fault. -/
theorem requestFile_cases (path : String) (es : List (Data × Data)) :
    (∃ file, DescribesRequestFile es file) ∨ ∃ e, RequestFileFault path es e := by
  obtain ⟨items, hitems⟩ | ⟨⟨v, hv, hempty, hlist⟩, -⟩ := assertionItems_cases path es
  · cases hrequest : Request.read (.map (requestEntries es)) with
    | refused why =>
      cases why with
      | issues issues => exact .inr ⟨_, .request hitems hrequest⟩
      | overlong =>
        exact .inr ⟨_, .overlong hitems ((Request.read_eq_overlong_iff _).1 hrequest)⟩
    | accepted request =>
      obtain ⟨as, has⟩ | ⟨before, v, after, issues, rfl, hbefore, hv⟩ := items_cases items
      · exact .inl ⟨⟨request, as⟩, hrequest, items, hitems, has⟩
      · exact .inr ⟨_, .assertion hitems hrequest hbefore hv⟩
  · exact .inr ⟨_, .assertionsNotList hv hempty hlist⟩

end Contents

/-! ## Entries that do not matter -/

/-- The fields of a request file: its assertions, and those of the request. -/
def RequestFile.sourceFields : List (FieldName × Layout) :=
  (.plain "assertions", .whole) :: Request.sourceFields

section Essence

variable {path : String} {es : List (Data × Data)}

/-- A field with one spelling is found under it. -/
theorem FieldName.find?_plain (name : String) (es : List (Data × Data)) :
    (FieldName.plain name).find? es = (lookup? es (.text name)).map fun v => (name, v) := by
  unfold FieldName.find? FieldName.plain
  cases lookup? es (.text name) <;> rfl

/-- Besides the assertions, a field is found in the other entries as in all. -/
theorem find?_requestEntries {f : FieldName}
    (hwire : f.wire ≠ "assertions") (halternative : f.alternative ≠ "assertions") :
    f.find? (requestEntries es) = f.find? es := by
  have hlookup : ∀ s, s ≠ "assertions" →
      lookup? (requestEntries es) (.text s) = lookup? es (.text s) := by
    intro s hs
    unfold lookup? requestEntries
    rw [List.find?_filter]
    congr 2
    funext e
    cases hsame : (Data.text s).same e.1 with
    | false => simp
    | true =>
      have hother : Data.same (.text s) assertionsKey = false := by
        rw [Bool.eq_false_iff, assertionsKey, ne_eq, same_text_iff, Data.text.injEq]
        exact fun h => hs h.symm
      simp [(same_text_iff s e.1).1 hsame, hother]
  unfold FieldName.find?
  rw [hlookup _ hwire, hlookup _ halternative]

/-- A request file is read from the essence of a mapping as from the mapping. -/
theorem requestFileOf_essentialEntries (path : String) (es : List (Data × Data)) :
    requestFileOf path (essentialEntries RequestFile.sourceFields es) = requestFileOf path es := by
  have hapart : AreApart RequestFile.sourceFields := by decide
  have hothers : ∀ field ∈ Request.sourceFields,
      field.1.wire ≠ "assertions" ∧ field.1.alternative ≠ "assertions" := by decide
  have hitems : lookup? (essentialEntries RequestFile.sourceFields es) assertionsKey =
      lookup? es assertionsKey := by
    have hfind := find?_essentialEntries hapart List.mem_cons_self es
    rw [FieldName.find?_plain, FieldName.find?_plain, Option.map_map] at hfind
    exact Option.map_injective (fun v w h => (Prod.mk.inj h).2) hfind
  have hsame : SameFields Request.sourceFields (requestEntries es)
      (requestEntries (essentialEntries RequestFile.sourceFields es)) := by
    intro f l hf
    obtain ⟨hwire, halternative⟩ := hothers _ hf
    rw [find?_requestEntries hwire halternative, find?_requestEntries hwire halternative]
    exact find?_essentialEntries hapart (List.mem_cons_of_mem _ hf) es
  rw [requestFileOf_eq, requestFileOf_eq, assertionItems, hitems,
    Request.read_of_sameFields hsame]
  rfl

end Essence

/-! ## Behind the mapping of a file -/

section Load

variable {env : ProcessEnvironment} {fs fs' : Files} {path : FilePath}
  {entries entries' : List (Data × Data)}

/-- A request file from its mapping: references are resolved first. -/
def requestFileFrom (env : ProcessEnvironment) (path : String) (entries : List (Data × Data)) :
    Except LoadError RequestFile :=
  match env.resolveEntries entries with
  | .ok es => requestFileOf path es
  | .error (.unset name) => .error (.config (.unset name))
  | .error (.unwritable fault) => .error (.unwritable fault)

/-- A request file is loaded from the mapping of the file. -/
theorem loadRequestFile_of_mapping (h : loadMapping fs .request path = .ok entries) :
    loadRequestFile env fs path = requestFileFrom env path.text entries := by
  unfold loadRequestFile loadWith requestFileFrom resolveMapping
  rw [h]
  simp only [bind, Except.bind]
  cases env.resolveEntries entries with
  | error e => cases e <;> rfl
  | ok es => rfl

/-- Whether all names that the texts of a mapping refer to can be written and are set, and `es` is
the mapping with the texts filled. -/
def ResolvesTo (env : ProcessEnvironment) (entries es : List (Data × Data)) : Prop :=
  ∃ value : List Nat → List Nat,
    (∀ name ∈ (Data.map entries).names cutText, IsWritable name ∧ env.Sets name (value name)) ∧
      es = mapEntryTexts (fun codes => (cutText codes).fill value) entries

/-- A mapping is resolved if all names are found, and then its texts are filled. -/
theorem resolveEntries_eq_ok_iff (es : List (Data × Data)) :
    env.resolveEntries entries = .ok es ↔ ResolvesTo env entries es := by
  have hmap : env.resolveEntries entries = .ok es ↔
      env.resolve (.map entries) = .ok (.map es) := by
    rw [resolve]
    cases env.resolveEntries entries <;> simp [bind, Except.bind, pure, Except.pure]
  rw [hmap, env.resolve_eq_ok_iff]
  simp only [ResolvesTo, lookup_eq_ok_iff, Data.mapTexts, Data.map.injEq]

/-- A mapping is not resolved if a name is not found, and all before it are. -/
theorem resolveEntries_eq_error_iff (e : Unresolved) :
    env.resolveEntries entries = .error e ↔ ∃ before name later,
      (Data.map entries).names cutText = before ++ name :: later ∧ env.lookup name = .error e ∧
        ∀ n ∈ before, ∃ value, env.lookup n = .ok value := by
  have hmap : env.resolveEntries entries = .error e ↔ env.resolve (.map entries) = .error e := by
    rw [resolve]
    cases env.resolveEntries entries <;> simp [bind, Except.bind, pure, Except.pure]
  rw [hmap, env.resolve_eq_error_iff]

/-- The first fault of a file with a mapping that is not loaded: a name that is not found, behind
names that are, or one of the resolved mapping. -/
inductive RequestLoadFault (env : ProcessEnvironment) (path : String)
    (entries : List (Data × Data)) : LoadError → Prop where
  | unset {before later : List (List Nat)} {name : List Nat}
    (hnames : (Data.map entries).names cutText = before ++ name :: later)
    (hbefore : ∀ n ∈ before, ∃ value, env.lookup n = .ok value) (hwritable : IsWritable name)
    (hunset : ∀ value, ¬env.Sets name value) :
    RequestLoadFault env path entries (.config (.unset name))
  | unwritable {before later : List (List Nat)} {name : List Nat} {fault : Text.EncodingFault}
    (hnames : (Data.map entries).names cutText = before ++ name :: later)
    (hbefore : ∀ n ∈ before, ∃ value, env.lookup n = .ok value) (hname : ¬IsWritable name)
    (hfault : Text.EncodingFault.inBytes? name = some fault) :
    RequestLoadFault env path entries (.unwritable fault)
  | contents {es : List (Data × Data)} {e : LoadError} (hresolves : ResolvesTo env entries es)
    (h : RequestFileFault path es e) : RequestLoadFault env path entries e

/-- What the resolved mapping describes is loaded. -/
theorem requestFileFrom_eq_ok {es : List (Data × Data)} {file : RequestFile}
    (hresolves : ResolvesTo env entries es) (h : DescribesRequestFile es file) (path : String) :
    requestFileFrom env path entries = .ok file := by
  rw [requestFileFrom, (resolveEntries_eq_ok_iff es).2 hresolves]
  simp only [h.eq_ok path]

/-- The first fault is the error. -/
theorem RequestLoadFault.eq_error {path : String} {e : LoadError}
    (h : RequestLoadFault env path entries e) : requestFileFrom env path entries = .error e := by
  unfold requestFileFrom
  cases h with
  | @unset before later name hnames hbefore hwritable hunset =>
    have hname := (env.lookup_eq_unset_iff name name).2 ⟨rfl, hwritable, hunset⟩
    rw [(resolveEntries_eq_error_iff _).2 ⟨before, name, later, hnames, hname, hbefore⟩]
  | @unwritable before later name fault hnames hbefore hwritable hfault =>
    have hname := (env.lookup_eq_unwritable_iff name fault).2 ⟨hwritable, hfault⟩
    rw [(resolveEntries_eq_error_iff _).2 ⟨before, name, later, hnames, hname, hbefore⟩]
  | contents hresolves h =>
    rw [(resolveEntries_eq_ok_iff _).2 hresolves]
    simp only [h.eq_error]

/-- The mapping describes a request file once it is resolved, or there is a first fault. -/
theorem requestFileFrom_cases (env : ProcessEnvironment) (path : String)
    (entries : List (Data × Data)) :
    (∃ es file, ResolvesTo env entries es ∧ DescribesRequestFile es file) ∨
      ∃ e, RequestLoadFault env path entries e := by
  cases hresolve : env.resolveEntries entries with
  | ok es =>
    have hresolves := (resolveEntries_eq_ok_iff es).1 hresolve
    obtain ⟨file, hfile⟩ | ⟨c, hfault⟩ := requestFile_cases path es
    · exact .inl ⟨es, file, hresolves, hfile⟩
    · exact .inr ⟨_, .contents hresolves hfault⟩
  | error e =>
    obtain ⟨before, name, later, hnames, hname, hbefore⟩ :=
      (resolveEntries_eq_error_iff e).1 hresolve
    cases e with
    | unset other =>
      obtain ⟨rfl, hwritable, hunset⟩ := (env.lookup_eq_unset_iff name other).1 hname
      exact .inr ⟨_, .unset hnames hbefore hwritable hunset⟩
    | unwritable fault =>
      obtain ⟨hwritable, hfault⟩ := (env.lookup_eq_unwritable_iff name fault).1 hname
      exact .inr ⟨_, .unwritable hnames hbefore hwritable hfault⟩

/-- A request file is loaded exactly if all names are found and the mapping then describes it. -/
theorem requestFileFrom_eq_ok_iff (path : String) (file : RequestFile) :
    requestFileFrom env path entries = .ok file ↔
      ∃ es, ResolvesTo env entries es ∧ DescribesRequestFile es file := by
  refine ⟨fun h => ?_, fun ⟨es, hresolves, h⟩ => requestFileFrom_eq_ok hresolves h path⟩
  obtain ⟨es, other, hresolves, hother⟩ | ⟨e, hfault⟩ := requestFileFrom_cases env path entries
  · cases h.symm.trans (requestFileFrom_eq_ok hresolves hother path)
    exact ⟨es, hresolves, hother⟩
  · cases h.symm.trans hfault.eq_error

/-- What is not loaded has a first fault, which is the error. -/
theorem requestFileFrom_eq_error_iff (path : String) (e : LoadError) :
    requestFileFrom env path entries = .error e ↔ RequestLoadFault env path entries e := by
  refine ⟨fun h => ?_, fun h => h.eq_error⟩
  obtain ⟨es, file, hresolves, hfile⟩ | ⟨other, hother⟩ := requestFileFrom_cases env path entries
  · cases h.symm.trans (requestFileFrom_eq_ok hresolves hfile path)
  · cases h.symm.trans hother.eq_error
    exact hother

/-- The error is reported exactly if the first name that is not found, if there is one, can be
written, and no text of the request is an integer of too many digits. -/
theorem requestFileFrom_loads_iff (env : ProcessEnvironment) (path : String)
    (entries : List (Data × Data)) :
    Loads (requestFileFrom env path entries) ↔
      (∀ before name later, (Data.map entries).names cutText = before ++ name :: later →
        (∀ n ∈ before, ∃ value, env.lookup n = .ok value) →
        (∀ value, env.lookup name ≠ .ok value) → IsWritable name) ∧
      ∀ es, ResolvesTo env entries es → ¬IsOverlong es .request := by
  constructor
  · intro hloads
    constructor
    · intro before name later hnames hbefore _
      by_contra hname
      have hsome : Text.EncodingFault.inBytes? name ≠ none := by
        rwa [ne_eq, Text.EncodingFault.inBytes?_eq_none_iff]
      obtain ⟨fault, hfault⟩ := Option.ne_none_iff_exists'.1 hsome
      have hfirst : RequestLoadFault env path entries (.unwritable fault) :=
        .unwritable hnames hbefore hname hfault
      rw [hfirst.eq_error, loads_error_iff] at hloads
      obtain ⟨c, hc⟩ := hloads
      cases hc
    · intro es hresolves hlong
      rw [requestFileFrom, (resolveEntries_eq_ok_iff es).2 hresolves] at hloads
      exact (requestFileOf_loads_iff path es).1 hloads hlong
  · rintro ⟨hwritable, hshort⟩
    obtain ⟨es, file, hresolves, hfile⟩ | ⟨e, hfault⟩ := requestFileFrom_cases env path entries
    · exact .inl ⟨file, requestFileFrom_eq_ok hresolves hfile path⟩
    · rw [hfault.eq_error]
      cases hfault with
      | unset => exact (loads_error_iff _).2 ⟨_, rfl⟩
      | contents hresolves h =>
        rw [← h.eq_error]
        exact (requestFileOf_loads_iff path _).2 (hshort _ hresolves)
      | unwritable hnames hbefore hname =>
        refine (hname (hwritable _ _ _ hnames hbefore fun value hvalue => ?_)).elim
        exact hname ((env.lookup_eq_ok_iff _ _).1 hvalue).1

/-- The error of a name, if it is not found. -/
def lookupError? (env : ProcessEnvironment) (name : List Nat) : Option Unresolved :=
  match env.lookup name with
  | .ok _ => none
  | .error e => some e

/-- The first error of names is the first one gathered from the texts that they are in. -/
theorem firstError?_names (env : ProcessEnvironment) (v : Data) :
    env.firstError? (v.names cutText) =
      (v.texts.flatMap fun codes => (cutText codes).names.filterMap (lookupError? env)).head? := by
  rw [← List.filterMap_flatMap, List.head?_filterMap]
  rfl

/-- A mapping is resolved and read like its essence, if the names in what is left out are found. -/
theorem requestFileFrom_essentialEntries (path : String)
    (hignored : ∀ v ∈ (Layout.record RequestFile.sourceFields).ignored (.map entries),
      ∀ name ∈ v.names cutText, ∃ value, env.lookup name = .ok value) :
    requestFileFrom env path (essentialEntries RequestFile.sourceFields entries) =
      requestFileFrom env path entries := by
  have hfirst : env.firstError? ((Data.map
      (essentialEntries RequestFile.sourceFields entries)).names cutText) =
        env.firstError? ((Data.map entries).names cutText) := by
    rw [firstError?_names, firstError?_names]
    refine congrArg List.head? (Layout.flatMap_texts_essence _ (.record RequestFile.sourceFields)
      (.map entries) fun v hv => ?_)
    rw [List.flatMap_eq_nil_iff]
    intro codes hcodes
    rw [List.filterMap_eq_nil_iff]
    intro name hname
    obtain ⟨value, hvalue⟩ := hignored v hv name (List.mem_flatMap.2 ⟨codes, hcodes, hname⟩)
    rw [lookupError?, hvalue]
  have htexts : mapEntryTexts env.fillText (essentialEntries RequestFile.sourceFields entries) =
      essentialEntries RequestFile.sourceFields (mapEntryTexts env.fillText entries) := by
    have hessence : (Layout.record RequestFile.sourceFields).essence
        ((Data.map entries).mapTexts env.fillText) =
          ((Layout.record RequestFile.sourceFields).essence (.map entries)).mapTexts env.fillText :=
      Layout.essence_mapTexts _ _
    exact (Data.map.inj hessence).symm
  have hresolve : ∀ es, env.resolveEntries es =
      env.after ((Data.map es).names cutText) (mapEntryTexts env.fillText es) :=
    env.resolveEntries_eq
  unfold requestFileFrom
  rw [hresolve, hresolve, htexts]
  unfold after
  rw [hfirst]
  cases env.firstError? ((Data.map entries).names cutText) with
  | some e => rfl
  | none => simp only [requestFileOf_essentialEntries]

end Load

/-- Loading a request file whose YAML is a mapping. It is loaded exactly if all names that its texts
refer to are set and can be written, the request is read from the entries besides the assertions,
and an assertion is read from each of their items, in order. Otherwise the error is the first fault:
a name that is not found, behind names that are; assertions that are no list; a request that is not
valid; or the first assertion that is not, by its number. It is one that is reported exactly if the
first name that is not found, if there is one, can be written, and no text of the request is an
integer of too many digits. And entries that no field is read from, at any level, make no difference
if the names that they refer to are found. -/
theorem loadRequestFile_first_fault (env : ProcessEnvironment) {fs : Files} {path : FilePath}
    {entries : List (Data × Data)} (hmapping : loadMapping fs .request path = .ok entries) :
    (∀ file, loadRequestFile env fs path = .ok file ↔
      ∃ es, ResolvesTo env entries es ∧ DescribesRequestFile es file) ∧
      (∀ e, loadRequestFile env fs path = .error e ↔ RequestLoadFault env path.text entries e) ∧
      (Loads (loadRequestFile env fs path) ↔
        (∀ before name later, (Data.map entries).names cutText = before ++ name :: later →
          (∀ n ∈ before, ∃ value, env.lookup n = .ok value) →
          (∀ value, env.lookup name ≠ .ok value) → IsWritable name) ∧
        ∀ es, ResolvesTo env entries es → ¬IsOverlong es .request) ∧
      ∀ fs' entries', loadMapping fs' .request path = .ok entries' →
        essentialEntries RequestFile.sourceFields entries' =
          essentialEntries RequestFile.sourceFields entries →
        (∀ v ∈ (Layout.record RequestFile.sourceFields).ignored (.map entries) ++
            (Layout.record RequestFile.sourceFields).ignored (.map entries'),
          ∀ name ∈ v.names cutText, ∃ value, env.lookup name = .ok value) →
        loadRequestFile env fs' path = loadRequestFile env fs path := by
  rw [loadRequestFile_of_mapping hmapping]
  refine ⟨requestFileFrom_eq_ok_iff path.text, requestFileFrom_eq_error_iff path.text,
    requestFileFrom_loads_iff env path.text entries, ?_⟩
  intro fs' entries' hmapping' hessence hignored
  obtain ⟨hleft, hright⟩ := List.forall_mem_append.1 hignored
  rw [loadRequestFile_of_mapping hmapping', ← requestFileFrom_essentialEntries _ hright, hessence,
    requestFileFrom_essentialEntries _ hleft]

/-- The entries of a mapping from texts to texts. -/
def textEntries? : List (Data × Data) → Option (List (String × String))
  | [] => some []
  | (.text name, .text s) :: rest => (textEntries? rest).map ((name, s) :: ·)
  | _ => none

/-- They are all its entries. -/
theorem eq_of_textEntries? {entries : List (Data × Data)} (texts : List (String × String))
    (h : textEntries? entries = some texts) :
    entries = texts.map fun e => (.text e.1, .text e.2) := by
  fun_induction textEntries? entries generalizing texts with
  | case1 =>
    cases h
    rfl
  | case2 name s rest ih =>
    obtain ⟨more, hmore, rfl⟩ := Option.map_eq_some_iff.1 h
    rw [List.map_cons, ← ih more hmore]
  | case3 => cases h

/-- A file whose mapping has texts only. -/
theorem loadMapping_of_textEntries? {fs : Files} {path : FilePath} (texts : List (String × String))
    (h : (loadMapping fs .request path).toOption.any
      (fun entries => decide (textEntries? entries = some texts)) = true) :
    loadMapping fs .request path = .ok (texts.map fun e => (.text e.1, .text e.2)) := by
  obtain ⟨entries, hmapping, htexts⟩ := exists_eq_ok_of_any h
  rw [hmapping, ← eq_of_textEntries? texts (of_decide_eq_true htexts)]

/-- A file with a request, and more lines. -/
def requestWith (lines : String) : Files :=
  onlyFile (.file (Text.Utf8.encode ("method: GET\nurl: http://h.test/\n" ++ lines)))

/-- The entries of the request. -/
def plainEntries : List (Data × Data) :=
  [(.text "method", .text "GET"), (.text "url", .text "http://h.test/")]

/-- An environment with a key. -/
def keyVariables : ProcessEnvironment := .ofTexts [("KEY", "secret")]

/-- `loadRequestFile_first_fault` at an entry that is ignored. -/
theorem loadRequestFile_first_fault_note :
    ∃ entries entries' file,
      loadMapping (requestWith "") .request (.ofText "input.yaml") = .ok entries ∧
      loadMapping (requestWith "note: $\x7bKEY\x7d\n") .request (.ofText "input.yaml") =
        .ok entries' ∧
      entries'.length = entries.length + 1 ∧
      essentialEntries RequestFile.sourceFields entries' =
        essentialEntries RequestFile.sourceFields entries ∧
      (∀ v ∈ (Layout.record RequestFile.sourceFields).ignored (.map entries) ++
          (Layout.record RequestFile.sourceFields).ignored (.map entries'),
        ∀ name ∈ v.names cutText, ∃ value, keyVariables.lookup name = .ok value) ∧
      loadRequestFile keyVariables (requestWith "") (.ofText "input.yaml") = .ok file ∧
      loadRequestFile keyVariables (requestWith "note: $\x7bKEY\x7d\n") (.ofText "input.yaml") =
        .ok file := by
  have hplain : loadMapping (requestWith "") .request (.ofText "input.yaml") = .ok plainEntries :=
    loadMapping_of_textEntries? [("method", "GET"), ("url", "http://h.test/")] (by decide +kernel)
  have hnote : loadMapping (requestWith "note: $\x7bKEY\x7d\n") .request (.ofText "input.yaml") =
      .ok (plainEntries ++ [(.text "note", .text "$\x7bKEY\x7d")]) :=
    loadMapping_of_textEntries?
      [("method", "GET"), ("url", "http://h.test/"), ("note", "$\x7bKEY\x7d")] (by decide +kernel)
  have hessence : essentialEntries RequestFile.sourceFields
      (plainEntries ++ [(.text "note", .text "$\x7bKEY\x7d")]) =
        essentialEntries RequestFile.sourceFields plainEntries :=
    (eq_of_textEntries? [("method", "GET"), ("url", "http://h.test/")] (by decide +kernel)).trans
      (eq_of_textEntries? _ (by decide +kernel)).symm
  have hfound : ∀ v ∈ (Layout.record RequestFile.sourceFields).ignored (.map plainEntries) ++
      (Layout.record RequestFile.sourceFields).ignored
        (.map (plainEntries ++ [(.text "note", .text "$\x7bKEY\x7d")])),
      keyVariables.firstError? (v.names cutText) = none := by
    decide +kernel
  have hignored := fun v hv name hname =>
    (⟨_, (keyVariables.firstError?_eq_none_iff _).1 (hfound v hv) name hname⟩ :
      ∃ value, keyVariables.lookup name = .ok value)
  obtain ⟨hok, -, -, hsame⟩ := loadRequestFile_first_fault keyVariables hplain
  have hfile : loadRequestFile keyVariables (requestWith "") (.ofText "input.yaml") =
      .ok ⟨⟨"GET", "http://h.test/", [], [], .absent, .absent⟩, []⟩ := by
    refine (hok _).2 ⟨_, ⟨fun _ => [], fun name hname => ?_, rfl⟩, ?_, [], ?_, .nil⟩
    · have hnames : (Data.map plainEntries).names cutText = [] := by decide +kernel
      rw [hnames] at hname
      cases hname
    · decide +kernel
    · exact .absent (Option.isNone_iff_eq_none.1 (by decide +kernel))
  exact ⟨_, _, _, hplain, hnote, rfl, hessence, hignored, hfile,
    (hsame _ _ hnote hessence hignored).trans hfile⟩

/-- A request whose URL refers to a variable with a surrogate for a name. -/
def surrogateRequest : Files :=
  onlyFile (.file (Text.Utf8.encode "method: GET\nurl: \"$\x7b\\ud800\x7d\"\n"))

/-- A name that is not set is not always reported. -/
theorem loadRequestFile_first_fault_unreported :
    (∃ entries, loadMapping surrogateRequest .request (.ofText "input.yaml") = .ok entries ∧
      (Data.map entries).names cutText = [[0xD800]]) ∧
    (∀ value, ¬Sets [] [0xD800] value) ∧
    loadRequestFile [] surrogateRequest (.ofText "input.yaml") =
      .error (.unwritable ⟨"utf-8", "surrogates not allowed", 0, [0xD800]⟩) ∧
    ∀ c, loadRequestFile [] surrogateRequest (.ofText "input.yaml") ≠ .error (.config c) := by
  have hread : (loadMapping surrogateRequest .request (.ofText "input.yaml")).toOption.any
      (fun entries => decide ((Data.map entries).names cutText = [[0xD800]])) = true := by
    decide +kernel
  obtain ⟨entries, hmapping, hdecide⟩ := exists_eq_ok_of_any hread
  have hnames : (Data.map entries).names cutText = [[0xD800]] := of_decide_eq_true hdecide
  have hfault : RequestLoadFault [] "input.yaml" entries
      (.unwritable ⟨"utf-8", "surrogates not allowed", 0, [0xD800]⟩) :=
    .unwritable (hnames.trans (List.nil_append _).symm) nofun (by decide) (by decide +kernel)
  have hload : loadRequestFile [] surrogateRequest (.ofText "input.yaml") =
      .error (.unwritable ⟨"utf-8", "surrogates not allowed", 0, [0xD800]⟩) :=
    (loadRequestFile_of_mapping hmapping).trans hfault.eq_error
  refine ⟨⟨entries, hmapping, hnames⟩, ?_, hload, fun c h => ?_⟩
  · rintro value ⟨before, bytes, after, henv, -⟩
    simp at henv
  · cases hload.symm.trans h

end Courier
