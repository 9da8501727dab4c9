import Courier.Command.CheckVars
import Courier.Command.Send
import Courier.Proofs.Basic
import Courier.Proofs.OverlongNumbers
import Courier.Proofs.Utf8

/-!
# What loading a file reports

A file is loaded, or the failure is reported, unless what stands at its path is unreadable: a
directory, bytes that are no text, or a text with a scalar or a node that cannot be built; unless
a reference to the process environment has a name that cannot be written; or unless an integer that
should be a text has too many digits (`loadWith_loads_iff`). All kinds of files are loaded by one
function, and of what they describe only requests and environments have texts that an integer may
stand for. The commands load file after file, and report the first failure or end with it
(`load_failures`).
-/

namespace Courier

/-- Whether what stands at a path cannot be read, although it is there: it is a directory, its bytes
are not UTF-8, or its text is YAML with a scalar that is not what its tag says, or a mapping with a
node that holds itself. -/
inductive Files.IsUnreadable (fs : Files) (path : FilePath) : Prop
  | directory {place : List String} (h : fs.find path = .node place .directory)
  | notUtf8 {place : List String} {bs : List UInt8} (h : fs.find path = .node place (.file bs))
    (hbytes : Text.Utf8.decode? bs = none)
  | unbuilt {place : List String} {bs : List UInt8} {text : String} {e : Yaml.Error}
    (h : fs.find path = .node place (.file bs)) (htext : Text.Utf8.decode? bs = some text)
    (herror : Yaml.read (String.ofList (plainBreaks text.toList)) = .error e) (he : e ≠ .malformed)

/-- The items of the entry with the assertions. One that is absent or empty has none. -/
inductive AssertionItems (es : List (Data × Data)) : List Data → Prop where
  | absent (h : Data.lookup? es assertionsKey = none) : AssertionItems es []
  | empty {v : Data} (h : Data.lookup? es assertionsKey = some v)
    (hempty : v.isEmptyValue = true) : AssertionItems es []
  | list {items : List Data} (h : Data.lookup? es assertionsKey = some (.list items)) :
    AssertionItems es items

/-- The entries besides the one with the assertions. -/
def requestEntries (es : List (Data × Data)) : List (Data × Data) :=
  es.filter fun e => !e.1.same assertionsKey

/-- Whether what a mapping describes has an integer of too many digits for a text: the request, if
there are assertions to go with it, or the environment. Transport settings have no such texts. -/
inductive IsOverlong (es : List (Data × Data)) : FileKind → Prop
  | request {items : List Data} (hitems : AssertionItems es items)
    (h : Request.HasOverlong (.map (requestEntries es))) : IsOverlong es .request
  | environment (h : Environment.HasOverlong (.map es)) : IsOverlong es .environment

/-- Whether what stands at a path cannot be loaded in an environment: it cannot be read, the first
reference of its mapping that has no value has a name that cannot be written, or what the resolved
mapping describes has an integer of too many digits for a text. -/
inductive Files.IsUnloadable (fs : Files) (env : ProcessEnvironment) (kind : FileKind)
    (path : FilePath) : Prop
  | unreadable (h : fs.IsUnreadable path)
  | unwritable {place : List String} {bs : List UInt8} {text : String}
    {entries : List (Data × Data)} {fault : Text.EncodingFault}
    (h : fs.find path = .node place (.file bs)) (htext : Text.Utf8.decode? bs = some text)
    (hread : Yaml.read (String.ofList (plainBreaks text.toList)) = .ok (.map entries))
    (hname : env.resolveEntries entries = .error (.unwritable fault))
  | overlong {place : List String} {bs : List UInt8} {text : String}
    {entries es : List (Data × Data)}
    (h : fs.find path = .node place (.file bs)) (htext : Text.Utf8.decode? bs = some text)
    (hread : Yaml.read (String.ofList (plainBreaks text.toList)) = .ok (.map entries))
    (hes : env.resolveEntries entries = .ok es) (hlong : IsOverlong es kind)

/-- Whether loading gives a result, or a failure that is reported. -/
def Loads {α : Type} (r : Except LoadError α) : Prop :=
  (∃ a, r = .ok a) ∨ ∃ c, r = .error (.config c)

section Loads

variable {α β : Type} {r : Except LoadError α}

/-- A failure is reported or not by its kind. -/
theorem loads_error_iff (e : LoadError) :
    Loads (.error e : Except LoadError α) ↔ ∃ c, e = .config c := by
  simp [Loads]

/-- A step that only fails with reported failures changes nothing. -/
theorem loads_bind_iff {f : α → Except LoadError β} (hf : ∀ a, Loads (f a)) :
    Loads (r >>= f) ↔ Loads r := by
  cases r with
  | error e => exact (loads_error_iff e).trans (loads_error_iff e).symm
  | ok a => exact iff_of_true (hf a) (.inl ⟨a, rfl⟩)

/-- Taking a part of the result changes nothing. -/
theorem loads_map_iff (f : α → β) : Loads (r.map f) ↔ Loads r := by
  cases r with
  | error e => exact (loads_error_iff e).trans (loads_error_iff e).symm
  | ok a => exact iff_of_true (.inl ⟨f a, rfl⟩) (.inl ⟨a, rfl⟩)

end Loads

/-- Bytes give a text, or their fault. -/
theorem decodeFile_cases (bs : List UInt8) :
    (∃ text, Text.Utf8.decode? bs = some text ∧
        decodeFile bs = .ok (String.ofList (plainBreaks text.toList))) ∨
      Text.Utf8.decode? bs = none ∧ ∃ fault, decodeFile bs = .error (.notUtf8 fault) := by
  unfold decodeFile
  cases hbytes : Text.Utf8.decode? bs with
  | some text => exact .inl ⟨text, rfl, rfl⟩
  | none =>
    obtain ⟨fault, hfault⟩ :=
      Option.ne_none_iff_exists'.1 ((Text.Utf8.decode?_eq_none_iff bs).1 hbytes)
    rw [hfault]
    exact .inr ⟨rfl, _, rfl⟩

/-- A text gives a mapping or a reported failure unless it is YAML that cannot be built. -/
theorem parseMapping_loads_iff (kind : FileKind) (path text : String) :
    Loads (parseMapping kind path text) ↔ ∀ e, Yaml.read text = .error e → e = .malformed := by
  unfold parseMapping
  cases Yaml.read text with
  | error e =>
    simp only [Except.error.injEq, forall_eq']
    cases e with
    | malformed => exact iff_of_true (.inr ⟨_, rfl⟩) rfl
    | _ => exact (loads_error_iff _).trans (by simp)
  | ok v =>
    refine iff_of_true ?_ nofun
    cases v with
    | map entries => exact .inl ⟨entries, rfl⟩
    | _ => exact .inr ⟨_, rfl⟩

/-- A file can be read exactly if its bytes are a text, and the text is not YAML that cannot be
built. -/
theorem not_isUnreadable_of_file {fs : Files} {path : FilePath} {place : List String}
    {bs : List UInt8} (h : fs.find path = .node place (.file bs)) :
    ¬ fs.IsUnreadable path ↔ ∃ text, Text.Utf8.decode? bs = some text ∧
      ∀ e, Yaml.read (String.ofList (plainBreaks text.toList)) = .error e → e = .malformed := by
  constructor
  · intro hfit
    cases hbytes : Text.Utf8.decode? bs with
    | none => exact (hfit (.notUtf8 h hbytes)).elim
    | some text =>
      refine ⟨text, rfl, fun e herror => Decidable.byContradiction fun he => ?_⟩
      exact hfit (.unbuilt h hbytes herror he)
  · rintro ⟨text, htext, hyaml⟩ hunfit
    cases hunfit with
    | directory h' => cases h.symm.trans h'
    | notUtf8 h' hbytes =>
      cases h.symm.trans h'
      cases htext.symm.trans hbytes
    | unbuilt h' htext' herror he =>
      cases h.symm.trans h'
      cases htext.symm.trans htext'
      exact he (hyaml _ herror)

/-- What is unreadable is there. -/
theorem Files.IsUnreadable.has {fs : Files} {path : FilePath} (h : fs.IsUnreadable path) :
    fs.has path = true := by
  cases h with
  | directory h => rw [Files.has, h]
  | notUtf8 h _ => rw [Files.has, h]
  | unbuilt h _ _ _ => rw [Files.has, h]

section Mapping

variable {fs : Files} {path : FilePath} {place : List String}

/-- What is not there is reported. -/
theorem loadMapping_of_has_eq_false (kind : FileKind) (h : fs.has path = false) :
    loadMapping fs kind path = .error (.config (.missing kind path.text)) := by
  rw [loadMapping, h]
  rfl

/-- A directory is there, but cannot be opened. -/
theorem loadMapping_of_directory (kind : FileKind) (h : fs.find path = .node place .directory) :
    loadMapping fs kind path = .error (.file (.isDirectory path.text)) := by
  have hthere : fs.has path = true := by
    rw [Files.has, h]
  rw [loadMapping, hthere, Files.content, h]
  rfl

/-- A file is decoded and parsed. -/
theorem loadMapping_of_file (kind : FileKind) {bs : List UInt8}
    (h : fs.find path = .node place (.file bs)) :
    loadMapping fs kind path =
      match decodeFile bs with
      | .error e => .error e
      | .ok text => parseMapping kind path.text text := by
  have hthere : fs.has path = true := by
    rw [Files.has, h]
  rw [loadMapping, hthere, Files.content, h]
  rfl

/-- Looking for the mapping of a file fails in an unreported way exactly if the file is
unreadable. -/
theorem loadMapping_loads_iff (fs : Files) (kind : FileKind) (path : FilePath) :
    Loads (loadMapping fs kind path) ↔ ¬ fs.IsUnreadable path := by
  have hgone : fs.has path = false →
      (Loads (loadMapping fs kind path) ↔ ¬ fs.IsUnreadable path) := by
    intro hhas
    rw [loadMapping_of_has_eq_false kind hhas]
    refine iff_of_true (.inr ⟨_, rfl⟩) fun hunfit => ?_
    rw [hunfit.has] at hhas
    cases hhas
  cases hfind : fs.find path with
  | node place n =>
    cases n with
    | directory =>
      rw [loadMapping_of_directory kind hfind, loads_error_iff]
      exact iff_of_false (by simp) (not_not_intro (.directory hfind))
    | file bs =>
      rw [loadMapping_of_file kind hfind, not_isUnreadable_of_file hfind]
      obtain ⟨text, htext, hdecode⟩ | ⟨hnone, fault, hdecode⟩ := decodeFile_cases bs
      · rw [hdecode, htext]
        simp only [Option.some.injEq, exists_eq_left']
        exact parseMapping_loads_iff _ _ _
      · rw [hdecode, hnone]
        exact (loads_error_iff _).trans (by simp)
  -- a path that leads nowhere is missing, for whatever reason
  | absent place => exact hgone (by rw [Files.has, hfind])
  | missing => exact hgone (by rw [Files.has, hfind])
  | blocked => exact hgone (by rw [Files.has, hfind])

end Mapping

/-- The mapping of a file is what its text describes. -/
theorem loadMapping_eq_ok_iff {fs : Files} {path : FilePath} (kind : FileKind)
    (entries : List (Data × Data)) :
    loadMapping fs kind path = .ok entries ↔ ∃ place bs text,
      fs.find path = .node place (.file bs) ∧ Text.Utf8.decode? bs = some text ∧
        Yaml.read (String.ofList (plainBreaks text.toList)) = .ok (.map entries) := by
  constructor
  · intro h
    have hgone : fs.has path ≠ false := by
      intro hhas
      rw [loadMapping_of_has_eq_false kind hhas] at h
      cases h
    cases hfind : fs.find path with
    | node place n =>
      cases n with
      | directory =>
        rw [loadMapping_of_directory kind hfind] at h
        cases h
      | file bs =>
        rw [loadMapping_of_file kind hfind] at h
        obtain ⟨text, htext, hdecode⟩ | ⟨-, fault, hdecode⟩ := decodeFile_cases bs
        · rw [hdecode] at h
          simp only [parseMapping] at h
          refine ⟨place, bs, text, rfl, htext, ?_⟩
          split at h
          · rename_i hread
            cases h
            exact hread
          all_goals cases h
        · rw [hdecode] at h
          cases h
    | absent place => exact (hgone (by rw [Files.has, hfind])).elim
    | missing => exact (hgone (by rw [Files.has, hfind])).elim
    | blocked => exact (hgone (by rw [Files.has, hfind])).elim
  · rintro ⟨place, bs, text, hfind, htext, hread⟩
    rw [loadMapping_of_file kind hfind, decodeFile, htext]
    simp only [parseMapping, hread]

/-! ## What a mapping describes -/

section Contents

variable {path : String} {es : List (Data × Data)} {items : List Data}

/-- Items are found. -/
theorem AssertionItems.eq_ok (h : AssertionItems es items) (path : String) :
    assertionItems path es = .ok items := by
  unfold assertionItems
  cases h with
  | absent h => rw [h]
  | list h => rw [h]
  | empty h hempty =>
    rw [h]
    split
    · rename_i hnone
      cases hnone
    · rename_i items hlist
      cases hlist
      -- a list without items is one that is empty
      cases items with
      | nil => rfl
      | cons x xs => cases hempty
    · rename_i v _ hv
      cases hv
      rw [if_pos hempty]

/-- There are items, or the entry is something else, which is an error. -/
theorem assertionItems_cases (path : String) (es : List (Data × Data)) :
    (∃ items, AssertionItems es items) ∨
      (∃ v, Data.lookup? es assertionsKey = some v ∧ v.isEmptyValue = false ∧
        ∀ items, v ≠ .list items) ∧ assertionItems path es = .error (.assertionsNotList path) := by
  unfold assertionItems
  cases h : Data.lookup? es assertionsKey with
  | none => exact .inl ⟨[], .absent h⟩
  | some v =>
    by_cases hempty : v.isEmptyValue = true
    · exact .inl ⟨[], .empty h hempty⟩
    · by_cases hlist : ∃ items, v = .list items
      · obtain ⟨items, rfl⟩ := hlist
        exact .inl ⟨items, .list h⟩
      · refine .inr ⟨⟨v, rfl, Bool.eq_false_iff.2 hempty, fun items hv => hlist ⟨items, hv⟩⟩, ?_⟩
        split
        · rename_i hnone
          cases hnone
        · rename_i items hv
          cases hv
          exact (hlist ⟨items, rfl⟩).elim
        · rename_i v _ hv
          cases hv
          rw [if_neg hempty]

/-- The items are found first, then the request is read, and then the assertions. -/
theorem requestFileOf_eq (path : String) (es : List (Data × Data)) :
    requestFileOf path es = ((assertionItems path es).mapError .config).bind fun items =>
      match Request.read (.map (requestEntries es)) with
      | .refused why => .error (.ofRefusal (.invalid .request path) why)
      | .accepted request => (readAssertions path 1 items).map (RequestFile.mk request) := by
  unfold requestFileOf
  cases assertionItems path es with
  | error c => rfl
  | ok items =>
    simp only [requestEntries, bind, Except.bind, pure, Except.pure, Except.mapError]
    cases Request.read (.map (es.filter fun e => !e.1.same assertionsKey)) with
    | refused why => rfl
    | accepted request => cases readAssertions path 1 items <;> rfl

/-- A refusal is reported exactly if it is for issues. -/
theorem exists_ofRefusal_eq_config_iff (report : List Schema.Issue → ConfigError)
    (why : Schema.Refusal) :
    (∃ c, LoadError.ofRefusal report why = .config c) ↔ why ≠ .overlong := by
  cases why with
  | issues found => exact iff_of_true ⟨_, rfl⟩ nofun
  | overlong => exact iff_of_false nofun (not_not_intro rfl)

/-- A model is read, or not for a reason that is reported unless it is an integer of too many
digits. -/
theorem modelOf_loads_iff {α : Type} (kind : FileKind) (read : Data → Schema.Check α)
    (path : String) (es : List (Data × Data)) :
    Loads (modelOf kind read path es) ↔ read (.map es) ≠ .refused .overlong := by
  unfold modelOf
  cases read (.map es) with
  | accepted a => exact iff_of_true (.inl ⟨a, rfl⟩) nofun
  | refused why =>
    rw [loads_error_iff, exists_ofRefusal_eq_config_iff, ne_eq, ne_eq, Schema.Check.refused.injEq]

/-- Assertions are read, or not for a reason that is reported. -/
theorem loads_readAssertions (path : String) (number : Nat) (items : List Data) :
    Loads (readAssertions path number items) := by
  induction items generalizing number with
  | nil => exact .inl ⟨[], rfl⟩
  | cons v rest ih =>
    unfold readAssertions
    cases hread : Assertion.read v with
    | refused why =>
      rw [loads_error_iff, exists_ofRefusal_eq_config_iff]
      rintro rfl
      exact Assertion.read_ne_overlong v hread
    | accepted a =>
      exact (loads_bind_iff (r := readAssertions path (number + 1) rest)
        fun as => .inl ⟨a :: as, rfl⟩).2 (ih (number + 1))

/-- A request file is read, or not for a reason that is reported unless it is an integer of too many
digits. -/
theorem requestFileOf_loads_iff (path : String) (es : List (Data × Data)) :
    Loads (requestFileOf path es) ↔ ¬IsOverlong es .request := by
  rw [requestFileOf_eq]
  obtain ⟨items, hitems⟩ | ⟨⟨v, hv, hempty, hlist⟩, herror⟩ := assertionItems_cases path es
  · rw [hitems.eq_ok path]
    simp only [Except.mapError, Except.bind]
    have hlong : IsOverlong es .request ↔ Request.HasOverlong (.map (requestEntries es)) :=
      ⟨fun | .request _ h => h, .request hitems⟩
    rw [hlong, ← Request.read_eq_overlong_iff]
    cases Request.read (.map (requestEntries es)) with
    | accepted request =>
      refine iff_of_true ?_ nofun
      rw [loads_map_iff]
      exact loads_readAssertions path 1 items
    | refused why =>
      rw [loads_error_iff, exists_ofRefusal_eq_config_iff, ne_eq, Schema.Check.refused.injEq]
  · rw [herror]
    refine iff_of_true (.inr ⟨_, rfl⟩) fun h => ?_
    -- without items the request is not read
    cases h with
    | request hitems h =>
      rw [hitems.eq_ok path] at herror
      cases herror

end Contents

/-- Whatever kind of file is loaded, the failure is reported unless it cannot be loaded in the
environment. -/
theorem loadWith_loads_iff {α : Type} {kind : FileKind}
    {read : String → List (Data × Data) → Except LoadError α}
    (hread : ∀ path es, Loads (read path es) ↔ ¬IsOverlong es kind) (env : ProcessEnvironment)
    (fs : Files) (path : FilePath) :
    Loads (loadWith kind read env fs path) ↔ ¬ fs.IsUnloadable env kind path := by
  have hmapping := loadMapping_loads_iff fs kind path
  have hstages : loadWith kind read env fs path = (loadMapping fs kind path).bind fun entries =>
      (resolveMapping env entries).bind (read path.text) := rfl
  rw [hstages]
  cases hload : loadMapping fs kind path with
  | error e =>
    -- without a mapping there is nothing more that could fail
    rw [hload] at hmapping
    refine (loads_error_iff e).trans ((loads_error_iff e).symm.trans (hmapping.trans ?_))
    have hnone : ∀ {place : List String} {bs : List UInt8} {text : String}
        {entries : List (Data × Data)}, fs.find path = .node place (.file bs) →
        Text.Utf8.decode? bs = some text →
        Yaml.read (String.ofList (plainBreaks text.toList)) ≠ .ok (.map entries) := by
      intro place bs text entries h htext hyaml
      rw [(loadMapping_eq_ok_iff kind _).2 ⟨_, _, _, h, htext, hyaml⟩] at hload
      cases hload
    refine not_congr ⟨.unreadable, fun h => ?_⟩
    cases h with
    | unreadable h => exact h
    | unwritable h htext hyaml _ => exact (hnone h htext hyaml).elim
    | overlong h htext hyaml _ _ => exact (hnone h htext hyaml).elim
  | ok entries =>
    rw [hload] at hmapping
    have hfit : ¬ fs.IsUnreadable path := hmapping.1 (.inl ⟨entries, rfl⟩)
    obtain ⟨place, bs, text, hfind, htext, hyaml⟩ := (loadMapping_eq_ok_iff kind entries).1 hload
    -- what else cannot be loaded has this mapping
    have hunloadable : fs.IsUnloadable env kind path ↔
        (∃ fault, env.resolveEntries entries = .error (.unwritable fault)) ∨
          ∃ es, env.resolveEntries entries = .ok es ∧ IsOverlong es kind := by
      constructor
      · intro h
        cases h with
        | unreadable h => exact (hfit h).elim
        | unwritable h htext' hyaml' hname =>
          cases hfind.symm.trans h
          cases htext.symm.trans htext'
          cases hyaml.symm.trans hyaml'
          exact .inl ⟨_, hname⟩
        | overlong h htext' hyaml' hes hlong =>
          cases hfind.symm.trans h
          cases htext.symm.trans htext'
          cases hyaml.symm.trans hyaml'
          exact .inr ⟨_, hes, hlong⟩
      · rintro (⟨fault, hname⟩ | ⟨es, hes, hlong⟩)
        · exact .unwritable hfind htext hyaml hname
        · exact .overlong hfind htext hyaml hes hlong
    rw [hunloadable, Except.bind, resolveMapping]
    cases hes : env.resolveEntries entries with
    | ok es => simpa [Except.bind] using hread path.text es
    | error e =>
      cases e with
      | unset name => exact iff_of_true (.inr ⟨.unset name, rfl⟩) (by simp)
      | unwritable fault => exact (loads_error_iff _).trans (by simp)

/-- The failure to load a request file is reported unless it cannot be loaded. -/
theorem loadRequestFile_loads_iff (env : ProcessEnvironment) (fs : Files) (path : FilePath) :
    Loads (loadRequestFile env fs path) ↔ ¬ fs.IsUnloadable env .request path :=
  loadWith_loads_iff requestFileOf_loads_iff env fs path

/-- The same for an environment. -/
theorem loadEnvironment_loads_iff (env : ProcessEnvironment) (fs : Files) (path : FilePath) :
    Loads (loadEnvironment env fs path) ↔ ¬ fs.IsUnloadable env .environment path := by
  have hlong : ∀ es, Environment.read (.map es) = .refused .overlong ↔
      IsOverlong es .environment := fun es =>
    (Environment.read_eq_overlong_iff _).trans ⟨.environment, fun | .environment h => h⟩
  exact loadWith_loads_iff (fun path es => (modelOf_loads_iff .environment _ path es).trans
    (not_congr (hlong es))) env fs path

/-- The same for transport settings. -/
theorem loadTransport_loads_iff (env : ProcessEnvironment) (fs : Files) (path : FilePath) :
    Loads (loadTransport env fs path) ↔ ¬ fs.IsUnloadable env .transport path := by
  have hnever : ∀ es, ¬IsOverlong es .transport := nofun
  exact loadWith_loads_iff (fun path es => (modelOf_loads_iff .transport _ path es).trans
    (iff_of_true (Transport.read_ne_overlong _) (hnever es))) env fs path

namespace Command

variable {m : Machine} {path : FilePath} {e : LoadError}

/-- The file of a command that is not loaded, after those before it are, and its failure. -/
inductive Sources.FailsAt (m : Machine) (s : Sources) : FileKind → FilePath → LoadError → Prop
  | request {e : LoadError} (h : loadRequestFile m.environment m.files s.request = .error e) :
    Sources.FailsAt m s .request s.request e
  | environment {file : RequestFile} {path : FilePath} {e : LoadError}
    (hfile : loadRequestFile m.environment m.files s.request = .ok file)
    (hpath : s.environment = some path)
    (h : loadEnvironment m.environment m.files path = .error e) :
    Sources.FailsAt m s .environment path e

/-- The same for `send`, which loads transport settings last. -/
inductive SendArguments.FailsAt (m : Machine) (a : SendArguments) :
    FileKind → FilePath → LoadError → Prop
  | sources {kind : FileKind} {path : FilePath} {e : LoadError}
    (h : a.sources.FailsAt m kind path e) : SendArguments.FailsAt m a kind path e
  | transport {inputs : Inputs} {path : FilePath} {e : LoadError}
    (hinputs : a.sources.load m = .ok inputs) (hpath : a.config = some path)
    (h : loadTransport m.environment m.files path = .error e) :
    SendArguments.FailsAt m a .transport path e

/-- How a command ends at a file that is not loaded. The failure is reported and the exit code is
one; where the file cannot be loaded, it ends the program. -/
def EndsAt (m : Machine) (kind : FileKind) (path : FilePath) (e : LoadError) (o : Outcome) :
    Prop :=
  (¬ m.files.IsUnloadable m.environment kind path ∧ ∃ c, e = .config c ∧
      o = ⟨.ok 1, [], "Error loading config: " ++ c.message ++ "\n", [], m.files⟩) ∨
    m.files.IsUnloadable m.environment kind path ∧ o = ⟨.error (.load e), [], [], [], m.files⟩

/-- A failure to load is reported if it is of the kind that is. -/
theorem endsAt_failLoad {α : Type} {r : Except LoadError α} {kind : FileKind}
    (hloads : Loads r ↔ ¬ m.files.IsUnloadable m.environment kind path) (h : r = .error e) :
    EndsAt m kind path e ((Outcome.start m.files).failLoad e) := by
  rw [h, loads_error_iff] at hloads
  by_cases hunloadable : m.files.IsUnloadable m.environment kind path
  · refine .inr ⟨hunloadable, ?_⟩
    cases e with
    | config c => exact (hloads.1 ⟨c, rfl⟩ hunloadable).elim
    | _ => rfl
  · obtain ⟨c, rfl⟩ := hloads.2 hunloadable
    refine .inl ⟨hunloadable, c, rfl, ?_⟩
    simp [Outcome.failLoad, Outcome.fail, Outcome.report, Outcome.exit, Outcome.start]

/-- The inputs are loaded, or one of their files is not, and its failure is theirs. -/
theorem Sources.load_cases (m : Machine) (s : Sources) :
    (∃ inputs, s.load m = .ok inputs) ∨
      ∃ kind path e, s.FailsAt m kind path e ∧ s.load m = .error e ∧
        EndsAt m kind path e ((Outcome.start m.files).failLoad e) := by
  unfold load
  cases hfile : loadRequestFile m.environment m.files s.request with
  | error e =>
    exact .inr ⟨_, _, e, .request hfile, rfl,
      endsAt_failLoad (loadRequestFile_loads_iff _ _ _) hfile⟩
  | ok file =>
    cases hpath : s.environment with
    | none => exact .inl ⟨_, rfl⟩
    | some path =>
      cases henv : loadEnvironment m.environment m.files path with
      | error e =>
        refine .inr ⟨_, path, e, .environment hfile hpath henv, ?_,
          endsAt_failLoad (loadEnvironment_loads_iff _ _ _) henv⟩
        simp only [bind, Except.bind, henv]
      | ok environment =>
        refine .inl ⟨⟨file, some environment⟩, ?_⟩
        simp only [bind, Except.bind, henv, pure, Except.pure]

/-- `send` loads its inputs and its settings, or ends at the file that is not loaded. -/
theorem runSend_cases (m : Machine) (a : SendArguments) :
    (∃ inputs t, a.sources.load m = .ok inputs ∧ a.transport m = .ok t) ∨
      ∃ kind path e, a.FailsAt m kind path e ∧ EndsAt m kind path e (runSend m a) := by
  unfold runSend
  obtain ⟨inputs, hinputs⟩ | ⟨kind, path, e, hfails, he, hends⟩ := a.sources.load_cases m
  · rw [hinputs]
    simp only
    unfold SendArguments.transport
    -- without a file of settings there is nothing more that could fail
    cases hconfig : a.config with
    | none => exact .inl ⟨inputs, _, rfl, rfl⟩
    | some path =>
      cases hload : loadTransport m.environment m.files path with
      | error e =>
        simp only [hload, Except.map]
        exact .inr ⟨_, path, e, .transport hinputs hconfig hload,
          endsAt_failLoad (loadTransport_loads_iff _ _ _) hload⟩
      | ok t =>
        simp only [hload, Except.map]
        exact .inl ⟨inputs, _, rfl, rfl⟩
  · rw [he]
    exact .inr ⟨kind, path, e, .sources hfails, hends⟩

end Command

/-- The files of a machine that has only one. -/
def onlyFile (n : FileNode) : Files := [(["input.yaml"], n)]

end Courier
