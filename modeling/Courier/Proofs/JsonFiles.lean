import Courier.Proofs.FlowValues
import Courier.Proofs.JsonReferences
import Courier.Proofs.Loading

/-!
# Files in JSON

Files are written in YAML, of which JSON is meant to be a part. A file in JSON is accepted as the
mapping that its text describes (`load_of_json`) if the text is written in a way that is the same in
both languages and no reference opens in it. Not every JSON text is: YAML knows no tabs between
tokens, no numbers with an exponent that have no point or no sign in the exponent, no pairs of
escapes, and no keys that are long or on several lines.
-/

namespace Courier

/-- Whether a JSON text is written in a way that is the same in YAML, and no escape in it stands for
a character of the mark that opens a reference. -/
def Json.IsSame (text : String) : Prop :=
  ∃ d : Json.Document, d.source id = text.toList ∧ d.isSame = true ∧
    ∀ ps ∈ d.root.texts, ∀ p ∈ ps, p.hidesMark = false

/-- Such a text is read as the same mapping once its line breaks are plain. -/
theorem Json.IsSame.read_plainBreaks {text : String} (h : Json.IsSame text)
    {entries : List (Data × Data)} (hread : Json.read text = .ok (.map entries)) :
    Yaml.read (String.ofList (plainBreaks text.toList)) = .ok (.map entries) := by
  obtain ⟨d, hsource, hsame, -⟩ := h
  have hvalue := (Json.read_eq_ok_iff text _).2 ⟨d, hsource, rfl⟩
  rw [hread] at hvalue
  rw [← hsource, d.plainBreaks_source]
  exact Json.Document.read_source (Except.ok.inj hvalue).symm hsame

/-- The value of such a text has no references if none opens in the text. -/
theorem Json.IsSame.entriesAreSettled {text : String} (h : Json.IsSame text)
    {entries : List (Data × Data)} (hread : Json.read text = .ok (.map entries))
    (hopen : ¬ ['$', '\x7b'] <:+: text.toList) : Data.entriesAreSettled entries = true := by
  obtain ⟨d, hsource, hsame, hmarks⟩ := h
  have hvalue := (Json.read_eq_ok_iff text _).2 ⟨d, hsource, rfl⟩
  rw [hread] at hvalue
  rw [← hsource] at hopen
  have hsettled := Json.Document.isSettled_value hsame hmarks hopen
  rwa [← Except.ok.inj hvalue] at hsettled

section Files

variable {fs : Files} {path : FilePath} {place : List String} {bs : List UInt8} {text : String}
  {entries : List (Data × Data)}

/-- The mapping of a file in JSON is the one that its text describes. -/
theorem loadMapping_of_json (kind : FileKind) (hfile : fs.find path = .node place (.file bs))
    (hbytes : Text.Utf8.decode? bs = some text) (hread : Json.read text = .ok (.map entries))
    (hsame : Json.IsSame text) : loadMapping fs kind path = .ok entries := by
  have hyaml := hsame.read_plainBreaks hread
  rw [loadMapping_of_file kind hfile, decodeFile, hbytes]
  simp only [parseMapping, hyaml]

/-- A file in JSON is read as what its text describes. -/
theorem loadWith_of_json {α : Type} (kind : FileKind)
    (read : String → List (Data × Data) → Except LoadError α) (env : ProcessEnvironment)
    (hfile : fs.find path = .node place (.file bs)) (hbytes : Text.Utf8.decode? bs = some text)
    (hread : Json.read text = .ok (.map entries)) (hsame : Json.IsSame text)
    (hopen : ¬ ['$', '\x7b'] <:+: text.toList) :
    loadWith kind read env fs path = read path.text entries := by
  have hresolve := env.resolveEntries_of_isSettled entries (hsame.entriesAreSettled hread hopen)
  rw [loadWith, loadMapping_of_json kind hfile hbytes hread hsame]
  simp only [bind, Except.bind, resolveMapping, hresolve]

/-- Files in JSON are accepted as JSON where that is written in a way that is the same in YAML. -/
theorem load_of_json (env : ProcessEnvironment) (hfile : fs.find path = .node place (.file bs))
    (hbytes : Text.Utf8.decode? bs = some text) (hread : Json.read text = .ok (.map entries))
    (hopen : ¬ ['$', '\x7b'] <:+: text.toList) (hsame : Json.IsSame text) :
    loadRequestFile env fs path = requestFileOf path.text entries ∧
      loadEnvironment env fs path =
        modelOf .environment Environment.read path.text entries ∧
      loadTransport env fs path =
        modelOf .transport Transport.read path.text entries :=
  ⟨loadWith_of_json .request _ env hfile hbytes hread hsame hopen,
    loadWith_of_json .environment _ env hfile hbytes hread hsame hopen,
    loadWith_of_json .transport _ env hfile hbytes hread hsame hopen⟩

end Files

/-! ## Settings in JSON -/

/-- Letters as parts of a string. -/
def letters (s : String)
    (h : (s.toList.all fun c => decide (0x20 ≤ c.toNat ∧ c ≠ '"' ∧ c ≠ '\\')) = true) :
    List Json.Piece :=
  s.toList.pmap Json.Piece.plain (forall_mem_of_all h)

/-- A file at a path. -/
def settingsFile (text : String) : Files := [(["settings"], .file (Text.Utf8.encode text))]

/-- The path of the file. -/
def settingsPath : FilePath := .ofText "settings"

/-- A one is a number without a needless zero in front. -/
theorem isWhole_one : Json.IsWhole ['1'] where
  all_digits := forall_mem_of_all rfl
  ne_nil := by decide
  eq_zero := by decide

/-- No white space. -/
def noGap : Json.Gap := ⟨[], rfl⟩

/-- Transport settings with a number in exponential form and an escape. -/
def settingsText : String :=
  "\x7b\r\n\"timeout\": 1.1E+1, \"ca_bundle\": \"caf\\u00e9\"\x7d\n"

/-- The tree of `settingsText`. -/
def settingsDocument : Json.Document :=
  ⟨noGap, .map ⟨['\r', '\n'], rfl⟩
    (.more ⟨letters "timeout" rfl, noGap, ⟨[' '], rfl⟩⟩
      (.literal (.double false ['1'] ['1']
        (some ⟨'E', some false, ['1'], .inr rfl, isWhole_one.all_digits, isWhole_one.ne_nil⟩)
        isWhole_one isWhole_one.all_digits (.inl isWhole_one.ne_nil)))
      noGap ⟨[' '], rfl⟩
      (.last ⟨letters "ca_bundle" rfl, noGap, ⟨[' '], rfl⟩⟩
        (.text (letters "caf" rfl ++ [.code '0' '0' 'e' '9' rfl])) noGap)), ⟨['\n'], rfl⟩⟩

/-- `load_of_json` at transport settings. -/
theorem load_of_json_settings :
    ∃ entries, Json.read settingsText = .ok (.map entries) ∧ Json.IsSame settingsText ∧
      ¬ ['$', '\x7b'] <:+: settingsText.toList ∧
      loadRequestFile [] (settingsFile settingsText) settingsPath =
        requestFileOf settingsPath.text entries ∧
      loadEnvironment [] (settingsFile settingsText) settingsPath =
        modelOf .environment Environment.read settingsPath.text entries ∧
      loadTransport [] (settingsFile settingsText) settingsPath =
        .ok ⟨.ofInt 11, false, some "café", true⟩ := by
  have hsource : settingsDocument.source id = settingsText.toList := by decide +kernel
  have hread : Json.read settingsText = .ok settingsDocument.root.value :=
    (Json.read_eq_ok_iff _ _).2 ⟨settingsDocument, hsource, rfl⟩
  have hsame : Json.IsSame settingsText :=
    ⟨settingsDocument, hsource, by decide +kernel, by decide +kernel⟩
  have hopen : ¬ ['$', '\x7b'] <:+: settingsText.toList := by decide +kernel
  have hbytes := Text.Utf8.decode?_encode settingsText
  obtain ⟨hrequest, henvironment, htransport⟩ := load_of_json []
    (rfl : (settingsFile settingsText).find settingsPath = .node ["settings"] (.file _)) hbytes
    hread hopen hsame
  exact ⟨_, hread, hsame, hopen, hrequest, henvironment, htransport.trans (by decide +kernel)⟩

/-- Settings with a tab behind a colon. -/
def tabbedText : String := "\x7b\"timeout\":\t1\x7d"

/-- The tree of `tabbedText`. -/
def tabbedDocument : Json.Document :=
  ⟨noGap, .map noGap
    (.last ⟨letters "timeout" rfl, noGap, ⟨['\t'], rfl⟩⟩
      (.literal (.integer false ['1'] isWhole_one (Nat.le_of_ble_eq_true rfl))) noGap), noGap⟩

/-- A file in JSON need not be accepted as JSON: not if there is a tab between two tokens. -/
theorem exists_json_not_loaded :
    ∃ entries, Json.read tabbedText = .ok (.map entries) ∧
      ¬ ['$', '\x7b'] <:+: tabbedText.toList ∧
      modelOf .transport Transport.read settingsPath.text entries =
        .ok ⟨.ofInt 1, false, none, true⟩ ∧
      loadTransport [] (settingsFile tabbedText) settingsPath =
        .error (.config (.malformed .transport)) := by
  have hread : Json.read tabbedText = .ok tabbedDocument.root.value :=
    (Json.read_eq_ok_iff _ _).2 ⟨tabbedDocument, by decide +kernel, rfl⟩
  have hfile : (settingsFile tabbedText).find settingsPath =
      .node ["settings"] (.file (Text.Utf8.encode tabbedText)) := rfl
  have hyaml : Yaml.read (String.ofList (plainBreaks tabbedText.toList)) = .error .malformed := by
    have hfails : (Yaml.read (String.ofList (plainBreaks tabbedText.toList))).map (fun _ => ()) =
        .error .malformed := by
      decide +kernel
    cases hvalue : Yaml.read (String.ofList (plainBreaks tabbedText.toList)) with
    | error e =>
      rw [hvalue] at hfails
      rw [Except.error.inj hfails]
    | ok v =>
      rw [hvalue] at hfails
      cases hfails
  refine ⟨_, hread, by decide +kernel, by decide +kernel, ?_⟩
  show loadWith .transport _ [] _ _ = _
  rw [loadWith, loadMapping_of_file .transport hfile, decodeFile, Text.Utf8.decode?_encode]
  simp only [parseMapping, hyaml]
  rfl

end Courier
