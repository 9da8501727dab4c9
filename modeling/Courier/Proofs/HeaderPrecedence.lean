import Courier.OutgoingHeaders
import Courier.Proofs.EncodingFault
import Courier.Proofs.Basic
import Courier.Proofs.Header
import Courier.Proofs.Lower
import Mathlib.Data.List.Basic

/-!
# Which header prevails

The headers of a request are written by its authentication settings, then by its author, then by
the default for its body, and each name ends up as its last write (`buildHeaders_precedence`).

What writing does is the subject of `Proofs/Header.lean`. Three questions are left. Content and
basic credentials have to be UTF-8, which texts with surrogates are not (`exists_ofBody_eq_error_iff`,
`exists_headers_eq_error_iff`). Building fails on what is not ASCII, and nothing but what was given
can fail, because the default is ASCII (`isAscii_contentType`). And the default gives way to a
content type of the author, which the body looks for with the full lower case of names, while
headers are compared by the letters A to Z alone: `lower_contentType_iff` says that it makes no
difference.
-/

namespace Courier

open Headers Text

/-- Two ASCII texts give one. -/
theorem Text.IsAscii.append {a b : String} (ha : IsAscii a) (hb : IsAscii b) :
    IsAscii (a ++ b) := by
  intro c hc
  rw [String.toList_append] at hc
  rcases List.mem_append.1 hc with hc | hc
  · exact ha c hc
  · exact hb c hc

/-- There is no fault in headers exactly when all names and values are ASCII. -/
theorem headerFault?_eq_none_iff (writes : List (CodeText × CodeText)) :
    headerFault? writes = none ↔ ∀ w ∈ writes, w.1.IsAscii ∧ w.2.IsAscii := by
  unfold headerFault?
  rw [List.findSome?_eq_none_iff]
  refine forall₂_congr fun w _ => ?_
  rw [Option.orElse_eq_or, Option.or_eq_none_iff, EncodingFault.inAscii?_eq_none_iff,
    EncodingFault.inAscii?_eq_none_iff]
  rfl

/-- Whether a text has a name of headers, in any case of the letters A to Z. -/
def CodeText.IsNamed (t : CodeText) (name : String) : Prop :=
  ∃ s, t = ofString s ∧ sameName s name = true

/-- Whether one of some pairs has a name. -/
def HasNamed (pairs : List (CodeText × CodeText)) (name : String) : Prop :=
  ∃ p ∈ pairs, p.1.IsNamed name

/-- Headers have the names of their texts. -/
theorem hasNamed_map_ofPair (headers : Headers) (name : String) :
    HasNamed (headers.map CodeText.ofPair) name ↔ headers.has name = true := by
  rw [has, List.any_eq_true]
  constructor
  · rintro ⟨p, hp, s, hs, hsame⟩
    obtain ⟨h, hh, rfl⟩ := List.mem_map.1 hp
    rw [← CodeText.ofString_inj.1 hs] at hsame
    exact ⟨h, hh, hsame⟩
  · rintro ⟨h, hh, hsame⟩
    exact ⟨_, List.mem_map_of_mem hh, h.1, rfl, hsame⟩

/-- Pairs have the names of all their parts. -/
theorem hasNamed_append (a b : List (CodeText × CodeText)) (name : String) :
    HasNamed (a ++ b) name ↔ HasNamed a name ∨ HasNamed b name := by
  simp only [HasNamed, List.mem_append, or_and_right, exists_or]

/-- An active pair is that of an entry in use. -/
theorem exists_of_mem_activePairs {entries : List Entry} {p : CodeText × CodeText}
    (h : p ∈ activePairs entries) : ∃ e ∈ entries, e.enabled = true ∧ (e.key, e.value) = p := by
  obtain ⟨e, he, hpair⟩ := List.mem_map.1 h
  obtain ⟨hmem, hactive⟩ := List.mem_filter.1 he
  rw [Entry.isActive, Bool.and_eq_true] at hactive
  exact ⟨e, hmem, hactive.1, hpair⟩

/-- Whether a body has content with a surrogate. -/
def Body.IsUnwritable (b : Body) : Prop :=
  (b.kind = .text ∨ b.kind = .json) ∧ ∃ content, b.content = some content ∧ content.toString? = none

/-- Whether a user name or a password of the basic scheme has a surrogate. -/
def Auth.IsUnwritable (a : Auth) : Prop :=
  a.scheme = .basic ∧ ∃ username password, a.username = some username ∧
    a.password = some password ∧ (username.toString? = none ∨ password.toString? = none)

/-! ## What a body is sent as -/

namespace Payload

/-- The default for a body as a header. -/
def defaultHeaders (p : Payload) : Headers :=
  p.contentType.toList.map fun type => ("Content-Type", type)

/-- A boundary of random digits is ASCII. -/
theorem isAscii_boundary (bytes : List UInt8) :
    IsAscii (String.join (bytes.map Utf8.hexByte)) := by
  have hdigits : ∀ n < 256, IsAscii (Utf8.hexByte (UInt8.ofNat n)) := by decide +kernel
  intro c hc
  rw [String.toList_join, List.mem_flatMap] at hc
  obtain ⟨s, hs, hc⟩ := hc
  obtain ⟨b, -, rfl⟩ := List.mem_map.1 hs
  have hb := hdigits b.toNat b.toNat_lt
  rw [UInt8.ofNat_toNat] at hb
  exact hb c hc

/-- The author's name for a content type, in full lower case or in that of the letters A to Z. -/
theorem lower_contentType_iff (name : String) :
    lower name = "content-type" ↔ sameName name "Content-Type" = true := by
  have hplain : "content-type".toList.all (fun c => decide (IsPlain c)) = true := by decide
  have hlower : lowerAscii "Content-Type" = "content-type" := by decide
  rw [lower_eq_iff fun c hc => of_decide_eq_true (List.all_eq_true.1 hplain c hc), sameName_iff,
    hlower]

/-- The headers give a content type if one of those in use has that name. -/
theorem namesContentType_eq_false_iff (headers : List Entry) :
    namesContentType headers = false ↔
      ∀ e ∈ headers, e.enabled = true → ¬e.key.IsNamed "Content-Type" := by
  have hkey : ∀ key : CodeText,
      key.toString?.any (lower · == "content-type") = true ↔ key.IsNamed "Content-Type" := by
    intro key
    rw [Option.any_eq_true]
    refine exists_congr fun s => ?_
    rw [CodeText.toString?_eq_some_iff, beq_iff_eq, lower_contentType_iff]
  rw [namesContentType, List.any_eq_false]
  refine forall₂_congr fun e _ => ?_
  rw [Bool.and_eq_true, hkey, not_and]

/-- The default gives way to a content type of the author. -/
theorem defaultType_eq_some_iff (headers : List Entry) (default type : String) :
    defaultType headers default = some type ↔
      type = default ∧ ∀ e ∈ headers, e.enabled = true → ¬e.key.IsNamed "Content-Type" := by
  rw [← namesContentType_eq_false_iff, defaultType]
  cases namesContentType headers with
  | true => simp
  | false => simp [eq_comm]

/-- Content is sent in UTF-8. -/
theorem ofContent_eq_ok_iff {content : CodeText} {type : Option String} {payload : Payload} :
    ofContent content type = .ok payload ↔
      ∃ s, content = CodeText.ofString s ∧ payload = ⟨some (Utf8.encode s), none, type⟩ := by
  rw [ofContent]
  cases hwritten : content.utf8 with
  | error fault =>
    refine iff_of_false nofun ?_
    rintro ⟨s, rfl, -⟩
    rw [CodeText.utf8_ofString] at hwritten
    cases hwritten
  | ok s =>
    obtain rfl := CodeText.utf8_eq_ok_iff.1 hwritten
    constructor
    · intro h
      exact ⟨s, rfl, (Except.ok.inj h).symm⟩
    · rintro ⟨s', hs, rfl⟩
      rw [CodeText.ofString_inj.1 hs]
      rfl

/-- There is nothing that a body could be sent as exactly if it has content with a surrogate. -/
theorem exists_ofBody_eq_error_iff (boundary : String) (body : Body) (headers : List Entry) :
    (∃ fault, ofBody boundary body headers = .error fault) ↔ body.IsUnwritable := by
  have hcontent : ∀ content type,
      (∃ fault, ofContent content type = .error fault) ↔ content.toString? = none := by
    intro content type
    rw [← CodeText.exists_utf8_eq_error_iff, ofContent]
    cases content.utf8 <;> simp [Except.map]
  obtain ⟨kind, content, formData⟩ := body
  cases kind with
  | none => simp [ofBody, Body.IsUnwritable]
  | file => simp [ofBody, Body.IsUnwritable]
  | text => cases content with
    | none => simp [ofBody, Body.IsUnwritable]
    | some content => simp [ofBody, Body.IsUnwritable, hcontent]
  | json => cases content with
    | none => simp [ofBody, Body.IsUnwritable]
    | some content => simp [ofBody, Body.IsUnwritable, hcontent]
  | formData => cases formData with
    | none => simp [ofBody, Body.IsUnwritable]
    | some fields =>
      by_cases hactive : activePairs fields = [] <;> simp [ofBody, Body.IsUnwritable, hactive]

section ContentType

variable {boundary : String} {body : Body} {headers : List Entry} {payload : Payload}

/-- What a body is sent as: nothing, content, the closing delimiter of form data without an active
field, or active fields. -/
theorem ofBody_cases (h : ofBody boundary body headers = .ok payload) :
    (payload = absent ∧ (body.kind = .json → body.content = none) ∧
        (body.kind = .formData → body.formData = none)) ∨
      (body.kind = .text ∧ ∃ s, payload = ⟨some (Utf8.encode s), none, none⟩) ∨
      (body.kind = .json ∧ body.content ≠ none ∧
        ∃ s, payload = ⟨some (Utf8.encode s), none, defaultType headers jsonType⟩) ∨
      (body.kind = .formData ∧ ∃ fields, body.formData = some fields ∧ activePairs fields = [] ∧
        payload = ⟨some (Utf8.encode (closingLine boundary)), none,
          defaultType headers (multipartType boundary)⟩) ∨
      (body.kind = .formData ∧ ∃ fields, body.formData = some fields ∧ activePairs fields ≠ [] ∧
        payload = ⟨none, some (activePairs fields), none⟩) := by
  obtain ⟨kind, content, formData⟩ := body
  cases kind with
  | none => exact .inl ⟨(Except.ok.inj h).symm, by simp, by simp⟩
  | file => exact .inl ⟨(Except.ok.inj h).symm, by simp, by simp⟩
  | text => cases content with
    | none => exact .inl ⟨(Except.ok.inj h).symm, by simp, by simp⟩
    | some content =>
      obtain ⟨s, -, hpayload⟩ := ofContent_eq_ok_iff.1 h
      exact .inr (.inl ⟨rfl, s, hpayload⟩)
  | json => cases content with
    | none => exact .inl ⟨(Except.ok.inj h).symm, by simp, by simp⟩
    | some content =>
      obtain ⟨s, -, hpayload⟩ := ofContent_eq_ok_iff.1 h
      exact .inr (.inr (.inl ⟨rfl, Option.some_ne_none content, s, hpayload⟩))
  | formData => cases formData with
    | none => exact .inl ⟨(Except.ok.inj h).symm, by simp, by simp⟩
    | some fields =>
      by_cases hactive : activePairs fields = []
      · simp only [ofBody, hactive, List.isEmpty_nil, if_true, Except.ok.injEq] at h
        exact .inr (.inr (.inr (.inl ⟨rfl, fields, rfl, hactive, h.symm⟩)))
      · simp only [ofBody, List.isEmpty_iff, hactive, if_false, Except.ok.injEq] at h
        exact .inr (.inr (.inr (.inr ⟨rfl, fields, rfl, hactive, h.symm⟩)))

/-- A default content type is written for JSON with content and for form data without an active
field, unless a header in use has its name. -/
theorem contentType_eq_some_iff (h : ofBody boundary body headers = .ok payload) (type : String) :
    payload.contentType = some type ↔
      (body.kind = .json ∧ body.content ≠ none ∧ type = jsonType ∨
        body.kind = .formData ∧
          (∃ fields, body.formData = some fields ∧ activePairs fields = []) ∧
          type = multipartType boundary) ∧
        ∀ e ∈ headers, e.enabled = true → ¬e.key.IsNamed "Content-Type" := by
  rcases ofBody_cases h with ⟨rfl, hjson, hform⟩ | ⟨hkind, s, rfl⟩ | ⟨hkind, hcontent, s, rfl⟩ |
    ⟨hkind, fields, hfields, hactive, rfl⟩ | ⟨hkind, fields, hfields, hactive, rfl⟩
  · refine iff_of_false nofun ?_
    rintro ⟨⟨hkind, hcontent, -⟩ | ⟨hkind, ⟨fields, hfields, -⟩, -⟩, -⟩
    · exact hcontent (hjson hkind)
    · rw [hform hkind] at hfields
      cases hfields
  · simp [hkind]
  · simp [defaultType_eq_some_iff, hkind, hcontent]
  · simp [defaultType_eq_some_iff, hkind, hfields, hactive]
  · simp [hkind, hfields, hactive]

/-- The default content type is ASCII where the boundary is. -/
theorem isAscii_contentType {type : String} (hboundary : IsAscii boundary)
    (h : ofBody boundary body headers = .ok payload) (htype : payload.contentType = some type) :
    IsAscii type := by
  obtain ⟨hcase, -⟩ := (contentType_eq_some_iff h type).1 htype
  rcases hcase with ⟨-, -, hcase⟩ | ⟨-, -, hcase⟩
  · rw [hcase]
    decide
  · have hprefix : IsAscii "multipart/form-data; boundary=" := by decide
    subst hcase
    exact hprefix.append hboundary

end ContentType

end Payload

/-! ## All headers -/

namespace Auth

/-- Credentials have the form of the basic scheme exactly if name and password have no
surrogates. -/
theorem basicCredentials_eq_ok_iff {username password : CodeText} {value : String} :
    basicCredentials username password = .ok value ↔
      ∃ u p, username = CodeText.ofString u ∧ password = CodeText.ofString p ∧
        value = basicHeader (u ++ ":" ++ p) := by
  have htext : ∀ text, username ++ ":" ++ password = CodeText.ofString text ↔
      ∃ u p, username = CodeText.ofString u ∧ password = CodeText.ofString p ∧
        text = u ++ ":" ++ p := by
    intro text
    constructor
    · intro h
      obtain ⟨front, p, hfront, rfl, rfl⟩ := CodeText.append_eq_ofString_iff.1 h
      obtain ⟨u, colon, rfl, hcolon, rfl⟩ := CodeText.append_eq_ofString_iff.1 hfront
      rw [← CodeText.ofString_inj.1 hcolon]
      exact ⟨u, p, rfl, rfl, rfl⟩
    · rintro ⟨u, p, rfl, rfl, rfl⟩
      rw [CodeText.ofString_append, CodeText.ofString_append]
  rw [basicCredentials, map_eq_ok_iff]
  simp only [CodeText.utf8_eq_ok_iff, htext]
  constructor
  · rintro ⟨_, ⟨u, p, hu, hp, rfl⟩, rfl⟩
    exact ⟨u, p, hu, hp, rfl⟩
  · rintro ⟨u, p, hu, hp, rfl⟩
    exact ⟨_, ⟨u, p, hu, hp, rfl⟩, rfl⟩

/-- There are no such credentials exactly if name or password has a surrogate. -/
theorem exists_basicCredentials_eq_error_iff {username password : CodeText} :
    (∃ fault, basicCredentials username password = .error fault) ↔
      username.toString? = none ∨ password.toString? = none := by
  have hcolon : ∀ p ∈ CodeText.ofString ":", p.char? ≠ none := by decide
  simp only [basicCredentials, map_eq_error_iff, CodeText.exists_utf8_eq_error_iff,
    CodeText.toString?_eq_none_iff, List.mem_append, or_and_right, exists_or]
  constructor
  · rintro ((h | ⟨p, hp, hnone⟩) | h)
    · exact .inl h
    · exact absurd hnone (hcolon p hp)
    · exact .inr h
  · rintro (h | h)
    · exact .inl (.inl h)
    · exact .inr h

/-- Headers of the settings cannot be given exactly if credentials have a surrogate. -/
theorem exists_headers_eq_error_iff {auth : Auth} :
    (∃ fault, auth.headers = .error fault) ↔ auth.IsUnwritable := by
  obtain ⟨scheme, username, password, token, key, header⟩ := auth
  cases scheme with
  | none => simp [headers, IsUnwritable]
  | bearer => simp [headers, IsUnwritable]
  | apiKey => cases key <;> cases header <;> simp [headers, IsUnwritable]
  | basic =>
    cases username with
    | none => simp [headers, IsUnwritable]
    | some username =>
      cases password with
      | none => simp [headers, IsUnwritable]
      | some password =>
        simp [headers, IsUnwritable, map_eq_error_iff, exists_basicCredentials_eq_error_iff]

end Auth

section Build

variable {auth : Auth} {entries : List Entry} {payload : Payload}

/-- ASCII headers stand for the texts that they are written from. -/
theorem map_ofPair_writtenHeaders {writes : List (CodeText × CodeText)}
    (h : ∀ w ∈ writes, w.1.IsAscii ∧ w.2.IsAscii) :
    (writtenHeaders writes).map CodeText.ofPair = writes := by
  rw [writtenHeaders, List.map_map]
  refine (List.map_congr_left fun w hw => ?_).trans (List.map_id writes)
  exact Prod.ext (h w hw).1.ofString_characters (h w hw).2.ofString_characters

/-- Headers are what their own texts are written as. -/
theorem writtenHeaders_map_ofPair (writes : Headers) :
    writtenHeaders (writes.map CodeText.ofPair) = writes := by
  rw [writtenHeaders, List.map_map]
  refine (List.map_congr_left fun w _ => ?_).trans (List.map_id writes)
  exact Prod.ext (CodeText.characters_ofString w.1) (CodeText.characters_ofString w.2)

/-- Headers are ASCII exactly if their texts are. -/
theorem forall_isAscii_map_ofPair (writes : Headers) :
    (∀ w ∈ writes.map CodeText.ofPair, w.1.IsAscii ∧ w.2.IsAscii) ↔
      ∀ w ∈ writes, IsAscii w.1 ∧ IsAscii w.2 := by
  rw [List.forall_mem_map]
  simp only [CodeText.ofPair, CodeText.isAscii_ofString_iff]

/-- Headers that can be built are what comes of all writes. -/
theorem buildHeaders_eq_ok_iff {headers : Headers} :
    buildHeaders auth entries payload = .ok headers ↔
      ∃ own writes, auth.headers = .ok own ∧
        own ++ givenWrites entries payload = writes.map CodeText.ofPair ∧
        (∀ w ∈ writes, IsAscii w.1 ∧ IsAscii w.2) ∧ headers = setAll [] writes := by
  rw [buildHeaders, bind_eq_ok_iff]
  refine exists_congr fun own => ?_
  constructor
  · rintro ⟨hown, hbuild⟩
    cases hfault : headerFault? (own ++ givenWrites entries payload) with
    | some fault =>
      simp only [hfault] at hbuild
      cases hbuild
    | none =>
      simp only [hfault] at hbuild
      have hascii := (headerFault?_eq_none_iff _).1 hfault
      have hback := map_ofPair_writtenHeaders hascii
      refine ⟨_, hown, hback.symm, ?_, (Except.ok.inj hbuild).symm⟩
      rwa [← forall_isAscii_map_ofPair, hback]
  · rintro ⟨writes, hown, hwrites, hascii, rfl⟩
    have hfault : headerFault? (own ++ givenWrites entries payload) = none := by
      rwa [headerFault?_eq_none_iff, hwrites, forall_isAscii_map_ofPair]
    rw [hwrites] at hfault
    simp only [hwrites, hfault, writtenHeaders_map_ofPair]
    exact ⟨hown, rfl⟩

/-- What is written is what is given, then the default. -/
theorem exists_given_of_writes {own : List (CodeText × CodeText)} {writes : Headers}
    (h : own ++ givenWrites entries payload = writes.map CodeText.ofPair) :
    ∃ given, writes = given ++ payload.defaultHeaders ∧
      own ++ activePairs entries = given.map CodeText.ofPair := by
  rw [givenWrites, ← List.append_assoc] at h
  obtain ⟨given, last, rfl, hgiven, hlast⟩ := List.map_eq_append_iff.1 h.symm
  have hdefault : last.map CodeText.ofPair = payload.defaultHeaders.map CodeText.ofPair := by
    rw [hlast, Payload.defaultHeaders, List.map_map]
    rfl
  rw [List.map_injective_iff.2 CodeText.ofPair_injective hdefault]
  exact ⟨given, rfl, hgiven.symm⟩

/-- Headers cannot be built exactly when the settings cannot be written or some name or value that
is written is not ASCII. -/
theorem exists_buildHeaders_eq_error_iff (auth : Auth) (entries : List Entry) (payload : Payload) :
    (∃ fault, buildHeaders auth entries payload = .error fault) ↔
      auth.IsUnwritable ∨ ∃ own, auth.headers = .ok own ∧
        ∃ w ∈ own ++ givenWrites entries payload, ¬(w.1.IsAscii ∧ w.2.IsAscii) := by
  rw [← Auth.exists_headers_eq_error_iff, buildHeaders]
  cases hown : auth.headers with
  | error fault => exact iff_of_true ⟨fault, rfl⟩ (.inl ⟨fault, rfl⟩)
  | ok own =>
    have hnone := headerFault?_eq_none_iff (own ++ givenWrites entries payload)
    constructor
    · rintro ⟨fault, hfault⟩
      refine .inr ⟨own, rfl, ?_⟩
      by_contra hall
      have hclean := hnone.2 fun w hw => by_contra fun hnot => hall ⟨w, hw, hnot⟩
      simp only [bind, Except.bind, hclean] at hfault
      cases hfault
    · rintro (⟨fault, ⟨⟩⟩ | ⟨_, ⟨⟩, w, hw, hnot⟩)
      cases hfault : headerFault? (own ++ givenWrites entries payload) with
      | none => exact absurd (hnone.1 hfault w hw) hnot
      | some fault =>
        refine ⟨fault, ?_⟩
        simp only [bind, Except.bind, hfault]
        rfl

end Build

/-- The headers of a request with a body. Building them fails exactly when the body has content with
a surrogate, when basic credentials have one, or when a name or a value among those of the
authentication settings and the active ones of the author is not ASCII. Otherwise no two headers
have the same name; the names are those that are written, in the order in which they are first
written; and the headers are the last writes of their names, with the spelling and the value of the
write. The default comes last. It is written for JSON with content and for form data without an
active field, and never if a header of the author that is in use has its name in any case, so that
it never replaces a value of the author. -/
theorem buildHeaders_precedence (auth : Auth) (entries : List Entry) (body : Body)
    (bytes : List UInt8) :
    let boundary := String.join (bytes.map Utf8.hexByte)
    let built := Payload.ofBody boundary body entries >>= buildHeaders auth entries
    ((∃ fault, built = .error fault) ↔
        body.IsUnwritable ∨ auth.IsUnwritable ∨
          ∃ own, auth.headers = .ok own ∧
            ∃ w ∈ own ++ activePairs entries, ¬(w.1.IsAscii ∧ w.2.IsAscii)) ∧
      (∀ headers, built = .ok headers →
        ∃ own payload given, auth.headers = .ok own ∧
          Payload.ofBody boundary body entries = .ok payload ∧
          own ++ activePairs entries = given.map CodeText.ofPair ∧
          let writes := given ++ payload.defaultHeaders
          headers.Pairwise (fun a b => sameName a.1 b.1 = false) ∧
            (∀ name, headers.has name = true ↔ ∃ w ∈ writes, sameName w.1 name = true) ∧
            headers.names = (names writes).eraseDups ∧
            ∀ h, h ∈ headers ↔
              ∃ earlier later, writes = earlier ++ h :: later ∧
                ∀ w ∈ later, sameName w.1 h.1 = false) ∧
      ∀ payload, Payload.ofBody boundary body entries = .ok payload →
        (∀ type, payload.contentType = some type ↔
          (body.kind = .json ∧ body.content ≠ none ∧ type = Payload.jsonType ∨
            body.kind = .formData ∧
              (∃ fields, body.formData = some fields ∧ activePairs fields = []) ∧
              type = Payload.multipartType boundary) ∧
            ∀ e ∈ entries, e.enabled = true → ¬e.key.IsNamed "Content-Type") ∧
        (payload.contentType ≠ none →
          ∀ w ∈ activePairs entries, ¬w.1.IsNamed "Content-Type") := by
  intro boundary built
  have hname : IsAscii "Content-Type" := by decide +kernel
  -- the default is ASCII, so that only what is given can fail
  have hdefault : ∀ payload, Payload.ofBody boundary body entries = .ok payload →
      ∀ w ∈ givenWrites entries payload, w ∈ activePairs entries ∨ w.1.IsAscii ∧ w.2.IsAscii := by
    intro payload hpayload w hw
    refine (List.mem_append.1 hw).imp id fun hw => ?_
    obtain ⟨type, hsome, rfl⟩ := List.mem_map.1 hw
    have htype := Payload.isAscii_contentType (Payload.isAscii_boundary bytes) hpayload
      (Option.mem_toList.1 hsome)
    exact ⟨CodeText.isAscii_ofString_iff.2 hname, CodeText.isAscii_ofString_iff.2 htype⟩
  refine ⟨?_, ?_, ?_⟩
  · show (∃ fault, (Payload.ofBody boundary body entries >>= buildHeaders auth entries) =
      .error fault) ↔ _
    rw [← Payload.exists_ofBody_eq_error_iff boundary body entries]
    cases hpayload : Payload.ofBody boundary body entries with
    | error fault => exact iff_of_true ⟨fault, rfl⟩ (.inl ⟨fault, rfl⟩)
    | ok payload =>
      refine (exists_buildHeaders_eq_error_iff auth entries payload).trans ?_
      rw [or_iff_right (nofun : ¬∃ fault, Except.ok payload = .error fault)]
      refine or_congr_right (exists_congr fun own => and_congr_right fun _ => ?_)
      constructor
      · rintro ⟨w, hw, hnot⟩
        rcases List.mem_append.1 hw with hw | hw
        · exact ⟨w, List.mem_append_left _ hw, hnot⟩
        · rcases hdefault payload hpayload w hw with hactive | hascii
          · exact ⟨w, List.mem_append_right own hactive, hnot⟩
          · exact absurd hascii hnot
      · rintro ⟨w, hw, hnot⟩
        refine ⟨w, ?_, hnot⟩
        rw [givenWrites, ← List.append_assoc]
        exact List.mem_append_left _ hw
  · intro headers hheaders
    obtain ⟨payload, hpayload, hbuild⟩ := bind_eq_ok_iff.1 hheaders
    obtain ⟨own, writes, hown, hwrites, -, rfl⟩ := buildHeaders_eq_ok_iff.1 hbuild
    obtain ⟨given, rfl, hgiven⟩ := exists_given_of_writes hwrites
    refine ⟨own, payload, given, hown, hpayload, hgiven, pairwise_setAll _, ?_, names_setAll _, ?_⟩
    · intro name
      rw [has_iff, names_setAll, List.mem_eraseDups, ← has_iff, has, List.any_eq_true]
    · exact fun h => mem_setAll_iff
  · intro payload hpayload
    have htype := Payload.contentType_eq_some_iff hpayload
    refine ⟨htype, ?_⟩
    -- an active header is in use, so that there is no default if it has the name
    intro hsome w hw
    obtain ⟨type, hwritten⟩ := Option.ne_none_iff_exists'.1 hsome
    obtain ⟨e, he, henabled, rfl⟩ := exists_of_mem_activePairs hw
    exact ((htype type).1 hwritten).2 e he henabled

/-- Authentication settings with a token. -/
def tokenAuth : Auth := ⟨.bearer, none, none, some "t", none, none⟩

/-- Headers that override the authentication settings and each other. -/
def overridingHeaders : List Entry :=
  [⟨"", "X-Env", "dev", true⟩, ⟨"", "AUTHORIZATION", "mine", true⟩, ⟨"", "x-env", "prod", true⟩,
    ⟨"", "X-Off", "é", false⟩]

/-- A body of JSON. -/
def jsonBody (content : CodeText) : Body := ⟨.json, some content, none⟩

/-- `buildHeaders_precedence` at headers that override others. -/
theorem buildHeaders_precedence_override :
    ∃ headers,
      (Payload.ofBody (String.join (([] : List UInt8).map Utf8.hexByte)) (jsonBody "[]")
        overridingHeaders >>= buildHeaders tokenAuth overridingHeaders) = .ok headers ∧
      headers = [("AUTHORIZATION", "mine"), ("x-env", "prod"),
        ("Content-Type", "application/json")] ∧
      headers.Pairwise (fun a b => sameName a.1 b.1 = false) := by
  have hrun : (Payload.ofBody (String.join (([] : List UInt8).map Utf8.hexByte)) (jsonBody "[]")
      overridingHeaders >>= buildHeaders tokenAuth overridingHeaders).toOption.any
      (fun headers => decide (headers = [("AUTHORIZATION", "mine"), ("x-env", "prod"),
        ("Content-Type", "application/json")])) = true := by
    decide +kernel
  obtain ⟨headers, hbuild, hheaders⟩ := exists_eq_ok_of_any hrun
  obtain ⟨-, hok, -⟩ := buildHeaders_precedence tokenAuth overridingHeaders (jsonBody "[]") []
  obtain ⟨own, payload, given, -, -, -, hpairwise, -⟩ := hok headers hbuild
  exact ⟨headers, hbuild, of_decide_eq_true hheaders, hpairwise⟩

/-- Headers of which none is outside ASCII cannot be built for content with a surrogate, nor with a
user name that has one. -/
theorem buildHeaders_unwritable :
    (Payload.ofBody "" (jsonBody [.surrogate 0]) [] >>= buildHeaders Auth.absent []) =
        .error ⟨"utf-8", "surrogates not allowed", 0, [0xD800]⟩ ∧
      (Payload.ofBody "" (jsonBody "[]") [] >>=
          buildHeaders ⟨.basic, some [.surrogate 0], some "p", none, none, none⟩ []) =
        .error ⟨"utf-8", "surrogates not allowed", 0, [0xD800]⟩ ∧
      Auth.absent.headers = .ok [] ∧ activePairs [] = [] := by
  decide +kernel

end Courier
