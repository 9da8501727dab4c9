import Courier.Proofs.BoundaryParameter
import Courier.Proofs.RedirectHeaders

/-!
# Form data on the wire

What the first request of form data looks like to its receiver. Where neither the author nor the
authentication settings give a content type, the receiver reads exactly the active fields
(`execute_form_data`). Where the author gives one, its boundary delimits a body with fields, unless
a semicolon or a backslash is between its quotes; a body without fields is only delimited by the
boundary that the client draws (`execute_multipart_boundary`), which the author cannot know
(`execute_multipart_boundary_fixed`).

The boundary of a body with fields is looked for in the content type before the body's own headers
are added (`Session.exists_completed_of_head?_sent`), so the two agree on it by what the client
finds in the content type of the request (`Session.exists_boundary_of_fields`).
-/

namespace Courier

open Headers Text.Utf8

namespace Multipart

/-! ## Delimited bodies -/

/-- Whether a boundary delimits a body: its delimiter stands at the beginning, and again at the end,
with two hyphens and a line break behind it. -/
def Delimits (boundary body : List UInt8) : Prop :=
  encode "--" ++ boundary <+: body ∧ encode "--" ++ boundary ++ encode "--\r\n" <:+ body

instance (boundary body : List UInt8) : Decidable (Delimits boundary body) :=
  inferInstanceAs (Decidable (encode "--" ++ boundary <+: body ∧
    encode "--" ++ boundary ++ encode "--\r\n" <:+ body))

/-- A body is delimited by the boundary that it is made with. -/
theorem delimits_body (boundary : List UInt8) (fields : List (String × String)) :
    Delimits boundary (body boundary fields) := by
  constructor
  · cases fields with
    | nil => exact List.prefix_append _ _
    | cons f fields =>
      unfold body partBytes
      simp only [List.flatMap_cons, List.append_assoc]
      rw [← List.append_assoc]
      exact List.prefix_append _ _
  · exact List.suffix_append _ _

/-- A delimiter alone is only delimited by its own boundary, if that has no hyphen. -/
theorem delimits_closingLine_iff {b own : String} (hown : '-' ∉ own.toList) :
    Delimits (encode b) (encode (Payload.closingLine own)) ↔ b = own := by
  have hclosing : encode (Payload.closingLine own) =
      encode "--" ++ encode own ++ encode "--\r\n" := by
    unfold Payload.closingLine
    rw [encode_append, encode_append]
  have hhyphens : encode "--" = [45, 45] := by decide
  have hnone : (45 : UInt8) ∉ encode own := by
    have hhyphen : (45 : UInt8) = UInt8.ofNat '-'.toNat := by decide
    rw [hhyphen]
    exact fun hmem => hown ((mem_encodeChars_iff (by decide) _).1 hmem)
  rw [hclosing]
  constructor
  · rintro ⟨-, pre, hpre⟩
    rw [← List.append_assoc, List.append_left_inj, hhyphens] at hpre
    -- a delimiter that began later would have its hyphens in the other boundary
    have hsame : encode b = encode own := by
      rcases pre with _ | ⟨x, _ | ⟨y, pre⟩⟩
      · simpa using hpre
      · exfalso
        simp only [List.cons_append, List.nil_append, List.cons.injEq] at hpre
        apply hnone
        rw [← hpre.2.2]
        exact List.mem_cons_self
      · exfalso
        simp only [List.cons_append, List.nil_append, List.cons.injEq] at hpre
        apply hnone
        rw [← hpre.2.2]
        simp
    have htexts := congrArg decode? hsame
    rw [decode?_encode, decode?_encode] at htexts
    exact Option.some.inj htexts
  · rintro rfl
    constructor
    · rw [List.append_assoc]
      exact List.prefix_append _ _
    · exact List.suffix_rfl

end Multipart

/-! ## Payloads of form data -/

section Payload

variable {body : Body} {entries : List Entry}

/-- Form data with active fields is sent as these. -/
theorem Payload.ofBody_of_fields (hkind : body.kind = .formData)
    (hform : body.formData = some entries) (hfields : activePairs entries ≠ []) (boundary : String)
    (headers : List Entry) :
    Payload.ofBody boundary body headers = .ok ⟨none, some (activePairs entries), none⟩ := by
  simp [Payload.ofBody, hkind, hform, hfields]

/-- Form data without active fields is sent as a delimiter alone. -/
theorem Payload.ofBody_of_no_fields (hkind : body.kind = .formData)
    (hform : body.formData = some entries) (hnone : activePairs entries = []) (boundary : String)
    (headers : List Entry) :
    Payload.ofBody boundary body headers = .ok
      ⟨some (encode (Payload.closingLine boundary)), none,
        Payload.defaultType headers (Payload.multipartType boundary)⟩ := by
  simp [Payload.ofBody, hkind, hform, hnone]

end Payload

/-! ## The content type of a request -/

section ContentType

/-- Form data brings its own content type where there is none. -/
theorem fields_completeHeaders_ofFields {method boundary : String} {url : Url} {headers : Headers}
    {type : Option String} {pairs : List (String × String)}
    (habsent : headers.has "Content-Type" = false) :
    (completeHeaders method url headers
      (WireBody.ofFields boundary type pairs)).fields "Content-Type" =
      [("Content-Type",
        Payload.multipartType ((type.bind Multipart.boundaryOf?).getD boundary))] := by
  have hlength : ¬sameName "Content-Length" "Content-Type" = true := by decide +kernel
  generalize hboundary : (type.bind Multipart.boundaryOf?).getD boundary = own
  generalize hbytes : Multipart.body (encode own) pairs = bytes
  -- the length comes first and has another name
  have hmeasured : (headers.setDefault "Content-Length" (WireBody.lengthText bytes)).fields
      "Content-Type" = [] := by
    rw [fields_setDefault_of_ne hlength]
    exact fields_eq_nil_iff.2 habsent
  have hdescribed : ((headers.setDefault "Content-Length" (WireBody.lengthText bytes)).setDefault
      "Content-Type" (Payload.multipartType own)).fields "Content-Type" =
      [("Content-Type", Payload.multipartType own)] := by
    rw [setDefault, fields_eq_nil_iff.1 hmeasured]
    rw [if_neg (by decide), fields_append, hmeasured, fields_cons,
      if_pos (sameName_self _)]
    rfl
  have hhas : ((headers.setDefault "Content-Length" (WireBody.lengthText bytes)).setDefault
      "Content-Type" (Payload.multipartType own)).has "Content-Type" = true := by
    apply has_of_mem_fields
    rw [hdescribed]
    exact List.mem_singleton_self _
  have hbody : WireBody.ofFields boundary type pairs =
      ⟨[("Content-Length", WireBody.lengthText bytes),
        ("Content-Type", Payload.multipartType own)], bytes⟩ := by
    rw [← hbytes, ← hboundary]
    rfl
  rw [completeHeaders, hbody, List.foldl_cons, List.foldl_cons, List.foldl_nil, fields_append,
    fields_leadingHeaders hhas, List.nil_append, hdescribed]

end ContentType

namespace Session

variable {w : Surroundings} {s : Session} {r : Request} {clock : Clock} {first : WireRequest}

/-- The body and the content type of the first request. The headers that are completed have the
content type that is written, and no other. -/
theorem exists_completed_of_head?_sent {payload : Payload}
    (hpayload : Payload.ofBody w.boundary r.body r.headers = .ok payload)
    (hfirst : (s.execute w clock r).sent.head? = some first) :
    ∃ method url own given completed body, r.auth.headers = .ok own ∧
      own ++ activePairs r.headers = given.map CodeText.ofPair ∧
      WireBody.ofPayload w.boundary (completed.get? "Content-Type") payload = .ok body ∧
      completed.fields "Content-Type" =
        (setAll [] (given ++ payload.defaultHeaders)).fields "Content-Type" ∧
      first.body = body.bytes ∧
      first.headers.fields "Content-Type" =
        (completeHeaders method url completed body).fields "Content-Type" := by
  obtain ⟨-, wire, hwire, rfl⟩ := head?_sent_execute_iff.1 hfirst
  obtain ⟨url, method, payload', headers, -, -, hpayload', hheaders, hcomplete⟩ :=
    Request.toWire_eq_ok_iff.1 hwire
  rw [hpayload] at hpayload'
  obtain rfl := Except.ok.inj hpayload'
  obtain ⟨own, writes, hown, hwrites, -, rfl⟩ := buildHeaders_eq_ok_iff.1 hheaders
  obtain ⟨given, rfl, hgiven⟩ := exists_given_of_writes hwrites
  obtain ⟨completed, body, hcookies, hbody, -, rfl⟩ :=
    WireRequest.complete_eq_ok_iff.1 hcomplete
  refine ⟨method, url, own, given, completed, body, hown, hgiven, hbody, ?_, ?_, ?_⟩
  · -- neither the client nor its cookies bring a content type
    have hcookie : ¬sameName "Cookie" "Content-Type" = true := by decide
    have hclient : clientHeaders.has "Content-Type" = false := by decide +kernel
    rw [fields_addCookies_of_ne hcookie hcookies, fields_update_of_absent hclient]
  · rw [WireRequest.withUrlCredentials_eq]
  · have hother : ¬sameName "Authorization" "Content-Type" = true := by decide
    rw [WireRequest.fields_withUrlCredentials]
    split
    · rfl
    · rw [if_neg hother]

/-- Form data with fields is a body of these. Its boundary is what the client finds in the content
type, and its own where neither the author nor the authentication settings give a content type. -/
theorem exists_boundary_of_fields (hboundary : Multipart.IsBoundary w.boundary)
    {entries : List Entry} (hkind : r.body.kind = .formData)
    (hform : r.body.formData = some entries) (hfields : activePairs entries ≠ [])
    (hfirst : (s.execute w clock r).sent.head? = some first) :
    ∃ fields own auth, activePairs entries = fields.map CodeText.ofPair ∧
      r.auth.headers = .ok auth ∧ first.body = Multipart.body (encode own) fields ∧
      (∀ type b, first.headers.get? "Content-Type" = some type →
        Multipart.boundaryOf? type = some b → b = own) ∧
      (¬HasNamed (auth ++ activePairs r.headers) "Content-Type" →
        own = w.boundary ∧
          first.headers.get? "Content-Type" = some (Payload.multipartType w.boundary)) := by
  obtain ⟨method, url, auth, given, completed, body, hauth, hwritten, hput, hgiven, hbody, htype⟩ :=
    exists_completed_of_head?_sent
      (Payload.ofBody_of_fields hkind hform hfields w.boundary r.headers) hfirst
  obtain ⟨fields, hpairs, rfl⟩ := map_eq_ok_iff.1 hput
  rw [CodeText.utf8Pairs_eq_ok_iff] at hpairs
  have hwrites : given ++ Payload.defaultHeaders ⟨none, some (activePairs entries), none⟩ = given :=
    List.append_nil _
  rw [hwrites] at hgiven
  refine ⟨fields, _, auth, hpairs, hauth, hbody, ?_, ?_⟩
  · intro type b hannounced hfound
    cases hhas : completed.has "Content-Type" with
    | true =>
      -- the content type of the request is the one that the client looks into
      rw [fields_completeHeaders hhas] at htype
      rw [get?_of_fields_eq htype] at hannounced
      rw [hannounced, Option.bind_some, hfound, Option.getD_some]
    | false =>
      have hnone : completed.get? "Content-Type" = none :=
        get?_of_fields_nil (fields_eq_nil_iff.2 hhas)
      rw [hnone] at htype ⊢
      have hown := get?_of_fields (htype.trans (fields_completeHeaders_ofFields hhas))
      rw [Option.bind_none, Option.getD_none] at hown ⊢
      have hsame := Option.some.inj (hannounced.symm.trans hown)
      have hread := Multipart.boundaryOf?_multipartType hboundary
      rw [← hsame, hfound] at hread
      exact Option.some.inj hread
  · intro habsent
    rw [hwritten, hasNamed_map_ofPair, Bool.not_eq_true] at habsent
    have hhas : completed.has "Content-Type" = false := by
      rw [has_of_fields_eq hgiven, has_setAll]
      exact habsent
    have hnone : completed.get? "Content-Type" = none :=
      get?_of_fields_nil (fields_eq_nil_iff.2 hhas)
    rw [hnone] at htype ⊢
    exact ⟨rfl, get?_of_fields (htype.trans (fields_completeHeaders_ofFields hhas))⟩

/-- Form data without fields is the delimiter of the client's boundary. Its content type is the
client's own, unless the author gives one. -/
theorem body_of_no_fields {entries : List Entry} (hkind : r.body.kind = .formData)
    (hform : r.body.formData = some entries) (hnone : activePairs entries = [])
    (hfirst : (s.execute w clock r).sent.head? = some first) :
    first.body = encode (Payload.closingLine w.boundary) ∧
      (¬HasNamed (activePairs r.headers) "Content-Type" →
        first.headers.get? "Content-Type" = some (Payload.multipartType w.boundary)) := by
  obtain ⟨method, url, auth, given, completed, body, -, -, hput, hgiven, hbody, htype⟩ :=
    exists_completed_of_head?_sent
      (Payload.ofBody_of_no_fields hkind hform hnone w.boundary r.headers) hfirst
  cases hput
  constructor
  · rw [hbody]
    show (WireBody.ofContent _).bytes = _
    unfold WireBody.ofContent
    split
    · rename_i hempty
      exact (List.isEmpty_iff.1 hempty).symm
    · rfl
  · intro habsent
    have hdefault : Payload.defaultType r.headers (Payload.multipartType w.boundary) =
        some (Payload.multipartType w.boundary) := by
      rw [Payload.defaultType_eq_some_iff]
      refine ⟨rfl, fun e he henabled hname => habsent ⟨(e.key, e.value), ?_, hname⟩⟩
      -- a header in use that has the name is active
      have hkey : e.key ≠ [] := by
        intro hempty
        obtain ⟨s, hs, hsame⟩ := hname
        obtain rfl : "" = s := CodeText.ofString_inj.1 (hempty.symm.trans hs)
        exact absurd hsame (by decide)
      have hactive : e.isActive = true := by
        simp [Entry.isActive, henabled, hkey]
      exact List.mem_map.2 ⟨e, List.mem_filter.2 ⟨he, hactive⟩, rfl⟩
    have hwrites : Payload.defaultHeaders ⟨some (encode (Payload.closingLine w.boundary)), none,
        Payload.defaultType r.headers (Payload.multipartType w.boundary)⟩ =
        [("Content-Type", Payload.multipartType w.boundary)] := by
      rw [Payload.defaultHeaders, hdefault]
      rfl
    have hlast : IsLast (given ++ [("Content-Type", Payload.multipartType w.boundary)])
        ("Content-Type", Payload.multipartType w.boundary) :=
      ⟨given, [], rfl, by simp⟩
    rw [hwrites, fields_setAll hlast] at hgiven
    have hhas : completed.has "Content-Type" = true := by
      apply has_of_mem_fields
      rw [hgiven]
      exact List.mem_singleton_self _
    rw [fields_completeHeaders hhas, hgiven] at htype
    exact get?_of_fields htype

/-- Form data with active fields, to which neither the author nor the authentication settings give a
content type, goes out with a boundary of the client. What is sent are fields of characters. By the
boundary, a receiver reads exactly the active fields in their order, each with its escaped name,
without a file name or a content type of its own, and with the bytes of its value, provided that the
delimiter occurs in no value and in no escaped name. -/
theorem execute_form_data (clock : Clock) {entries : List Entry}
    (hboundary : Multipart.IsBoundary w.boundary) (hkind : r.body.kind = .formData)
    (hform : r.body.formData = some entries) (hfields : activePairs entries ≠ [])
    (habsent : ∀ auth, r.auth.headers = .ok auth →
      ¬HasNamed (auth ++ activePairs r.headers) "Content-Type")
    (hfirst : (s.execute w clock r).sent.head? = some first) :
    ∃ fields : List (String × String), activePairs entries = fields.map CodeText.ofPair ∧
      ∃ type, first.headers.get? "Content-Type" = some type ∧
        (∀ b, (∃ sections, Multipart.Announces type sections b) ↔ b = w.boundary) ∧
        ((∀ f ∈ fields, ¬Multipart.delimiter w.boundary <:+: (Multipart.escapeName f.1).toList) →
          (∀ f ∈ fields, ¬Multipart.delimiter w.boundary <:+: f.2.toList) →
          Multipart.decode (encode w.boundary) first.body =
            some (fields.map fun f =>
              ⟨[("name", Multipart.escapeName f.1)], none, encode f.2⟩)) := by
  obtain ⟨fields, own, auth, hpairs, hauth, hbody, -, hown⟩ :=
    exists_boundary_of_fields hboundary hkind hform hfields hfirst
  obtain ⟨rfl, htype⟩ := hown (habsent auth hauth)
  refine ⟨fields, hpairs, _, htype, fun b => Multipart.announces_multipartType_iff hboundary, ?_⟩
  intro hname hvalue
  rw [hbody]
  exact Multipart.decode_body hboundary hname hvalue

/-- A server that answers at once, with a boundary for the client to draw. -/
def formServer : Surroundings := ⟨[], "0a1b", 0⟩

/-- Form data with some headers. -/
def formRequest (headers entries : List Entry) : Request :=
  ⟨"POST", "http://h.test/", headers, [], ⟨.formData, none, some entries⟩, Auth.absent⟩

/-- Fields of which one is switched off, and one has marks in its name and line breaks in its
value. -/
def someFields : List Entry :=
  [⟨"", "a", "1", true⟩, ⟨"", "b", "2", false⟩, ⟨"", "a\"", "x\r\n--0a\r\n", true⟩]

/-- `execute_form_data` at fields with marks and line breaks. -/
theorem execute_form_data_someFields :
    ∃ first, ((start .standard).execute formServer [] (formRequest [] someFields)).sent.head? =
        some first ∧
      Multipart.decode (encode "0a1b") first.body =
        some [⟨[("name", "a")], none, encode "1"⟩,
          ⟨[("name", "a%22")], none, encode "x\r\n--0a\r\n"⟩] := by
  have hsent : ((start .standard).execute formServer [] (formRequest [] someFields)).sent.head? ≠
      none := by
    decide +kernel
  obtain ⟨first, hfirst⟩ := Option.ne_none_iff_exists'.1 hsent
  have hform : (formRequest [] someFields).body.formData = some someFields := rfl
  have habsent : ∀ auth, (formRequest [] someFields).auth.headers = .ok auth →
      ¬HasNamed (auth ++ activePairs (formRequest [] someFields).headers) "Content-Type" := by
    rintro auth ⟨⟩ ⟨p, hp, -⟩
    cases hp
  obtain ⟨fields, hpairs, -, -, -, hdecode⟩ := execute_form_data (w := formServer) []
    (by decide +kernel) rfl hform (by decide +kernel) habsent hfirst
  obtain rfl : [("a", "1"), ("a\"", "x\r\n--0a\r\n")] = fields := by
    refine List.map_injective_iff.2 CodeText.ofPair_injective (Eq.trans ?_ hpairs)
    decide +kernel
  refine ⟨first, hfirst, (hdecode ?_ ?_).trans (by decide +kernel)⟩
  · exact forall_mem_of_all (by decide +kernel)
  · exact forall_mem_of_all (by decide +kernel)

/-- The boundary that the first request of form data announces delimits its body in these cases.
Without active fields, exactly if it is the one that the client draws. With active fields, if
neither a semicolon nor a backslash is between the quotes of the content type. And always if the
author gives no content type, nor, with active fields, the authentication settings. -/
theorem execute_multipart_boundary (clock : Clock) {entries : List Entry}
    (hboundary : Multipart.IsBoundary w.boundary) (hkind : r.body.kind = .formData)
    (hform : r.body.formData = some entries)
    (hfirst : (s.execute w clock r).sent.head? = some first) {type b : String}
    {sections : List Multipart.Section} (htype : first.headers.get? "Content-Type" = some type)
    (hannounced : Multipart.Announces type sections b) :
    (activePairs entries = [] →
        (Multipart.Delimits (encode b) first.body ↔ b = w.boundary)) ∧
      (activePairs entries ≠ [] → (∀ s ∈ sections, Multipart.IsPlainSection s) →
        Multipart.Delimits (encode b) first.body) ∧
      (¬HasNamed (activePairs r.headers) "Content-Type" →
        (activePairs entries = [] ∨
          ∀ auth, r.auth.headers = .ok auth → ¬HasNamed auth "Content-Type") →
        Multipart.Delimits (encode b) first.body) := by
  have hhyphen : '-' ∉ w.boundary.toList := by
    have hdigits : ∀ d ∈ Multipart.hexDigits, d ≠ '-' := forall_mem_of_all (by decide)
    exact fun hmem => hdigits _ (hboundary.2 _ hmem) rfl
  -- the client's own content type announces nothing but its boundary
  have hclient : first.headers.get? "Content-Type" = some (Payload.multipartType w.boundary) →
      b = w.boundary := by
    intro hown
    rw [htype] at hown
    rw [Option.some.inj hown] at hannounced
    exact (Multipart.announces_multipartType_iff hboundary).1 ⟨sections, hannounced⟩
  by_cases hfields : activePairs entries = []
  · obtain ⟨hbody, hown⟩ := body_of_no_fields hkind hform hfields hfirst
    have hdelimits : Multipart.Delimits (encode b) first.body ↔ b = w.boundary := by
      rw [hbody]
      exact Multipart.delimits_closingLine_iff hhyphen
    refine ⟨fun _ => hdelimits, fun hne => absurd hfields hne, fun habsent _ => ?_⟩
    exact hdelimits.2 (hclient (hown habsent))
  · obtain ⟨fields, own, auth, -, hauth, hbody, hfound, hown⟩ :=
      exists_boundary_of_fields hboundary hkind hform hfields hfirst
    have hdelimits : b = own → Multipart.Delimits (encode b) first.body := by
      intro hsame
      rw [hsame, hbody]
      exact Multipart.delimits_body (encode own) fields
    refine ⟨fun hnone => absurd hnone hfields, fun _ hplain => ?_, fun hauthor hsettings => ?_⟩
    · exact hdelimits (hfound type b htype (Multipart.boundaryOf?_of_announces hannounced hplain))
    · have habsent : ¬HasNamed (auth ++ activePairs r.headers) "Content-Type" := by
        rw [hasNamed_append]
        exact not_or.2 ⟨hsettings.resolve_left hfields auth hauth, hauthor⟩
      obtain ⟨hsame, htypes⟩ := hown habsent
      exact hdelimits (hsame ▸ hclient htypes)

/-- A content type with a boundary of the author. -/
def fixedType : String := "multipart/form-data; boundary=fixed"

/-- The author's headers with that content type. -/
def fixedHeaders : List Entry := [⟨"", "Content-Type", fixedType, true⟩]

/-- The boundary of the author is announced. -/
theorem announces_fixed : ∃ sections, (∀ s ∈ sections, Multipart.IsPlainSection s) ∧
    Multipart.Announces fixedType sections "fixed" := by
  have htype : Payload.multipartType "fixed" = fixedType := by
    rw [← String.toList_inj, Multipart.toList_multipartType]
    decide +kernel
  rw [← htype]
  refine ⟨_, ?_, Multipart.announces_multipartType (forall_mem_of_all (by decide +kernel))⟩
  intro s hs
  obtain rfl := List.mem_singleton.1 hs
  show ';' ∉ _ ∧ '\\' ∉ _
  decide +kernel

/-- `execute_multipart_boundary` at a form with fields and a boundary of the author. -/
theorem execute_multipart_boundary_someFields :
    ∃ first, ((start .standard).execute formServer []
        (formRequest fixedHeaders someFields)).sent.head? = some first ∧
      first.headers.get? "Content-Type" = some (fixedType) ∧
      Multipart.Delimits (encode "fixed") first.body := by
  have hsent : (((start .standard).execute formServer []
      (formRequest fixedHeaders someFields)).sent.head?.map fun x =>
        x.headers.fields "Content-Type") =
      some [("Content-Type", fixedType)] := by
    decide +kernel
  obtain ⟨first, hfirst, hfields⟩ := Option.map_eq_some_iff.1 hsent
  have htype := get?_of_fields hfields
  obtain ⟨sections, hplain, hannounced⟩ := announces_fixed
  have hform : (formRequest fixedHeaders someFields).body.formData = some someFields := rfl
  obtain ⟨-, hdelimits, -⟩ := execute_multipart_boundary (w := formServer) [] (by decide +kernel)
    rfl hform hfirst htype hannounced
  exact ⟨first, hfirst, htype, hdelimits (by decide +kernel) hplain⟩

/-- A form without fields is not delimited by the boundary of the author that it announces. -/
theorem execute_multipart_boundary_fixed :
    ∃ first sections, ((start .standard).execute formServer []
        (formRequest fixedHeaders [])).sent.head? = some first ∧
      first.headers.get? "Content-Type" = some (fixedType) ∧
      Multipart.Announces (fixedType) sections "fixed" ∧
      ¬Multipart.Delimits (encode "fixed") first.body := by
  have hsent : (((start .standard).execute formServer []
      (formRequest fixedHeaders [])).sent.head?.map fun x =>
        (x.headers.fields "Content-Type", x.body)) =
      some ([("Content-Type", fixedType)], encode "--0a1b--\r\n") := by
    decide +kernel
  obtain ⟨first, hfirst, hpair⟩ := Option.map_eq_some_iff.1 hsent
  obtain ⟨hfields, hbody⟩ := Prod.ext_iff.1 hpair
  have htype := get?_of_fields hfields
  obtain ⟨sections, -, hannounced⟩ := announces_fixed
  refine ⟨first, sections, hfirst, htype, hannounced, ?_⟩
  rw [show first.body = encode "--0a1b--\r\n" from hbody]
  decide +kernel

end Session

end Courier
