import Courier.Exchange.Execute
import Courier.Proofs.HeaderPrecedence
import Courier.Proofs.Percent

/-!
# The headers that are sent

The first request that is handed over has one field for every name among the headers of its author,
and it is the last header of that name (`execute_sends_headers`). Only the credentials of a URL come
between: they take the place of an `Authorization` header.

A request is completed in several steps after its headers are built. Each of them is looked at for
one name that the author uses, and leaves the fields of that name alone, because it gives way to
what is there: the client's own headers (`fields_update`), the cookies (`fields_addCookies`), the
headers of the body and those in front (`fields_completeHeaders`). The credentials do not give way
(`fields_withUrlCredentials`).
-/

namespace Courier

open Headers Text

/-! ## What the author writes -/

section Author

variable {auth : Auth} {entries : List Entry} {body : Body} {boundary : String} {payload : Payload}
  {own author : Headers}

/-- The default for a body does not come after a header of the author with its name. -/
theorem isLast_writes (hpayload : Payload.ofBody boundary body entries = .ok payload)
    (hauthor : activePairs entries = author.map CodeText.ofPair) {p : String × String}
    (h : IsLast author p) : IsLast (own ++ author ++ payload.defaultHeaders) p := by
  obtain ⟨earlier, later, hpairs, hlater⟩ := h
  refine ⟨own ++ earlier, later ++ payload.defaultHeaders, ?_, ?_⟩
  · rw [hpairs]
    simp only [List.append_assoc, List.cons_append]
  · intro w hw
    rcases List.mem_append.1 hw with hw | hw
    · exact hlater w hw
    · -- there is a default only if no header in use has its name
      obtain ⟨type, htype, rfl⟩ := List.mem_map.1 hw
      obtain ⟨-, hnone⟩ := (Payload.contentType_eq_some_iff hpayload type).1
        (Option.mem_toList.1 htype)
      have hmem : CodeText.ofPair p ∈ activePairs entries := by
        rw [hauthor, hpairs]
        simp
      obtain ⟨e, he, henabled, hpair⟩ := exists_of_mem_activePairs hmem
      rw [← Bool.not_eq_true, sameName_comm]
      exact fun hsame => hnone e he henabled ⟨p.1, congrArg Prod.fst hpair, hsame⟩

/-- Headers can be built of what is ASCII. -/
theorem buildHeaders_of_isAscii (hboundary : IsAscii boundary)
    (hpayload : Payload.ofBody boundary body entries = .ok payload)
    (hown : auth.headers = .ok (own.map CodeText.ofPair))
    (hauthor : activePairs entries = author.map CodeText.ofPair)
    (hascii : ∀ h ∈ own ++ author, IsAscii h.1 ∧ IsAscii h.2) :
    buildHeaders auth entries payload =
      .ok (setAll [] (own ++ author ++ payload.defaultHeaders)) := by
  refine buildHeaders_eq_ok_iff.2 ⟨_, _, hown, ?_, ?_, rfl⟩
  · rw [givenWrites, hauthor, List.map_append, List.map_append, List.append_assoc,
      Payload.defaultHeaders, List.map_map]
    rfl
  · intro w hw
    rcases List.mem_append.1 hw with hw | hw
    · exact hascii w hw
    · obtain ⟨type, htype, rfl⟩ := List.mem_map.1 hw
      have hname : IsAscii "Content-Type" := by decide
      exact ⟨hname, Payload.isAscii_contentType hboundary hpayload (Option.mem_toList.1 htype)⟩

/-- The headers that are written have the names of those that are given and of the default. -/
theorem has_append_defaultHeaders (given : Headers) (payload : Payload) {name : String}
    (h : sameName "Content-Type" name = false) :
    has (given ++ payload.defaultHeaders) name = given.has name := by
  refine has_of_fields_eq ?_
  have hdefault : payload.defaultHeaders.fields name = [] := by
    rw [fields_eq_nil_iff, has, List.any_eq_false]
    intro w hw
    obtain ⟨type, -, rfl⟩ := List.mem_map.1 hw
    simp [h]
  rw [fields_append, hdefault, List.append_nil]

end Author

/-- Whether a body has an active form field with a surrogate. -/
def Body.HasUnwritableField (b : Body) : Prop :=
  b.kind = .formData ∧ ∃ fields, b.formData = some fields ∧
    ∃ p ∈ activePairs fields, p.1.toString? = none ∨ p.2.toString? = none

/-- What a body is sent as cannot be put on the wire exactly if it has such a field. -/
theorem WireBody.exists_ofPayload_eq_error_iff {body : Body} {boundary : String}
    {headers : List Entry} {payload : Payload}
    (h : Payload.ofBody boundary body headers = .ok payload) (other : String)
    (contentType : Option String) :
    (∃ fault, ofPayload other contentType payload = .error fault) ↔ body.HasUnwritableField := by
  rcases Payload.ofBody_cases h with ⟨rfl, -, hform⟩ | ⟨hkind, text, rfl⟩ | ⟨hkind, -, text, rfl⟩ |
    ⟨hkind, fields, hfields, hactive, rfl⟩ | ⟨hkind, fields, hfields, -, rfl⟩
  · refine iff_of_false nofun ?_
    rintro ⟨hkind, fields, hfields, -⟩
    rw [hform hkind] at hfields
    cases hfields
  · simp [ofPayload, Body.HasUnwritableField, hkind]
  · simp [ofPayload, Body.HasUnwritableField, hkind]
  · simp [ofPayload, Body.HasUnwritableField, hfields, hactive]
  · simp only [ofPayload, map_eq_error_iff, CodeText.exists_utf8Pairs_eq_error_iff]
    simp [Body.HasUnwritableField, hkind, hfields]

/-! ## Completing a request -/

/-- Cookies are only added where there is no header of theirs. -/
theorem fields_addCookies {now : Int} {jar : CookieJar} {url : Url} {headers completed : Headers}
    {name : String} (h : headers.has name = true)
    (hcookies : addCookies now jar url headers = .ok completed) :
    completed.fields name = headers.fields name := by
  unfold addCookies at hcookies
  split at hcookies
  · cases hcookies
    rfl
  · split at hcookies
    · cases hcookies
      rfl
    · rename_i habsent
      split at hcookies
      · cases hcookies
      · cases hcookies
        -- cookies are missing, and so they have another name
        rw [fields_set, if_neg]
        exact fun hname => habsent (by rw [has_congr hname, h])

/-- Cookies are added under their own name alone. -/
theorem fields_addCookies_of_ne {now : Int} {jar : CookieJar} {url : Url}
    {headers completed : Headers} {name : String} (h : ¬sameName "Cookie" name = true)
    (hcookies : addCookies now jar url headers = .ok completed) :
    completed.fields name = headers.fields name := by
  unfold addCookies at hcookies
  split at hcookies
  · cases hcookies
    rfl
  · split at hcookies
    · cases hcookies
      rfl
    · split at hcookies
      · cases hcookies
      · cases hcookies
        rw [fields_set, if_neg h]

/-- Cookies cannot be added exactly when some are wanted that are not ASCII. -/
theorem exists_addCookies_eq_error_iff {now : Int} {jar : CookieJar} {url : Url}
    {headers : Headers} :
    (∃ fault, addCookies now jar url headers = .error fault) ↔
      headers.has "Cookie" = false ∧
        ∃ value, jar.header? now url = some value ∧ ¬IsAscii value := by
  unfold addCookies
  cases jar.header? now url with
  | none => simp
  | some value =>
    by_cases hgiven : headers.has "Cookie" = true
    · simp [hgiven]
    · rw [Bool.not_eq_true] at hgiven
      have hascii : EncodingFault.inAscii? value = none ↔ IsAscii value := by
        rw [EncodingFault.inAscii?_eq_none_iff]
        exact CodeText.isAscii_ofString_iff
      cases hfault : EncodingFault.inAscii? value with
      | none => simp [hgiven, hfault, hascii.1 hfault]
      | some fault =>
        have hnot : ¬IsAscii value := fun ha => by
          rw [hascii.2 ha] at hfault
          cases hfault
        simp [hgiven, hfault, hnot]

/-- The headers that stand in front are none of those that are given. -/
theorem fields_leadingHeaders {method : String} {url : Url} {headers : Headers} {name : String}
    (h : headers.has name = true) : (leadingHeaders method url headers).fields name = [] := by
  have hnone : ∀ {default : String}, headers.has default = false →
      ∀ value, fields [(default, value)] name = [] := by
    intro default habsent value
    rw [fields_cons, if_neg]
    · rfl
    · intro hname
      rw [has_congr hname, h] at habsent
      cases habsent
  unfold leadingHeaders
  rw [fields_append, List.append_eq_nil_iff]
  constructor
  · split
    · rfl
    · rename_i habsent
      exact hnone (by simpa using habsent) _
  · split
    · rfl
    · rename_i habsent
      simp only [Bool.or_eq_true, not_or, Bool.not_eq_true] at habsent
      exact hnone habsent.1.1 _

/-- Headers that are written unless they are there leave alone the names that are. -/
theorem fields_setDefaults {headers : Headers} {name : String} (h : headers.has name = true)
    (defaults : Headers) :
    (defaults.foldl (fun hs d => hs.setDefault d.1 d.2) headers).fields name =
      headers.fields name := by
  induction defaults generalizing headers with
  | nil => rfl
  | cons d defaults ih =>
    have hstep := fields_setDefault h d.1 d.2
    rw [List.foldl_cons, ih (by rw [has_of_fields_eq hstep, h]), hstep]

/-- Completing headers leaves alone the names that are there. -/
theorem fields_completeHeaders {method : String} {url : Url} {headers : Headers} {body : WireBody}
    {name : String} (h : headers.has name = true) :
    (completeHeaders method url headers body).fields name = headers.fields name := by
  have hdescribed := fields_setDefaults h body.headers
  have hhas := has_of_fields_eq hdescribed
  rw [h] at hhas
  rw [completeHeaders, fields_append, fields_leadingHeaders hhas, List.nil_append, hdescribed]

namespace WireRequest

/-- A request is completed if its cookies, its body and its host can be written. -/
theorem complete_eq_ok_iff {now : Int} {boundary method : String} {jar : CookieJar} {url : Url}
    {headers : Headers} {payload : Payload} {wire : WireRequest} :
    complete now boundary jar method url headers payload = .ok wire ↔
      ∃ completed body, addCookies now jar url (clientHeaders.update headers) = .ok completed ∧
        WireBody.ofPayload boundary (completed.get? "Content-Type") payload = .ok body ∧
        hostFault? url completed = none ∧
        wire = ⟨method, url, completeHeaders method url completed body, body.bytes⟩ := by
  rw [complete, bind_eq_ok_iff]
  refine exists_congr fun completed => ?_
  rw [exists_and_left, bind_eq_ok_iff]
  refine and_congr_right fun _ => exists_congr fun body => and_congr_right fun _ => ?_
  cases hostFault? url completed with
  | some fault => exact iff_of_false nofun nofun
  | none =>
    constructor
    · intro h
      exact ⟨rfl, (Except.ok.inj h).symm⟩
    · rintro ⟨-, rfl⟩
      rfl

/-- A completed request goes to its URL and has the fields of every name that is given. -/
theorem fields_complete {now : Int} {boundary method : String} {jar : CookieJar} {url : Url}
    {headers : Headers} {payload : Payload} {wire : WireRequest} {name : String}
    (h : headers.has name = true)
    (hwire : complete now boundary jar method url headers payload = .ok wire) :
    wire.url = url ∧ wire.headers.fields name = headers.fields name := by
  obtain ⟨completed, body, hcookies, -, -, rfl⟩ := complete_eq_ok_iff.1 hwire
  -- each step finds the name there, because the one before has left its fields alone
  have hupdate : (clientHeaders.update headers).fields name = headers.fields name :=
    fields_update h
  have hkept := fields_addCookies (by rw [has_of_fields_eq hupdate, h]) hcookies
  have hfields := hkept.trans hupdate
  exact ⟨rfl, by rw [fields_completeHeaders (by rw [has_of_fields_eq hfields, h]), hfields]⟩

/-- A request is not completed exactly when cookies that are not ASCII are wanted, or form fields
have surrogates, or the host is not ASCII and not given. -/
theorem exists_complete_eq_error_iff (now : Int) {boundary : String} (method : String)
    (jar : CookieJar) (url : Url) (headers : Headers) {payload : Payload} {body : Body}
    {entries : List Entry} (hpayload : Payload.ofBody boundary body entries = .ok payload) :
    (∃ fault, complete now boundary jar method url headers payload = .error fault) ↔
      (headers.has "Cookie" = false ∧
          ∃ value, jar.header? now url = some value ∧ ¬IsAscii value) ∨
        body.HasUnwritableField ∨ headers.has "Host" = false ∧ ¬IsAscii url.netloc := by
  -- the client brings neither cookies nor a host among its own headers
  have hown : ∀ name, clientHeaders.has name = false →
      (clientHeaders.update headers).has name = headers.has name := by
    intro name hname
    rw [has_update, hname, Bool.false_or]
  have hcookie := hown "Cookie" (by decide)
  have hhost := hown "Host" (by decide)
  rw [← hcookie, ← exists_addCookies_eq_error_iff]
  cases hcookies : addCookies now jar url (clientHeaders.update headers) with
  | error fault =>
    refine iff_of_true (exists_eq_error_iff.2 ?_) (.inl ⟨fault, rfl⟩)
    rintro ⟨wire, hwire⟩
    obtain ⟨completed, -, hsome, -⟩ := complete_eq_ok_iff.1 hwire
    rw [hcookies] at hsome
    cases hsome
  | ok completed =>
    have hkept : completed.has "Host" = headers.has "Host" := by
      rw [← hhost]
      exact has_of_fields_eq (fields_addCookies_of_ne (by decide) hcookies)
    have hfault : hostFault? url completed = none ↔
        ¬(headers.has "Host" = false ∧ ¬IsAscii url.netloc) := by
      rw [← CodeText.isAscii_ofString_iff, CodeText.IsAscii,
        ← EncodingFault.inAscii?_eq_none_iff, hostFault?, hkept]
      cases headers.has "Host" <;> simp
    have hbody := WireBody.exists_ofPayload_eq_error_iff hpayload boundary
      (completed.get? "Content-Type")
    rw [or_iff_right (nofun : ¬∃ fault, Except.ok completed = .error fault), ← hbody,
      exists_eq_error_iff, exists_eq_error_iff, ← not_iff_not, not_not, not_or, not_not, ← hfault]
    constructor
    · rintro ⟨wire, hwire⟩
      obtain ⟨_, body, hsome, hput, hnone, -⟩ := complete_eq_ok_iff.1 hwire
      rw [hcookies] at hsome
      cases hsome
      exact ⟨⟨body, hput⟩, hnone⟩
    · rintro ⟨⟨body, hput⟩, hnone⟩
      exact ⟨_, complete_eq_ok_iff.2 ⟨completed, body, hcookies, hput, hnone, rfl⟩⟩

/-- The credentials of a URL take the place of an `Authorization` header, and of no other. -/
theorem fields_withUrlCredentials (r : WireRequest) (name : String) :
    r.withUrlCredentials.headers.fields name =
      match urlCredentials? r.url with
      | none => r.headers.fields name
      | some value =>
        if sameName "Authorization" name = true then [("Authorization", value)]
        else r.headers.fields name := by
  unfold withUrlCredentials
  cases urlCredentials? r.url with
  | none => rfl
  | some value => exact fields_set r.headers "Authorization" value name

end WireRequest

/-- A URL has no credentials exactly when its user information is empty or a colon. -/
theorem urlCredentials?_eq_none_iff (url : Url) :
    urlCredentials? url = none ↔ url.userinfo = "" ∨ url.userinfo = ":" := by
  have hsplit := List.takeWhile_append_dropWhile (p := (· != ':')) (l := url.userinfo.toList)
  have hempty : urlCredentials? url = none ↔
      url.userinfo.toList.takeWhile (· != ':') = [] ∧
        (url.userinfo.toList.dropWhile (· != ':')).drop 1 = [] := by
    unfold urlCredentials?
    simp only [ite_eq_left_iff, reduceCtorEq, imp_false, not_not, Bool.and_eq_true,
      String.isEmpty_iff, percentDecode_eq_empty_iff, String.ofList_eq_empty_iff]
  rw [hempty, ← String.toList_inj, ← String.toList_inj]
  constructor
  · rintro ⟨hname, hpassword⟩
    rw [hname, List.nil_append] at hsplit
    cases hrest : url.userinfo.toList.dropWhile (· != ':') with
    | nil =>
      rw [hrest] at hsplit
      exact .inl hsplit.symm
    | cons c rest =>
      -- what stands first is the colon, and nothing comes behind it
      have hcolon := List.head?_dropWhile_not (· != ':') url.userinfo.toList
      rw [hrest] at hsplit hpassword hcolon
      obtain rfl : rest = [] := hpassword
      obtain rfl : c = ':' := by simpa using hcolon
      exact .inr hsplit.symm
  · rintro (h | h)
    · rw [h]
      exact ⟨rfl, rfl⟩
    · rw [h]
      exact ⟨rfl, rfl⟩

/-! ## Sending -/

/-- The request that is followed is the first one that is handed over. -/
theorem Session.head?_sent_follow (w : Surroundings) (more : Nat) (s : Session) (r : WireRequest) :
    (s.follow w (more + 1) r).sent.head? = some r := by
  unfold follow
  cases w.script.event s.position with
  | fault f => rfl
  | reply reply =>
    simp only
    cases reply.location? with
    | none => rfl
    | some location =>
      simp only
      split
      · rfl
      · split
        · split
          · rfl
          · rfl
        · rfl

/-- A client that is not closed first hands over the request with the credentials of its URL. -/
theorem Session.head?_sent_send (w : Surroundings) (s : Session) (r : WireRequest) :
    (s.send w r).sent.head? = if s.isClosed = true then none else some r.withUrlCredentials := by
  unfold send
  split
  · rfl
  · exact head?_sent_follow w maxRedirects s r.withUrlCredentials

section Execute

variable {w : Surroundings} {s : Session} {r : Request} {url : Url}

/-- A text passes the check of methods exactly if it is a token of characters. -/
theorem token?_eq_some_iff {t : CodeText} {method : String} :
    token? t = some method ↔ t = CodeText.ofString method ∧ isToken method = true := by
  rw [token?, Option.filter_eq_some_iff, CodeText.toString?_eq_some_iff]

/-- A request that passes the checks goes over the wire once its headers are built and it is
complete. -/
theorem Request.toWire_of_checked {method : String} {payload : Payload}
    (hurl : Target.build r.url r.params = .ok url) (hmethod : token? r.method = some method)
    (hpayload : Payload.ofBody w.boundary r.body r.headers = .ok payload) :
    r.toWire w s =
      ((buildHeaders r.auth r.headers payload).bind fun headers =>
        WireRequest.complete w.now w.boundary s.jar method url headers payload).mapError
          .ofEncodingFault := by
  have hprepare : r.prepare w.boundary = .ok ⟨url, method, payload⟩ := by
    unfold Request.prepare
    simp only [hurl, hmethod, hpayload]
  unfold Request.toWire
  rw [hprepare]
  simp only [bind, Except.bind]
  cases buildHeaders r.auth r.headers payload with
  | error f => rfl
  | ok headers =>
    simp only
    cases WireRequest.complete w.now w.boundary s.jar method url headers payload with
    | error f => rfl
    | ok wire => rfl

/-- What is prepared has passed the checks. -/
theorem Request.prepare_eq_ok_iff {boundary : String} {p : Prepared} :
    r.prepare boundary = .ok p ↔
      Target.build r.url r.params = .ok p.url ∧ token? r.method = some p.method ∧
        Payload.ofBody boundary r.body r.headers = .ok p.payload := by
  obtain ⟨url, method, payload⟩ := p
  unfold prepare
  cases Target.build r.url r.params with
  | error e => simp
  | ok url' =>
    cases token? r.method with
    | none => simp
    | some method' =>
      cases Payload.ofBody boundary r.body r.headers with
      | error fault => simp
      | ok payload' => simp

/-- The first request is completed for a target, a method and a content that pass the checks, with
headers that can be built. -/
theorem Request.toWire_eq_ok_iff {wire : WireRequest} :
    r.toWire w s = .ok wire ↔
      ∃ url method payload headers, Target.build r.url r.params = .ok url ∧
        token? r.method = some method ∧
        Payload.ofBody w.boundary r.body r.headers = .ok payload ∧
        buildHeaders r.auth r.headers payload = .ok headers ∧
        WireRequest.complete w.now w.boundary s.jar method url headers payload = .ok wire := by
  constructor
  · intro h
    obtain ⟨⟨url, method, payload⟩, hprepare, -⟩ := bind_eq_ok_iff.1 h
    obtain ⟨hurl, hmethod, hpayload⟩ := prepare_eq_ok_iff.1 hprepare
    rw [toWire_of_checked hurl hmethod hpayload, mapError_eq_ok_iff] at h
    obtain ⟨headers, hheaders, hwire⟩ := bind_eq_ok_iff.1 h
    exact ⟨url, method, payload, headers, hurl, hmethod, hpayload, hheaders, hwire⟩
  · rintro ⟨url, method, payload, headers, hurl, hmethod, hpayload, hheaders, hwire⟩
    rw [toWire_of_checked hurl hmethod hpayload, mapError_eq_ok_iff]
    exact bind_eq_ok_iff.2 ⟨headers, hheaders, hwire⟩

/-- The first request that is handed over is the completed one with the credentials of its URL. -/
theorem Session.head?_sent_execute_iff {clock : Clock} {x : WireRequest} :
    (s.execute w clock r).sent.head? = some x ↔
      s.isClosed = false ∧ ∃ wire, r.toWire w s = .ok wire ∧ wire.withUrlCredentials = x := by
  unfold execute
  cases r.toWire w s with
  | error e => simp
  | ok wire =>
    simp only [head?_sent_send]
    cases s.isClosed <;> simp

/-- Nothing is handed over exactly if the client is closed or there is no request. -/
theorem Session.sent_execute_eq_nil_iff {clock : Clock} :
    (s.execute w clock r).sent = [] ↔ s.isClosed = true ∨ ∃ e, r.toWire w s = .error e := by
  rw [← List.head?_eq_none_iff, Option.eq_none_iff_forall_ne_some, exists_eq_error_iff]
  simp only [ne_eq, head?_sent_execute_iff]
  cases s.isClosed <;> simp

/-- What the author writes as a header is what is sent, except for what the credentials of a URL
replace. Let a request pass the checks of its target, its method and its headers. Nothing is handed
over exactly if the client is closed, or something has to be written that cannot be: the content or
an active form field has a surrogate, or cookies are wanted that are not ASCII, or so is the host
and the headers give none. Otherwise the first request that is handed over has one field of every
name among the headers of the author: the last of them with that name, whatever the authentication
settings, the body and the client add. Only if the name is `Authorization` and the URL has
credentials, the field has these. So the value is the author's exactly if the name is another, the
URL has no credentials, or they are the same. -/
theorem Session.execute_sends_headers (clock : Clock) {method : String} {own author : Headers}
    (hurl : Target.build r.url r.params = .ok url) (hmethod : token? r.method = some method)
    (hboundary : IsAscii w.boundary)
    (hown : r.auth.headers = .ok (own.map CodeText.ofPair))
    (hauthor : activePairs r.headers = author.map CodeText.ofPair)
    (hascii : ∀ h ∈ own ++ author, IsAscii h.1 ∧ IsAscii h.2) :
    let sent := (s.execute w clock r).sent
    (sent = [] ↔ s.isClosed = true ∨ r.body.IsUnwritable ∨
      (has (own ++ author) "Cookie" = false ∧
        ∃ value, s.jar.header? w.now url = some value ∧ ¬IsAscii value) ∨
      r.body.HasUnwritableField ∨
      has (own ++ author) "Host" = false ∧ ¬IsAscii url.netloc) ∧
      ∀ first, sent.head? = some first → ∀ name, author.has name = true →
        ∃ p, IsLast author p ∧ sameName p.1 name = true ∧
          first.headers.fields name =
            (match urlCredentials? url with
              | none => [p]
              | some value =>
                if sameName "Authorization" name = true then [("Authorization", value)] else [p]) ∧
          ((∃ spelling, first.headers.fields name = [(spelling, p.2)]) ↔
            sameName "Authorization" name = false ∨ url.userinfo = "" ∨ url.userinfo = ":" ∨
              urlCredentials? url = some p.2) := by
  intro sent
  constructor
  · rw [Session.sent_execute_eq_nil_iff,
      ← Payload.exists_ofBody_eq_error_iff w.boundary r.body r.headers]
    refine or_congr_right ?_
    cases hpayload : Payload.ofBody w.boundary r.body r.headers with
    | error fault =>
      refine iff_of_true (exists_eq_error_iff.2 ?_) (.inl ⟨fault, rfl⟩)
      rintro ⟨wire, hwire⟩
      obtain ⟨-, -, payload, -, -, -, hsome, -, -⟩ := Request.toWire_eq_ok_iff.1 hwire
      rw [hpayload] at hsome
      cases hsome
    | ok payload =>
      have hheaders := buildHeaders_of_isAscii hboundary hpayload hown hauthor hascii
      rw [or_iff_right (nofun : ¬∃ fault, Except.ok payload = .error fault),
        Request.toWire_of_checked hurl hmethod hpayload, hheaders]
      simp only [mapError_eq_error_iff, Except.bind]
      have hincomplete := WireRequest.exists_complete_eq_error_iff w.now method s.jar url
        (setAll [] (own ++ author ++ payload.defaultHeaders)) hpayload
      rw [has_setAll, has_setAll, has_append_defaultHeaders _ _ (by decide),
        has_append_defaultHeaders _ _ (by decide)] at hincomplete
      rw [← hincomplete]
      constructor
      · rintro ⟨_, fault, hfault, -⟩
        exact ⟨fault, hfault⟩
      · rintro ⟨fault, hfault⟩
        exact ⟨_, fault, hfault, rfl⟩
  · intro first hfirst name hname
    obtain ⟨-, wire, hwire, rfl⟩ := head?_sent_execute_iff.1 hfirst
    obtain ⟨url', method', payload, headers, hurl', -, hpayload, hheaders, hcomplete⟩ :=
      Request.toWire_eq_ok_iff.1 hwire
    rw [hurl] at hurl'
    cases hurl'
    rw [buildHeaders_of_isAscii hboundary hpayload hown hauthor hascii] at hheaders
    cases hheaders
    obtain ⟨p, hlast, hp⟩ := exists_isLast hname
    refine ⟨p, hlast, hp, ?_⟩
    -- the last header of the author is the only field that is built, and it stays so
    have hgiven : (setAll [] (own ++ author ++ payload.defaultHeaders)).fields name = [p] := by
      rw [← fields_congr hp]
      exact fields_setAll (isLast_writes hpayload hauthor hlast)
    have hhas : (setAll [] (own ++ author ++ payload.defaultHeaders)).has name = true := by
      rw [← Bool.not_eq_false, ← fields_eq_nil_iff, hgiven]
      simp
    obtain ⟨hto, hkept⟩ := WireRequest.fields_complete hhas hcomplete
    have hfields := WireRequest.fields_withUrlCredentials wire name
    rw [hto, hkept, hgiven] at hfields
    refine ⟨hfields, ?_⟩
    rw [hfields, ← or_assoc (a := url.userinfo = ""), ← urlCredentials?_eq_none_iff]
    cases urlCredentials? url with
    | none => simp [Prod.ext_iff]
    | some value =>
      by_cases hauthorization : sameName "Authorization" name = true
      · simp [hauthorization]
      · rw [Bool.not_eq_true] at hauthorization
        simp [hauthorization, Prod.ext_iff]

end Execute

/-- A request with a token in its settings and an `Authorization` header, for a URL. -/
def authorizedRequest (url : String) : Request :=
  ⟨"GET", url, [⟨"k", "Authorization", "explicit", true⟩], [], Body.absent, tokenAuth⟩

/-- A server that gives an empty answer to everything. -/
def quietServer : Surroundings := ⟨[], "", 0⟩

/-- The header of its author. -/
def explicitHeaders : Headers := [("Authorization", "explicit")]

namespace Session

/-- `execute_sends_headers` at a URL without credentials: what the author writes prevails. -/
theorem execute_sends_headers_explicit :
    activePairs (authorizedRequest "http://h.test/").headers =
        explicitHeaders.map CodeText.ofPair ∧
      ∃ first p, ((start .standard).execute quietServer []
          (authorizedRequest "http://h.test/")).sent.head? = some first ∧
        IsLast explicitHeaders p ∧
        ∃ spelling, first.headers.fields "Authorization" = [(spelling, p.2)] := by
  have hbuilt : (Target.build (authorizedRequest "http://h.test/").url
      (authorizedRequest "http://h.test/").params).toOption.any
        (fun url => decide (url.userinfo = "" ∧ Text.IsAscii url.netloc ∧
          (start .standard).jar.header? quietServer.now url = none)) = true := by
    decide +kernel
  obtain ⟨url, hurl, hchecks⟩ := exists_eq_ok_of_any hbuilt
  obtain ⟨huserinfo, hnetloc, hno⟩ := of_decide_eq_true hchecks
  have hown : (authorizedRequest "http://h.test/").auth.headers =
      .ok (([("Authorization", "Bearer t")] : Headers).map CodeText.ofPair) := by
    decide +kernel
  have hauthor : activePairs (authorizedRequest "http://h.test/").headers =
      explicitHeaders.map CodeText.ofPair := by
    decide +kernel
  have hmethod : token? (authorizedRequest "http://h.test/").method = some "GET" := by
    decide +kernel
  obtain ⟨hnothing, hfields⟩ := execute_sends_headers (w := quietServer) (s := start .standard) []
    hurl hmethod (by decide) hown hauthor (forall_mem_of_all (by decide +kernel))
  have hsent : ((start .standard).execute quietServer []
      (authorizedRequest "http://h.test/")).sent ≠ [] := by
    rw [ne_eq, hnothing, hno]
    simp [start, hnetloc, authorizedRequest, Body.absent, Body.IsUnwritable,
      Body.HasUnwritableField]
  obtain ⟨first, hfirst⟩ := Option.ne_none_iff_exists'.1 (mt List.head?_eq_none_iff.1 hsent)
  obtain ⟨p, hlast, -, -, hvalue⟩ := hfields first hfirst "Authorization" (by decide)
  exact ⟨hauthor, first, p, hfirst, hlast, hvalue.2 (.inr (.inl huserinfo))⟩

/-- What the author writes does not prevail over the credentials of a URL. -/
theorem execute_sends_headers_ne_explicit :
    ∃ url first, Target.build "http://user:pw@h.test/" [] = .ok url ∧
      ((start .standard).execute quietServer []
        (authorizedRequest "http://user:pw@h.test/")).sent = [first] ∧
      activePairs (authorizedRequest "http://user:pw@h.test/").headers =
        explicitHeaders.map CodeText.ofPair ∧
      IsLast explicitHeaders ("Authorization", "explicit") ∧
      first.headers.fields "Authorization" = [("Authorization", "Basic dXNlcjpwdw==")] := by
  have hbuilt : (Target.build "http://user:pw@h.test/" []).toOption.any (fun _ => true) = true := by
    decide +kernel
  have hsent : ((start .standard).execute quietServer []
      (authorizedRequest "http://user:pw@h.test/")).sent.map
        (fun first => first.headers.fields "Authorization") =
      [[("Authorization", "Basic dXNlcjpwdw==")]] := by
    decide +kernel
  have hauthor : activePairs (authorizedRequest "http://user:pw@h.test/").headers =
      explicitHeaders.map CodeText.ofPair := by
    decide +kernel
  obtain ⟨url, hurl, -⟩ := exists_eq_ok_of_any hbuilt
  obtain ⟨first, hfirst, hfields⟩ := List.map_eq_singleton_iff.1 hsent
  exact ⟨url, first, hurl, hfirst, hauthor, ⟨[], [], rfl, by simp⟩, hfields⟩

end Session

end Courier
