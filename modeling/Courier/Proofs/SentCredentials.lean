import Courier.Proofs.RedirectHeaders

/-!
# Where credentials go

Authentication settings contribute one header to a request, and redirects may lead it to another
host. Does the header go along? That depends on its name alone (`execute_credentials`). What is in
`Authorization` never reaches another host, and the basic and the bearer scheme have no other
name. A key under a name of its author's choice does, because redirects know nothing of such names:
every request carries it that the first one leads to (`execute_credentials_astray`).

The proof follows the header from the settings into the first request, where only the default
content type of a body can take its place (`carries_first_iff`), and from there along the run of
redirects with the lemmas on a single name. There are three kinds of names: that of the credentials
(`staysWithHost_of_authorization`), those that redirects leave alone (`carries_iff_of_plain`), and
those that redirects write anew (`carries_cases_of_rewrites`).
-/

namespace Courier

open Headers

/-- Whether a request carries a header, by its name in any case and its value. -/
def WireRequest.Carries (x : WireRequest) (h : String × String) : Prop :=
  ∃ f ∈ x.headers.fields h.1, f.2 = h.2

/-- Whether a header goes to no other host than that of the first request. -/
def StaysWithHost (sent : List WireRequest) (h : String × String) : Prop :=
  ∀ first, sent.head? = some first → ∀ x ∈ sent, x.Carries h →
    x.url.readableHost? = first.url.readableHost?

namespace WireRequest

variable {x y : WireRequest} {h : String × String}

/-- Requests with the same fields of a name carry the same header of it. -/
theorem carries_congr (hfields : x.headers.fields h.1 = y.headers.fields h.1) :
    x.Carries h ↔ y.Carries h := by
  unfold Carries
  rw [hfields]

/-- A request that carries a header has its name. -/
theorem Carries.has (hx : x.Carries h) : x.headers.has h.1 = true := by
  obtain ⟨f, hf, -⟩ := hx
  exact has_of_mem_fields hf

/-- Where there is one field of a name, its value decides. -/
theorem carries_iff_of_fields {f : String × String} (hfields : x.headers.fields h.1 = [f]) :
    x.Carries h ↔ f.2 = h.2 := by
  unfold Carries
  rw [hfields]
  simp

end WireRequest

/-- The basic and the bearer scheme contribute an `Authorization` header. -/
theorem Auth.name_of_headers {auth : Auth} {h : String × String}
    (hauth : auth.headers = .ok [CodeText.ofPair h]) (hscheme : auth.scheme ≠ .apiKey) :
    h.1 = "Authorization" := by
  have hname : ∀ {value : CodeText}, [(CodeText.ofString "Authorization", value)] =
      [CodeText.ofPair h] → h.1 = "Authorization" := by
    intro value hpair
    exact (CodeText.ofString_inj.1 (congrArg Prod.fst (List.singleton_inj.1 hpair))).symm
  unfold Auth.headers at hauth
  cases hkind : auth.scheme with
  | none =>
    rw [hkind] at hauth
    cases hauth
  | basic =>
    simp only [hkind] at hauth
    split at hauth
    · obtain ⟨value, -, hpair⟩ := map_eq_ok_iff.1 hauth
      exact hname hpair
    · cases hauth
  | bearer =>
    simp only [hkind] at hauth
    cases htoken : auth.token with
    | none =>
      rw [htoken] at hauth
      cases hauth
    | some token =>
      rw [htoken] at hauth
      exact hname (Except.ok.inj hauth)
  | apiKey => exact absurd hkind hscheme

section Execute

variable {w : Surroundings} {s : Session} {r : Request} {url : Url} {h : String × String}

/-- The header of the settings is the last one of its name that is written, unless the default for
the body has the name. -/
theorem exists_isLast_of_auth {author : Headers} (hown : author.has h.1 = false)
    (payload : Payload) :
    ∃ p, IsLast (h :: (author ++ payload.defaultHeaders)) p ∧ sameName p.1 h.1 = true ∧
      (p.2 = h.2 ↔ (sameName "Content-Type" h.1 = true →
        ∀ type, payload.contentType = some type → type = h.2)) := by
  have hnone : ∀ e ∈ author, sameName e.1 h.1 = false := by
    intro e he
    rw [← Bool.not_eq_true]
    exact List.any_eq_false.1 hown e he
  unfold Payload.defaultHeaders
  cases htype : payload.contentType with
  | none =>
    refine ⟨h, ⟨[], author, by simp, hnone⟩, sameName_self _, ?_⟩
    simp
  | some type =>
    by_cases hname : sameName "Content-Type" h.1 = true
    · -- the default comes last of all
      refine ⟨("Content-Type", type), ⟨h :: author, [], by simp, by simp⟩, hname, ?_⟩
      simp [hname]
    · refine ⟨h, ⟨[], author ++ [("Content-Type", type)], by simp, ?_⟩, sameName_self _, ?_⟩
      · intro e he
        rcases List.mem_append.1 he with he | he
        · exact hnone e he
        · rw [List.mem_singleton.1 he]
          simpa using hname
      · simp [hname]

/-- The first request carries the header of the settings, unless the default for the body has its
name and another value. -/
theorem carries_first_iff {clock : Clock} {first : WireRequest}
    (hurl : Target.build r.url r.params = .ok url) (huser : url.userinfo = "")
    (hauth : r.auth.headers = .ok [CodeText.ofPair h])
    (hown : ¬HasNamed (activePairs r.headers) h.1)
    (hfirst : (s.execute w clock r).sent.head? = some first) :
    first.Carries h ↔ (sameName "Content-Type" h.1 = true → ∀ payload,
      Payload.ofBody w.boundary r.body r.headers = .ok payload → ∀ type,
        payload.contentType = some type → type = h.2) := by
  obtain ⟨-, wire, hwire, rfl⟩ := Session.head?_sent_execute_iff.1 hfirst
  obtain ⟨url', method, payload, headers, hurl', -, hpayload, hheaders, hcomplete⟩ :=
    Request.toWire_eq_ok_iff.1 hwire
  rw [hurl] at hurl'
  obtain rfl := Except.ok.inj hurl'
  obtain ⟨own, writes, hown', hwrites, -, rfl⟩ := buildHeaders_eq_ok_iff.1 hheaders
  rw [hauth] at hown'
  cases hown'
  obtain ⟨given, rfl, hgiven⟩ := exists_given_of_writes hwrites
  -- what is given is the header of the settings, then those of the author
  obtain ⟨h', author, rfl, hh, hauthor⟩ := List.map_eq_cons_iff.1 hgiven.symm
  obtain rfl := CodeText.ofPair_injective hh
  have hwritten : activePairs r.headers = author.map CodeText.ofPair := hauthor.symm
  rw [hwritten, hasNamed_map_ofPair, Bool.not_eq_true] at hown
  obtain ⟨p, hlast, hname, hvalue⟩ := exists_isLast_of_auth hown payload
  have hfield : (setAll [] (h' :: author ++ payload.defaultHeaders)).fields h'.1 = [p] := by
    rw [← fields_congr hname]
    exact fields_setAll hlast
  have hhas : (setAll [] (h' :: author ++ payload.defaultHeaders)).has h'.1 = true := by
    apply has_of_mem_fields
    rw [hfield]
    exact List.mem_singleton_self p
  obtain ⟨hto, hkept⟩ := WireRequest.fields_complete hhas hcomplete
  have hnone : urlCredentials? wire.url = none := by
    rw [urlCredentials?_eq_none_iff, hto]
    exact .inl huser
  have hfields : wire.withUrlCredentials.headers.fields h'.1 = [p] := by
    rw [WireRequest.fields_withUrlCredentials, hnone]
    exact hkept.trans hfield
  rw [WireRequest.carries_iff_of_fields hfields, hvalue]
  refine imp_congr_right fun _ => ?_
  simp [hpayload]

/-- What is in `Authorization` stays with the host. -/
theorem staysWithHost_of_authorization (clock : Clock)
    (hsame : sameName "Authorization" h.1 = true) :
    StaysWithHost (s.execute w clock r).sent h := by
  intro first hfirst x hx hcarries
  obtain ⟨i, hi⟩ := List.mem_iff_getElem?.1 hx
  obtain ⟨s', hway⟩ := Session.hops_of_getElem?_sent_execute hfirst hi
  have hhas : x.headers.has "Authorization" = true := by
    rw [has_congr hsame]
    exact hcarries.has
  exact (hway.host_eq_of_authorization hhas).2

/-- A header under a name that redirects leave alone goes wherever they lead. -/
theorem carries_iff_of_plain {clock : Clock} {first x : WireRequest}
    (hcredentials : ¬sameName "Authorization" h.1 = true) (hplain : ¬Redirect.Rewrites h.1)
    (hfirst : (s.execute w clock r).sent.head? = some first)
    (hx : x ∈ (s.execute w clock r).sent) : x.Carries h ↔ first.Carries h := by
  obtain ⟨i, hi⟩ := List.mem_iff_getElem?.1 hx
  obtain ⟨s', hway⟩ := Session.hops_of_getElem?_sent_execute hfirst hi
  exact WireRequest.carries_congr (hway.fields_of_plain hplain hcredentials)

/-- So it stays with the host exactly if it is not there, or no redirect leads to another host. -/
theorem staysWithHost_iff_of_plain {clock : Clock} {first : WireRequest}
    (hcredentials : ¬sameName "Authorization" h.1 = true) (hplain : ¬Redirect.Rewrites h.1)
    (hfirst : (s.execute w clock r).sent.head? = some first) :
    StaysWithHost (s.execute w clock r).sent h ↔ ¬first.Carries h ∨
      ∀ x ∈ (s.execute w clock r).sent, x.url.readableHost? = first.url.readableHost? := by
  have hall : ∀ x ∈ (s.execute w clock r).sent, (x.Carries h ↔ first.Carries h) :=
    fun x hx => carries_iff_of_plain hcredentials hplain hfirst hx
  constructor
  · intro hstays
    by_cases hcarries : first.Carries h
    · exact .inr fun x hx => hstays first hfirst x hx ((hall x hx).2 hcarries)
    · exact .inl hcarries
  · rintro (hnone | hhosts) other hother x hx hcarries
    · exact absurd ((hall x hx).1 hcarries) hnone
    · rw [hfirst] at hother
      obtain rfl := Option.some.inj hother
      exact hhosts x hx

/-- A request to another host that carries a header under a name that redirects rewrite has kept
what is said about its body, or has what the client writes there by itself. -/
theorem carries_cases_of_rewrites {clock : Clock} {first x : WireRequest} {i : Nat}
    (hrewrites : Redirect.Rewrites h.1) (hfirst : (s.execute w clock r).sent.head? = some first)
    (hx : (s.execute w clock r).sent[i]? = some x)
    (hhost : x.url.readableHost? ≠ first.url.readableHost?) (hcarries : x.Carries h) :
    ((sameName "Content-Length" h.1 = true ∨ sameName "Transfer-Encoding" h.1 = true) ∧
        first.Carries h) ∨
      (sameName "Cookie" h.1 = true ∧ ∃ s', Session.Hops w i s first s' x ∧
        s'.jar.header? w.now x.url = some h.2) ∨
      (sameName "Host" h.1 = true ∧ ∃ y ∈ (s.execute w clock r).sent, h.2 = y.url.netloc) := by
  obtain ⟨name, hname, hsame⟩ := hrewrites
  obtain ⟨s', hway⟩ := Session.hops_of_getElem?_sent_execute hfirst hx
  have hfields : ∀ y : WireRequest, y.headers.fields h.1 = y.headers.fields name := fun y =>
    (fields_congr hsame y.headers).symm
  obtain ⟨f, hf, hvalue⟩ := hcarries
  rw [hfields] at hf
  have habout : name = "Content-Length" ∨ name = "Transfer-Encoding" → first.Carries h := by
    intro hbody
    rcases hway.fields_of_aboutBody hbody with hkept | ⟨hlost, -, -⟩
    · rw [hkept, ← hfields] at hf
      exact ⟨f, hf, hvalue⟩
    · rw [hlost] at hf
      cases hf
  simp only [List.mem_cons, List.not_mem_nil, or_false] at hname
  rcases hname with rfl | rfl | rfl | rfl
  · -- the client has named a place on the way
    rcases hway.fields_host with ⟨j, hj, s₁, y, hbefore, hplace⟩ | ⟨-, hsamehost⟩
    · have hlimit : i ≤ Session.maxRedirects := (Session.getElem?_sent_execute_iff.1 hx).2.1
      have hy : (s.execute w clock r).sent[j]? = some y :=
        Session.getElem?_sent_execute_of_hops hfirst hbefore (Nat.le_trans hj hlimit)
      rw [hplace, List.mem_singleton] at hf
      refine .inr (.inr ⟨hsame, y, List.mem_of_getElem? hy, ?_⟩)
      rw [← hvalue, hf]
    · exact absurd hsamehost hhost
  · cases i with
    | zero =>
      cases hway
      exact absurd rfl hhost
    | succ n =>
      rw [hway.fields_cookie, List.mem_map] at hf
      obtain ⟨value, hjar, rfl⟩ := hf
      have hcookies : s'.jar.header? w.now x.url = some h.2 := by
        rw [← hvalue]
        exact Option.mem_toList.1 hjar
      exact .inr (.inl ⟨hsame, s', hway, hcookies⟩)
  · exact .inl ⟨.inl hsame, habout (.inl rfl)⟩
  · exact .inl ⟨.inr hsame, habout (.inr rfl)⟩

/-- Which requests carry the header that the authentication settings contribute. It is a pair of
texts of characters, since with any other nothing is sent. Let the URL have no user information, and
let no header of the author have the name of the header. Then the first request carries it, unless
the default content type of the body has its name and another value. In `Authorization`, where the
basic and the bearer scheme put it, it stays with the host. Under another name that redirects leave
alone, every request carries it that the first one does, so that it stays with the host exactly if
the first does not carry it or no redirect leads to another host. Under the names that redirects
rewrite, a request to another host carries it only if it is about the body, and the first request
carries it; or if it is what the client has there by itself, the cookies for the place or the host
of a place on the way. -/
theorem Session.execute_credentials (clock : Clock)
    (hurl : Target.build r.url r.params = .ok url) (huser : url.userinfo = "")
    (hauth : r.auth.headers = .ok [CodeText.ofPair h])
    (hown : ¬HasNamed (activePairs r.headers) h.1) :
    let sent := (s.execute w clock r).sent
    (r.auth.scheme ≠ .apiKey ∨ sameName "Authorization" h.1 = true → StaysWithHost sent h) ∧
      ∀ first, sent.head? = some first →
        (first.Carries h ↔ (sameName "Content-Type" h.1 = true → ∀ payload,
          Payload.ofBody w.boundary r.body r.headers = .ok payload → ∀ type,
            payload.contentType = some type → type = h.2)) ∧
        (¬sameName "Authorization" h.1 = true → ¬Redirect.Rewrites h.1 →
          (∀ x ∈ sent, (x.Carries h ↔ first.Carries h)) ∧
          (StaysWithHost sent h ↔ ¬first.Carries h ∨
            ∀ x ∈ sent, x.url.readableHost? = first.url.readableHost?)) ∧
        (Redirect.Rewrites h.1 → ∀ i x, sent[i]? = some x →
          x.url.readableHost? ≠ first.url.readableHost? → x.Carries h →
            ((sameName "Content-Length" h.1 = true ∨ sameName "Transfer-Encoding" h.1 = true) ∧
              first.Carries h) ∨
            (sameName "Cookie" h.1 = true ∧ ∃ s', Hops w i s first s' x ∧
              s'.jar.header? w.now x.url = some h.2) ∨
            (sameName "Host" h.1 = true ∧ ∃ y ∈ sent, h.2 = y.url.netloc)) := by
  intro sent
  have hauthorized : r.auth.scheme ≠ .apiKey ∨ sameName "Authorization" h.1 = true →
      sameName "Authorization" h.1 = true := by
    rintro (hscheme | hsame)
    · rw [Auth.name_of_headers hauth hscheme]
      decide
    · exact hsame
  refine ⟨fun hname => staysWithHost_of_authorization clock (hauthorized hname), ?_⟩
  intro first hfirst
  refine ⟨carries_first_iff hurl huser hauth hown hfirst, ?_, ?_⟩
  · intro hcredentials hplain
    exact ⟨fun x hx => carries_iff_of_plain hcredentials hplain hfirst hx,
      staysWithHost_iff_of_plain hcredentials hplain hfirst⟩
  · intro hrewrites i x hx hhost hcarries
    exact carries_cases_of_rewrites hrewrites hfirst hx hhost hcarries

end Execute

/-- A server that sends the first request to another host, and answers everything else. -/
def leadingServer : Surroundings :=
  ⟨[.reply ⟨302, [(Text.Utf8.encode "Location", Text.Utf8.encode "http://b.test/")], [], none⟩,
    .reply (.plain 200 [])], "", 0⟩

/-- A request with nothing but authentication settings. -/
def settingsRequest (auth : Auth) : Request := ⟨"GET", "http://a.test/", [], [], Body.absent, auth⟩

/-- A key under a name of its own. -/
def keyAuth : Auth := ⟨.apiKey, none, none, none, some "k", some "X-API-Key"⟩

/-- The target of such a request has no user information. -/
theorem exists_build_settingsRequest (auth : Auth) :
    ∃ url, Target.build (settingsRequest auth).url (settingsRequest auth).params = .ok url ∧
      url.userinfo = "" := by
  have hbuilt : (Target.build "http://a.test/" []).toOption.any
      (fun url => decide (url.userinfo = "")) = true := by
    decide +kernel
  obtain ⟨url, hurl, huser⟩ := exists_eq_ok_of_any hbuilt
  exact ⟨url, hurl, of_decide_eq_true huser⟩

namespace Session

/-- The hosts of the requests that are sent with some settings, and the fields of a name. -/
def sentTo (auth : Auth) (name : String) : List (Option String × Headers) :=
  ((start .standard).execute leadingServer [] (settingsRequest auth)).sent.map fun x =>
    (x.url.readableHost?, x.headers.fields name)

/-- `execute_credentials` at a token: it is left behind when another host comes. -/
theorem execute_credentials_token :
    ∃ first x, ((start .standard).execute leadingServer [] (settingsRequest tokenAuth)).sent =
        [first, x] ∧
      first.Carries ("Authorization", "Bearer t") ∧ ¬x.Carries ("Authorization", "Bearer t") := by
  have hhosts : (sentTo tokenAuth "Authorization").map Prod.fst =
      [some "a.test", some "b.test"] := by
    decide +kernel
  obtain ⟨url, hurl, huser⟩ := exists_build_settingsRequest tokenAuth
  have hown : ¬HasNamed (activePairs (settingsRequest tokenAuth).headers) "Authorization" := by
    rintro ⟨p, hp, -⟩
    cases hp
  obtain ⟨hstays, hfirsts⟩ := execute_credentials (w := leadingServer) (s := start .standard)
    (h := ("Authorization", "Bearer t")) [] hurl huser (by decide +kernel) hown
  rw [sentTo, List.map_map] at hhosts
  obtain ⟨first, later, hsent, hfirst, hrest⟩ := List.map_eq_cons_iff.1 hhosts
  obtain ⟨x, none, hlater, hx, hnone⟩ := List.map_eq_cons_iff.1 hrest
  rw [List.map_eq_nil_iff] at hnone
  rw [hlater, hnone] at hsent
  have hhead : ((start .standard).execute leadingServer []
      (settingsRequest tokenAuth)).sent.head? = some first := by
    rw [hsent]
    rfl
  refine ⟨first, x, hsent, ?_, ?_⟩
  · -- there is no default content type without a body
    exact (hfirsts first hhead).1.2 fun hname => absurd hname (by decide)
  · intro hcarries
    have hsame := hstays (.inl (by decide)) first hhead x (by rw [hsent]; simp) hcarries
    rw [show x.url.readableHost? = some "b.test" from hx,
      show first.url.readableHost? = some "a.test" from hfirst] at hsame
    exact absurd hsame (by decide)

/-- A key under a name of its own goes to another host. -/
theorem execute_credentials_astray :
    keyAuth.headers = .ok [CodeText.ofPair ("X-API-Key", "k")] ∧
      ¬HasNamed (activePairs (settingsRequest keyAuth).headers) "X-API-Key" ∧
      (∃ url, Target.build (settingsRequest keyAuth).url (settingsRequest keyAuth).params =
        .ok url ∧ url.userinfo = "") ∧
      ¬StaysWithHost ((start .standard).execute leadingServer [] (settingsRequest keyAuth)).sent
        ("X-API-Key", "k") := by
  have hsent : sentTo keyAuth "X-API-Key" =
      [(some "a.test", [("X-API-Key", "k")]), (some "b.test", [("X-API-Key", "k")])] := by
    decide +kernel
  obtain ⟨first, later, hall, hfirst, hrest⟩ := List.map_eq_cons_iff.1 hsent
  obtain ⟨x, none, hlater, hx, -⟩ := List.map_eq_cons_iff.1 hrest
  obtain ⟨hhome, -⟩ := Prod.ext_iff.1 hfirst
  obtain ⟨haway, hfields⟩ := Prod.ext_iff.1 hx
  refine ⟨by decide +kernel, ?_, exists_build_settingsRequest keyAuth, ?_⟩
  · rintro ⟨p, hp, -⟩
    cases hp
  intro hstays
  have hcarries : x.Carries ("X-API-Key", "k") := by
    refine ⟨("X-API-Key", "k"), ?_, rfl⟩
    rw [show x.headers.fields "X-API-Key" = [("X-API-Key", "k")] from hfields]
    exact List.mem_singleton.2 rfl
  have hsame := hstays first (by rw [hall]; rfl) x (by rw [hall, hlater]; simp) hcarries
  rw [show x.url.readableHost? = some "b.test" from haway,
    show first.url.readableHost? = some "a.test" from hhome] at hsame
  exact absurd hsame (by decide)

end Session

end Courier
