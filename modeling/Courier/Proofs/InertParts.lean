import Courier.Exchange.Execute
import Courier.Proofs.Template
import Courier.Variables

/-!
# Inert parts of a request

Two requests that agree on what is in use of them are executed alike, before and after variables are
resolved (`execute_of_actsLike`). In use are the active entries, what the scheme of the
authentication settings reads and what the kind of the body reads; identifiers, entries that are
switched off or have no name, and the fields of other schemes and kinds are inert.

Every part of a request on the wire is made of what is in use: `namesContentType_eq` is the one case
where the code looks at the entries by another test. Resolving variables also rewrites inert entries
and may take the name of an active one, but what becomes of the active ones is decided by them alone
(`activePairs_substitute`).
-/

namespace Courier

/-! ## What is in use -/

/-- Whether two settings agree on their scheme and on what it reads. -/
structure Auth.ActsLike (a b : Auth) : Prop where
  scheme : b.scheme = a.scheme
  username : a.scheme = .basic → b.username = a.username
  password : a.scheme = .basic → b.password = a.password
  token : a.scheme = .bearer → b.token = a.token
  apiKey : a.scheme = .apiKey → b.apiKey = a.apiKey
  apiKeyHeader : a.scheme = .apiKey → b.apiKeyHeader = a.apiKeyHeader

/-- Whether two bodies agree on their kind and on what it reads. -/
structure Body.ActsLike (b c : Body) : Prop where
  kind : c.kind = b.kind
  content : b.kind = .text ∨ b.kind = .json → c.content = b.content
  /-- Form data is there in both or in neither, with the same active fields. -/
  formData : b.kind = .formData → c.formData.map activePairs = b.formData.map activePairs

/-- Whether two requests agree on what is in use. -/
structure Request.ActsLike (r t : Request) : Prop where
  method : t.method = r.method
  url : t.url = r.url
  headers : activePairs t.headers = activePairs r.headers
  params : activePairs t.params = activePairs r.params
  body : r.body.ActsLike t.body
  auth : r.auth.ActsLike t.auth

/-- An active entry is enabled. -/
theorem Entry.enabled_of_isActive {e : Entry} (h : e.isActive = true) : e.enabled = true := by
  unfold isActive at h
  rw [Bool.and_eq_true] at h
  exact h.1

/-- An entry that is not active is switched off or has no name. -/
theorem Entry.cases_of_inert {e : Entry} (h : ¬ e.isActive = true) :
    e.enabled = false ∨ e.key = [] := by
  unfold isActive at h
  by_cases henabled : e.enabled = true
  · rw [henabled, Bool.true_and, Bool.not_eq_true, Bool.not_eq_false', List.isEmpty_iff] at h
    exact .inr h
  · exact .inl (Bool.eq_false_iff.2 henabled)

/-! ## What is sent is made of it -/

/-- Settings contribute the same headers. -/
theorem Auth.ActsLike.headers {a b : Auth} (h : a.ActsLike b) : b.headers = a.headers := by
  unfold Auth.headers
  rw [h.scheme]
  cases hscheme : a.scheme with
  | none => rfl
  | basic => simp only [h.username hscheme, h.password hscheme]
  | bearer => simp only [h.token hscheme]
  | apiKey => simp only [h.apiKey hscheme, h.apiKeyHeader hscheme]

/-- A content type is named by enabled headers, which may as well be the active ones: a header
without a name names no content type. -/
theorem Payload.namesContentType_eq (headers : List Entry) :
    namesContentType headers =
      (activePairs headers).any fun p =>
        p.1.toString?.any (Text.lower · == "content-type") := by
  have hnameless : (CodeText.toString? []).any (Text.lower · == "content-type") = false := rfl
  induction headers with
  | nil => rfl
  | cons e rest ih =>
    unfold namesContentType at ih ⊢
    rw [List.any_cons, ih]
    unfold activePairs
    by_cases hactive : e.isActive = true
    · rw [List.filter_cons_of_pos hactive, List.map_cons, List.any_cons,
        Entry.enabled_of_isActive hactive, Bool.true_and]
    · have hinert :
          (e.enabled && e.key.toString?.any (Text.lower · == "content-type")) = false := by
        obtain hoff | hkey := Entry.cases_of_inert hactive
        · rw [hoff, Bool.false_and]
        · rw [hkey, hnameless, Bool.and_false]
      rw [List.filter_cons_of_neg hactive, hinert, Bool.false_or]

/-- A body is sent as the same payload. -/
theorem Body.ActsLike.ofBody {b c : Body} (h : b.ActsLike c) {headers others : List Entry}
    (hheaders : activePairs others = activePairs headers) (boundary : String) :
    Payload.ofBody boundary c others = Payload.ofBody boundary b headers := by
  have hdefault : Payload.defaultType others = Payload.defaultType headers := by
    funext type
    unfold Payload.defaultType
    rw [Payload.namesContentType_eq, Payload.namesContentType_eq, hheaders]
  unfold Payload.ofBody
  rw [h.kind, hdefault]
  cases hkind : b.kind with
  | none => rfl
  | file => rfl
  | text => simp only [h.content (.inl hkind)]
  | json => simp only [h.content (.inr hkind)]
  | formData =>
    have hfields := h.formData hkind
    cases hb : b.formData with
    | none =>
      rw [hb, Option.map_none, Option.map_eq_none_iff] at hfields
      rw [hfields]
    | some entries =>
      rw [hb] at hfields
      obtain ⟨fields, hc, hpairs⟩ := Option.map_eq_some_iff.1 hfields
      rw [hc]
      simp only [hpairs]

/-- A target is built from the active parameters. -/
theorem Target.build_congr (url : CodeText) {params others : List Entry}
    (h : activePairs others = activePairs params) : build url others = build url params := by
  unfold build addParams
  rw [h]

/-- Headers are built from those of the settings and the active entries. -/
theorem buildHeaders_congr {a b : Auth} (hauth : b.headers = a.headers)
    {headers others : List Entry} (h : activePairs others = activePairs headers)
    (payload : Payload) : buildHeaders b others payload = buildHeaders a headers payload := by
  unfold buildHeaders givenWrites
  rw [hauth, h]

/-- Requests that act alike are the same on the wire, or fail alike. -/
theorem Request.ActsLike.toWire {r t : Request} (h : r.ActsLike t) (w : Surroundings)
    (s : Session) : t.toWire w s = r.toWire w s := by
  have hprepare : t.prepare w.boundary = r.prepare w.boundary := by
    unfold prepare
    rw [h.method, h.url, Target.build_congr _ h.params, h.body.ofBody h.headers]
  have hheaders : ∀ p : Payload,
      buildHeaders t.auth t.headers p = buildHeaders r.auth r.headers p :=
    fun p => buildHeaders_congr h.auth.headers h.headers p
  unfold Request.toWire
  simp only [hprepare, hheaders]

/-- Requests that act alike are executed alike. -/
theorem Request.ActsLike.execute {r t : Request} (h : r.ActsLike t) (w : Surroundings)
    (clock : Clock) (s : Session) : s.execute w clock t = s.execute w clock r := by
  unfold Session.execute
  rw [h.toWire]

/-! ## Resolving variables -/

/-- An empty text stays empty. -/
theorem substitute_empty (scope : Scope) : substitute scope [] = [] := by
  unfold substitute
  rw [Text.segments_nil]
  rfl

/-- The active entries after variables are resolved in names and values: the active ones before,
resolved, but for those whose name becomes empty. -/
theorem activePairs_substitute (scope : Scope) (entries : List Entry) :
    activePairs (entries.map (Request.substituteEntry scope)) =
      ((activePairs entries).map fun p => (substitute scope p.1, substitute scope p.2)).filter
        fun p => !p.1.isEmpty := by
  unfold activePairs
  induction entries with
  | nil => rfl
  | cons e rest ih =>
    rw [List.map_cons, List.filter_cons, List.filter_cons]
    -- An inert entry stays inert, so only active ones are told apart by their new name.
    by_cases hactive : e.isActive = true
    · have hresolved : (Request.substituteEntry scope e).isActive =
          !(substitute scope e.key).isEmpty := by
        unfold Request.substituteEntry Entry.isActive
        rw [Entry.enabled_of_isActive hactive, Bool.true_and]
      rw [if_pos hactive, List.map_cons, List.map_cons, List.filter_cons, hresolved]
      split
      · rw [List.map_cons, ih]
        rfl
      · exact ih
    · have hresolved : (Request.substituteEntry scope e).isActive = false := by
        unfold Request.substituteEntry Entry.isActive
        obtain hoff | hkey := Entry.cases_of_inert hactive
        · rw [hoff, Bool.false_and]
        · rw [hkey, substitute_empty, List.isEmpty_nil, Bool.not_true, Bool.and_false]
      rw [if_neg hactive, hresolved, if_neg Bool.false_ne_true, ih]

/-- The active form fields after variables are resolved: the active ones before, with their values
resolved. -/
theorem activePairs_substituteField (scope : Scope) (entries : List Entry) :
    activePairs (entries.map (Request.substituteField scope)) =
      (activePairs entries).map fun p => (p.1, substitute scope p.2) := by
  have hactive : Entry.isActive ∘ Request.substituteField scope = Entry.isActive := rfl
  unfold activePairs
  rw [List.filter_map, hactive, List.map_map, List.map_map]
  rfl

/-- Requests that act alike do so after variables are resolved. -/
theorem Request.ActsLike.substitute {r t : Request} (h : r.ActsLike t) (scope : Scope) :
    (r.substitute scope).ActsLike (t.substitute scope) where
  method := h.method
  url := congrArg (Courier.substitute scope) h.url
  headers := by
    show activePairs (t.headers.map _) = activePairs (r.headers.map _)
    rw [activePairs_substitute, activePairs_substitute, h.headers]
  params := by
    show activePairs (t.params.map _) = activePairs (r.params.map _)
    rw [activePairs_substitute, activePairs_substitute, h.params]
  body := {
    kind := h.body.kind
    content := fun hkind => congrArg (Option.map (Courier.substitute scope)) (h.body.content hkind)
    formData := by
      intro hkind
      have hfields := h.body.formData hkind
      have hresolve : ∀ fields : Option (List Entry),
          (fields.map fun es => es.map (substituteField scope)).map activePairs =
            (fields.map activePairs).map
              (List.map fun p => (p.1, Courier.substitute scope p.2)) := by
        intro fields
        cases fields with
        | none => rfl
        | some es => exact congrArg some (activePairs_substituteField scope es)
      show (t.body.formData.map _).map activePairs = (r.body.formData.map _).map activePairs
      rw [hresolve, hresolve, hfields] }
  auth := h.auth

/-- Inert parts of a request have no influence. Two requests that agree on method and URL, on the
active headers and parameters, on what the scheme of their authentication reads and on what the kind
of their body reads are executed alike by every client: they hand over the same requests, end with
the same response or error and leave the same client. This is so as they are, and with variables
resolved in any scope. -/
theorem execute_of_actsLike {r t : Request} (h : r.ActsLike t) (scope : Scope) (w : Surroundings)
    (clock : Clock) (s : Session) :
    s.execute w clock t = s.execute w clock r ∧
      s.execute w clock (t.substitute scope) = s.execute w clock (r.substitute scope) :=
  ⟨h.execute w clock s, (h.substitute scope).execute w clock s⟩

/-- A request without inert parts, a header of which is named by a variable. -/
def bareRequest : Request :=
  ⟨"POST", "http://h.test/", [⟨"", "X-\x7b\x7bname\x7d\x7d", "1", true⟩], [],
    ⟨.json, some "[]", none⟩, ⟨.bearer, none, none, some "secret", none, none⟩⟩

/-- The same request with a content type that is switched off, a header without a name, a parameter
that is switched off, form fields beside its JSON text, and what other schemes need. -/
def clutteredRequest : Request :=
  ⟨"POST", "http://h.test/",
    [⟨"a", "Content-Type", "text/plain", false⟩, ⟨"b", "X-\x7b\x7bname\x7d\x7d", "1", true⟩,
      ⟨"c", "", "nameless", true⟩], [⟨"d", "q", "1", false⟩],
    ⟨.json, some "[]", some [⟨"e", "field", "value", true⟩]⟩,
    ⟨.bearer, some "user", some "password", some "secret", some "key", some "X-Key"⟩⟩

/-- `execute_of_actsLike` at requests with and without inert parts. -/
theorem execute_of_actsLike_cluttered :
    bareRequest ≠ clutteredRequest ∧ bareRequest.ActsLike clutteredRequest ∧
      (Session.start Transport.standard).execute ⟨[], "boundary", 0⟩ []
          (clutteredRequest.substitute ⟨none, [⟨"", "name", "Tag", true⟩]⟩) =
        (Session.start Transport.standard).execute ⟨[], "boundary", 0⟩ []
          (bareRequest.substitute ⟨none, [⟨"", "name", "Tag", true⟩]⟩) := by
  have halike : bareRequest.ActsLike clutteredRequest := {
    method := rfl
    url := rfl
    headers := by decide
    params := by decide
    body := ⟨rfl, fun _ => rfl, nofun⟩
    auth := ⟨rfl, nofun, nofun, fun _ => rfl, nofun, nofun⟩ }
  exact ⟨by decide, halike, (execute_of_actsLike halike _ _ _ _).2⟩

end Courier
