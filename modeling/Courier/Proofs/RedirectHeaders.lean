import Courier.Proofs.Basic
import Courier.Proofs.SentRequests

/-!
# The headers along redirects

What a run of redirects makes of the fields of one name. `Authorization` stays only as long as the
host does (`Hops.host_eq_of_authorization`). Some names belong to the client, which writes them
anew: `Host` (`Hops.fields_host`) and `Cookie` (`Hops.fields_cookie`) for the place that comes next,
and the two headers about the length of a body, which go with it (`Hops.fields_of_aboutBody`). Every
other name keeps its fields, wherever the redirects lead (`Hops.fields_of_plain`).

Each is an induction along the run on what a single redirect does to the name, which in turn is read
off the steps that a redirect consists of (`Redirect.next_eq_ok_iff`).
-/

namespace Courier

open Headers

/-! ## Steps -/

section Steps

variable {now : Int} {jar : CookieJar} {url : Url} {headers completed : Headers} {name : String}

/-- Where there are no cookies, those that fit are added. -/
theorem fields_addCookies_of_absent (habsent : headers.has "Cookie" = false)
    (hcookies : addCookies now jar url headers = .ok completed) :
    completed.fields "Cookie" =
      (jar.header? now url).toList.map fun value => ("Cookie", value) := by
  have hnone : headers.fields "Cookie" = [] := fields_eq_nil_iff.2 habsent
  unfold addCookies at hcookies
  rw [habsent] at hcookies
  cases hvalue : jar.header? now url with
  | none =>
    rw [hvalue] at hcookies
    cases hcookies
    exact hnone
  | some value =>
    rw [hvalue] at hcookies
    simp only [Bool.false_eq_true, if_false] at hcookies
    split at hcookies
    · cases hcookies
    · cases hcookies
      rw [fields_set, if_pos (sameName_self _)]
      rfl

/-- A `GET` without a body is completed by its host alone, if that is missing. -/
theorem completeHeaders_get (url : Url) (headers : Headers) :
    completeHeaders "GET" url headers .empty =
      (if headers.has "Host" then [] else [("Host", url.netloc)]) ++ headers := by
  have hget : expectsBody "GET" = false := by decide
  unfold completeHeaders leadingHeaders WireBody.empty
  simp only [List.foldl_nil, hget, Bool.not_false, Bool.or_true, if_true, List.append_nil]
  rfl

/-- A `GET` without a body has the host that is given, or that of its URL. -/
theorem fields_host_completeHeaders_get (url : Url) (headers : Headers) :
    (completeHeaders "GET" url headers .empty).fields "Host" =
      if headers.has "Host" then headers.fields "Host" else [("Host", url.netloc)] := by
  rw [completeHeaders_get, fields_append]
  split
  · rfl
  · rename_i habsent
    rw [Bool.not_eq_true] at habsent
    rw [fields_eq_nil_iff.2 habsent, List.append_nil, fields_cons, if_pos (sameName_self _)]
    rfl

/-- A `GET` without a body has of other names what is given. -/
theorem fields_completeHeaders_get_of_ne (h : ¬sameName "Host" name = true) (url : Url)
    (headers : Headers) :
    (completeHeaders "GET" url headers .empty).fields name = headers.fields name := by
  have hfront : fields (if headers.has "Host" then [] else [("Host", url.netloc)]) name = [] := by
    split
    · rfl
    · rw [fields_cons, if_neg h]
      rfl
  rw [completeHeaders_get, fields_append, hfront, List.nil_append]

/-- The headers of a body are about nothing else. -/
theorem fields_bodyHeaders {status : Int} {method : String}
    (hlength : ¬sameName "Content-Length" name = true)
    (hcoding : ¬sameName "Transfer-Encoding" name = true) :
    (Redirect.bodyHeaders status method headers).fields name = headers.fields name := by
  unfold Redirect.bodyHeaders
  split
  · rw [fields_erase_of_ne hcoding, fields_erase_of_ne hlength]
  · rfl

end Steps

namespace Redirect

variable {old new : Url} {headers kept : Headers}

/-- URLs with one origin have one host. -/
theorem readableHost?_of_sameOrigin {a b : Url} (h : sameOrigin a b = .ok true) :
    a.readableHost? = b.readableHost? := by
  unfold sameOrigin at h
  split at h
  · cases h
  · obtain ⟨ga, ha, h⟩ := bind_eq_ok_iff.1 h
    obtain ⟨gb, hb, h⟩ := bind_eq_ok_iff.1 h
    have hsame := Except.ok.inj h
    rw [Bool.and_eq_true, beq_iff_eq] at hsame
    rw [host_eq_ok_iff.1 ha, host_eq_ok_iff.1 hb, hsame.1]

/-- The secure form of a URL has its host. -/
theorem readableHost?_of_isUpgrade (h : isUpgrade old new = .ok true) :
    new.readableHost? = old.readableHost? := by
  unfold isUpgrade at h
  obtain ⟨gold, hold, h⟩ := bind_eq_ok_iff.1 h
  obtain ⟨gnew, hnew, h⟩ := bind_eq_ok_iff.1 h
  have hsame := Except.ok.inj h
  simp only [Bool.and_eq_true, beq_iff_eq] at hsame
  rw [host_eq_ok_iff.1 hold, host_eq_ok_iff.1 hnew, hsame.1.1.1.1]

/-- Headers are kept as they are for the same origin, and but for the host for its secure form.
Otherwise the credentials are left out. -/
theorem originHeaders_cases (h : originHeaders old new headers = .ok kept) :
    (new.readableHost? = old.readableHost? ∧
        (kept = headers ∨ kept = headers.set "Host" new.netloc)) ∨
      kept = (headers.erase "Authorization").set "Host" new.netloc := by
  rcases originHeaders_eq_ok_iff.1 h with ⟨hsame, rfl⟩ | ⟨-, -, upgrade, hupgrade, rfl⟩
  · exact .inl ⟨readableHost?_of_sameOrigin hsame, .inl rfl⟩
  · cases upgrade with
    | true => exact .inl ⟨readableHost?_of_isUpgrade hupgrade, .inr rfl⟩
    | false => exact .inr rfl

section Next

variable {now : Int} {jar : CookieJar} {r r' : WireRequest} {status : Int} {location : String}
  {name : String}

/-- The fields of a name that the client does not write are those for the origin, without the ones
of a body that is dropped. -/
theorem exists_fields_next (h : next now jar r status location = .ok r')
    (hhost : ¬sameName "Host" name = true) (hcookie : ¬sameName "Cookie" name = true) :
    ∃ kept, originHeaders r.url r'.url r.headers = .ok kept ∧
      r'.headers.fields name = (bodyHeaders status r.method kept).fields name := by
  obtain ⟨place, kept, completed, -, horigin, hcookies, rfl⟩ := next_eq_ok_iff.1 h
  have hcompleted : completed.fields name = (bodyHeaders status r.method kept).fields name := by
    rw [fields_addCookies_of_ne hcookie hcookies, fields_erase_of_ne hcookie]
  split
  · refine ⟨kept, horigin, ?_⟩
    show (completeHeaders "GET" place completed .empty).fields name = _
    rw [fields_completeHeaders_get_of_ne hhost, hcompleted]
  · exact ⟨kept, horigin, hcompleted⟩

/-- Credentials that are there were there before, and the host is the same. -/
theorem host_eq_of_authorization (h : next now jar r status location = .ok r')
    (hhas : r'.headers.has "Authorization" = true) :
    r.headers.has "Authorization" = true ∧ r'.url.readableHost? = r.url.readableHost? := by
  have hhost : ¬sameName "Host" "Authorization" = true := by decide
  have hcookie : ¬sameName "Cookie" "Authorization" = true := by decide
  obtain ⟨kept, horigin, hfields⟩ := exists_fields_next h hhost hcookie
  rw [fields_bodyHeaders (by decide) (by decide)] at hfields
  have hkept : kept.has "Authorization" = true := by
    rw [← has_of_fields_eq hfields]
    exact hhas
  rcases originHeaders_cases horigin with ⟨hhost, rfl | rfl⟩ | rfl
  · exact ⟨hkept, hhost⟩
  · have hset : (r.headers.set "Host" r'.url.netloc).fields "Authorization" =
        r.headers.fields "Authorization" := by
      rw [fields_set, if_neg (by decide)]
    exact ⟨(has_of_fields_eq hset).symm.trans hkept, hhost⟩
  · -- without the host and its secure form the credentials are gone
    have hnone : ((r.headers.erase "Authorization").set "Host" r'.url.netloc).fields
        "Authorization" = [] := by
      rw [fields_set, if_neg (by decide), fields_erase_of_same (by decide)]
    rw [fields_eq_nil_iff.1 hnone] at hkept
    cases hkept

/-- The fields of a name that is neither that of the credentials nor the host's do not depend on the
origin. -/
theorem fields_of_originHeaders {old new : Url} {headers kept : Headers}
    (horigin : originHeaders old new headers = .ok kept)
    (hhost : ¬sameName "Host" name = true)
    (hcredentials : ¬sameName "Authorization" name = true) :
    kept.fields name = headers.fields name := by
  rcases originHeaders_cases horigin with ⟨-, rfl | rfl⟩ | rfl
  · rfl
  · rw [fields_set, if_neg hhost]
  · rw [fields_set, if_neg hhost, fields_erase_of_ne hcredentials]

/-- The fields of the host stay, or they are that of the place; if it is another host, they are. -/
theorem fields_host_next (h : next now jar r status location = .ok r') :
    r'.headers.fields "Host" = [("Host", r'.url.netloc)] ∨
      r'.headers.fields "Host" = r.headers.fields "Host" ∧
        r'.url.readableHost? = r.url.readableHost? := by
  obtain ⟨place, kept, completed, -, horigin, hcookies, rfl⟩ := next_eq_ok_iff.1 h
  have hcompleted : completed.fields "Host" = kept.fields "Host" := by
    rw [fields_addCookies_of_ne (by decide) hcookies, fields_erase_of_ne (by decide),
      fields_bodyHeaders (by decide) (by decide)]
  -- a host is there after all but the first origin, and stays if it is there
  have hkept : kept.fields "Host" = [("Host", place.netloc)] ∨
      kept.fields "Host" = r.headers.fields "Host" ∧
        place.readableHost? = r.url.readableHost? := by
    rcases originHeaders_cases horigin with ⟨hhost, rfl | rfl⟩ | rfl
    · exact .inr ⟨rfl, hhost⟩
    · exact .inl (by rw [fields_set, if_pos (by decide)])
    · exact .inl (by rw [fields_set, if_pos (by decide)])
  rw [← hcompleted] at hkept
  split
  · show (completeHeaders "GET" place completed .empty).fields "Host" = _ ∨
      (completeHeaders "GET" place completed .empty).fields "Host" = _ ∧ _
    rw [fields_host_completeHeaders_get]
    split
    · exact hkept
    · exact .inl rfl
  · exact hkept

/-- The cookies are those that fit the place. -/
theorem fields_cookie_next (h : next now jar r status location = .ok r') :
    r'.headers.fields "Cookie" =
      (jar.header? now r'.url).toList.map fun value => ("Cookie", value) := by
  obtain ⟨place, kept, completed, -, -, hcookies, rfl⟩ := next_eq_ok_iff.1 h
  have habsent : ((bodyHeaders status r.method kept).erase "Cookie").has "Cookie" = false := by
    rw [← fields_eq_nil_iff]
    exact fields_erase_of_same (by decide) _
  have hcompleted := fields_addCookies_of_absent habsent hcookies
  split
  · show (completeHeaders "GET" place completed .empty).fields "Cookie" = _
    rw [fields_completeHeaders_get_of_ne (by decide), hcompleted]
  · exact hcompleted

/-- A `GET` stays one, with its body. -/
theorem get_next (h : next now jar r status location = .ok r') (hget : r.method = "GET") :
    r'.method = "GET" ∧ r'.body = r.body := by
  have hstays : turnsToGet status "GET" = false := by
    simp [turnsToGet, Redirect.method]
  have hupper : Text.upperAscii "GET" = "GET" := by decide
  obtain ⟨place, kept, completed, -, -, -, rfl⟩ := next_eq_ok_iff.1 h
  rw [hget, hstays]
  exact ⟨hupper, rfl⟩

/-- A header about the body stays with it: a request that loses the header is a `GET` without a
body. -/
theorem fields_next_of_aboutBody (h : next now jar r status location = .ok r')
    (hname : name = "Content-Length" ∨ name = "Transfer-Encoding") :
    r'.headers.fields name = r.headers.fields name ∨
      r'.headers.fields name = [] ∧ r'.method = "GET" ∧ r'.body = [] := by
  obtain ⟨hhost, hcookie, hcredentials⟩ : ¬sameName "Host" name = true ∧
      ¬sameName "Cookie" name = true ∧ ¬sameName "Authorization" name = true := by
    rcases hname with rfl | rfl
    · decide
    · decide
  obtain ⟨kept, horigin, hfields⟩ := exists_fields_next h hhost hcookie
  have hkept := fields_of_originHeaders horigin hhost hcredentials
  obtain ⟨place, _, completed, -, -, -, hr'⟩ := next_eq_ok_iff.1 h
  cases hturns : turnsToGet status r.method with
  | false =>
    have hsame : bodyHeaders status r.method kept = kept := by
      rw [bodyHeaders, hturns]
      rfl
    rw [hsame, hkept] at hfields
    exact .inl hfields
  | true =>
    have hnone : (bodyHeaders status r.method kept).fields name = [] := by
      rw [bodyHeaders, hturns, if_pos rfl]
      rcases hname with rfl | rfl
      · rw [fields_erase_of_ne (by decide), fields_erase_of_same (by decide)]
      · rw [fields_erase_of_same (by decide)]
    rw [hturns, if_pos rfl] at hr'
    refine .inr ⟨hfields.trans hnone, ?_, ?_⟩
    · rw [hr']
    · rw [hr']

end Next

/-- Whether redirects may write the fields of a name anew, or drop them with the body. -/
def Rewrites (name : String) : Prop :=
  ∃ n ∈ ["Host", "Cookie", "Content-Length", "Transfer-Encoding"], sameName n name = true

end Redirect

/-! ## Runs -/

namespace Session

variable {w : Surroundings} {s s' : Session} {r r' : WireRequest} {n : Nat} {name : String}

/-- Credentials that are there in the end have been there from the beginning, and the host has been
the same. -/
theorem Hops.host_eq_of_authorization (h : Hops w n s r s' r')
    (hhas : r'.headers.has "Authorization" = true) :
    r.headers.has "Authorization" = true ∧ r'.url.readableHost? = r.url.readableHost? := by
  induction h with
  | nil s r => exact ⟨hhas, rfl⟩
  | cons hhop _ ih =>
    obtain ⟨hbetween, hlater⟩ := ih hhas
    obtain ⟨-, -, hnext, -, -⟩ := hhop
    obtain ⟨hfirst, hhost⟩ := Redirect.host_eq_of_authorization hnext hbetween
    exact ⟨hfirst, hlater.trans hhost⟩

/-- A name that is neither that of the credentials nor one that redirects rewrite keeps its
fields. -/
theorem Hops.fields_of_plain (h : Hops w n s r s' r') (hplain : ¬Redirect.Rewrites name)
    (hcredentials : ¬sameName "Authorization" name = true) :
    r'.headers.fields name = r.headers.fields name := by
  have hother : ∀ other ∈ ["Host", "Cookie", "Content-Length", "Transfer-Encoding"],
      ¬sameName other name = true := fun other hmem hsame => hplain ⟨other, hmem, hsame⟩
  have hhost := hother "Host" (by simp)
  induction h with
  | nil s r => rfl
  | cons hhop _ ih =>
    obtain ⟨-, -, hnext, -, -⟩ := hhop
    obtain ⟨kept, horigin, hfields⟩ :=
      Redirect.exists_fields_next hnext hhost (hother "Cookie" (by simp))
    rw [ih, hfields, fields_bodyHeaders (hother "Content-Length" (by simp))
      (hother "Transfer-Encoding" (by simp)),
      Redirect.fields_of_originHeaders horigin hhost hcredentials]

/-- A `GET` stays one along a run, with its body. -/
theorem Hops.get (h : Hops w n s r s' r') (hget : r.method = "GET") :
    r'.method = "GET" ∧ r'.body = r.body := by
  induction h with
  | nil s r => exact ⟨hget, rfl⟩
  | cons hhop _ ih =>
    obtain ⟨-, -, hnext, -, -⟩ := hhop
    obtain ⟨hmethod, hbody⟩ := Redirect.get_next hnext hget
    obtain ⟨hmethods, hbodies⟩ := ih hmethod
    exact ⟨hmethods, hbodies.trans hbody⟩

/-- A header about the body is kept along a run, or the request has become a `GET` without a body
and has lost it. -/
theorem Hops.fields_of_aboutBody (h : Hops w n s r s' r')
    (hname : name = "Content-Length" ∨ name = "Transfer-Encoding") :
    r'.headers.fields name = r.headers.fields name ∨
      r'.headers.fields name = [] ∧ r'.method = "GET" ∧ r'.body = [] := by
  induction h with
  | nil s r => exact .inl rfl
  | cons hhop hhops ih =>
    obtain ⟨-, -, hnext, -, -⟩ := hhop
    rcases ih with hkept | hlost
    · rcases Redirect.fields_next_of_aboutBody hnext hname with hfirst | ⟨hfirst, hget, hnone⟩
      · exact .inl (hkept.trans hfirst)
      · -- what is lost at the first redirect stays so
        obtain ⟨hmethod, hbody⟩ := hhops.get hget
        exact .inr ⟨hkept.trans hfirst, hmethod, hbody.trans hnone⟩
    · exact .inr hlost

/-- Behind a redirect the cookies are those that the client has for the place. -/
theorem Hops.fields_cookie (h : Hops w (n + 1) s r s' r') :
    r'.headers.fields "Cookie" =
      (s'.jar.header? w.now r'.url).toList.map fun value => ("Cookie", value) := by
  induction n generalizing s r with
  | zero =>
    obtain _ | ⟨hhop, hnone⟩ := h
    cases hnone
    obtain ⟨-, -, hnext, -, -⟩ := hhop
    exact Redirect.fields_cookie_next hnext
  | succ n ih =>
    obtain _ | ⟨-, hlater⟩ := h
    exact ih hlater

/-- The host that is named is that of some place on the way, unless no redirect has led to another
one. -/
theorem Hops.fields_host (h : Hops w n s r s' r') :
    (∃ i ≤ n, ∃ s₁ r₁, Hops w i s r s₁ r₁ ∧
        r'.headers.fields "Host" = [("Host", r₁.url.netloc)]) ∨
      r'.headers.fields "Host" = r.headers.fields "Host" ∧
        r'.url.readableHost? = r.url.readableHost? := by
  induction h with
  | nil s r => exact .inr ⟨rfl, rfl⟩
  | @cons n s s₁ s' r r₁ r' hhop hhops ih =>
    rcases ih with ⟨i, hi, s₂, r₂, hway, hfields⟩ | ⟨hfields, hhosts⟩
    · exact .inl ⟨i + 1, by omega, s₂, r₂, .cons hhop hway, hfields⟩
    · have hnext := hhop
      obtain ⟨-, -, hnext, -, -⟩ := hnext
      rcases Redirect.fields_host_next hnext with hplace | ⟨hkept, hhost⟩
      · exact .inl ⟨1, by omega, _, _, .cons hhop (.nil _ _), hfields.trans hplace⟩
      · exact .inr ⟨hfields.trans hkept, hhosts.trans hhost⟩

end Session

end Courier
