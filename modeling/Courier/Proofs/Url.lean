import Courier.Proofs.Basic
import Courier.Proofs.Percent
import Courier.Proofs.TextCodes
import Courier.Url.Target

/-!
# What reading a URL gives

Every URL that is read comes out of `Url.ofParts`, and `ofParts_eq_ok` says what it is then. The
lemmas here take the two ways to a URL apart, reading a text and putting another query into a URL,
as far as the query goes: it has only characters that a query keeps (`querySafe_of_ofParts`), and
another query of such characters is kept byte for byte (`query_of_withQuery`).
-/

namespace Courier

namespace Url

open Text

/-- The marks that a query keeps include the percent sign. -/
theorem isQuerySafe_percent : isQuerySafe '%' = true := by decide

/-- Whether a text has only characters that a query keeps. -/
def QuerySafe (cs : List Char) : Prop :=
  ∀ c ∈ cs, (isUnreserved c || isQuerySafe c) = true

/-- A URL that comes out of parts: its host and port are read, and the other parts are brought into
their normal form one by one. -/
theorem ofParts_eq_ok {p : Parts} {u : Url} (h : ofParts p = .ok u) :
    ∃ path, encodeHost p.host = .ok u.host ∧ readPort p.port p.scheme = .ok u.port ∧
      u.scheme = lowerAscii p.scheme ∧ u.userinfo = quotePart isUserinfoSafe p.userinfo ∧
      u.path = String.ofList (percentQuote isPathSafe path) ∧
      u.query = p.query.map (quotePart isQuerySafe) ∧
      u.fragment = p.fragment.map (quotePart isFragmentSafe) := by
  unfold ofParts at h
  obtain ⟨host, hhost, h⟩ := bind_eq_ok_iff.1 h
  obtain ⟨port, hport, h⟩ := bind_eq_ok_iff.1 h
  obtain ⟨-, -, h⟩ := bind_eq_ok_iff.1 h
  cases h
  exact ⟨_, hhost, hport, rfl, rfl, rfl, rfl, rfl⟩

/-- A URL that is read comes out of the parts of the text. -/
theorem ofParts_of_parse {s : String} {u : Url} (h : parse s = .ok u) :
    ofParts (split s.toList) = .ok u := by
  unfold parse at h
  split at h
  · cases h
  · split at h
    · cases h
    · exact h

/-- A query that comes out of parts has only characters that a query keeps. -/
theorem querySafe_of_ofParts {p : Parts} {u : Url} (h : ofParts p = .ok u) :
    QuerySafe (u.query.getD "").toList := by
  obtain ⟨-, -, -, -, -, -, hquery, -⟩ := ofParts_eq_ok h
  rw [hquery]
  cases p.query with
  | none => simp [QuerySafe]
  | some q =>
    intro c hc
    simp only [Option.map_some, Option.getD_some, quotePart, String.toList_ofList] at hc
    exact safe_of_mem_percentQuote isQuerySafe_percent hc

/-- Another query of characters that a query keeps is kept byte for byte. -/
theorem query_of_withQuery {u v : Url} {q : String} (h : u.withQuery q = .ok v)
    (hq : QuerySafe q.toList) : v.query = some q := by
  unfold withQuery at h
  obtain ⟨-, -, h⟩ := bind_eq_ok_iff.1 h
  obtain ⟨-, -, -, -, -, -, hquery, -⟩ := ofParts_eq_ok h
  rw [hquery]
  simp only [toParts, Option.map_some, quotePart, Option.some.injEq]
  rw [percentQuote_of_safe isQuerySafe_percent hq, String.ofList_toList]

/-! ## Texts of code points -/

/-- A text of characters is read as it is. -/
theorem read_ofString (s : String) : read (.ofString s) = (parse s).mapError .invalid := by
  rw [read, CodeText.toString?_ofString]

/-- A text of characters stands for itself. -/
theorem standing_ofString (first : Nat) (s : String) : standing first (.ofString s) = s := by
  simp [standing, CodeText.ofString, Function.comp_def]

/-- The URL that is read of a text with surrogates is that of the characters in their place. -/
theorem parse_of_readBroken {t : CodeText} {u : Url} (h : readBroken t = .ok u) :
    parse (standing standIn t) = .ok u := by
  unfold readBroken at h
  obtain ⟨-, -, h⟩ := bind_eq_ok_iff.1 h
  split at h
  · cases h
  · cases h
  · rename_i seen other hseen
    obtain ⟨-, -, h⟩ := bind_eq_ok_iff.1 h
    obtain ⟨-, -, h⟩ := bind_eq_ok_iff.1 h
    obtain ⟨-, -, h⟩ := bind_eq_ok_iff.1 h
    cases h
    exact hseen

/-- So is that of any text. -/
theorem parse_of_read {t : CodeText} {u : Url} (h : read t = .ok u) :
    parse (standing standIn t) = .ok u := by
  unfold read at h
  split at h
  · rename_i s hs
    rw [CodeText.toString?_eq_some_iff.1 hs, standing_ofString]
    exact mapError_eq_ok_iff.1 h
  · exact parse_of_readBroken h

end Url

namespace Target

/-- A URL that is read as a target has a scheme and a host that decodes. -/
theorem of_parse {t : CodeText} {u : Url} (h : Target.parse t = .ok u) :
    Url.read t = .ok u ∧ u.scheme ≠ "" ∧ ∃ host, u.readableHost? = some host ∧ host ≠ "" := by
  unfold parse at h
  split at h
  · cases h
  · cases h
  · rename_i u' hread
    split at h
    · cases h
    · rename_i hscheme
      rw [String.isEmpty_iff] at hscheme
      split at h
      · cases h
      · rename_i host hhost
        split at h
        · cases h
        · rename_i hne
          rw [String.isEmpty_iff] at hne
          cases h
          exact ⟨hread, hscheme, host, hhost, hne⟩

/-- It is the URL of a text of characters. -/
theorem parse_of_parse {t : CodeText} {u : Url} (h : Target.parse t = .ok u) :
    Url.parse (Url.standing Url.standIn t) = .ok u :=
  Url.parse_of_read (of_parse h).1

end Target

end Courier
