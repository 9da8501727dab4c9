import Courier.Proofs.NormalUrl
import Courier.Proofs.QueryParameters

/-!
# What adding parameters changes

Parameters are added to a URL by putting it together again with another query. A URL that is read is
in its normal form (`isNormal_of_parse`), so that every other part stays as it is, apart from two
(`addParams_changes`). The digits of escapes in a host become small letters, since a host is put in
small letters before it is escaped. And a port that the scheme uses by itself is left out, which
reading has not done if the scheme was written in capitals.
-/

namespace Courier

open Text

namespace Url

/-- Characters that begin with a scheme and a colon are cut there. -/
theorem splitScheme_append {scheme rest : List Char} (hscheme : isScheme scheme = true)
    (hcolon : ':' ∉ scheme) : splitScheme (scheme ++ ':' :: rest) = (scheme, rest) := by
  have hfront : (scheme ++ ':' :: rest).takeWhile (· != ':') = scheme := by
    rw [List.takeWhile_append_of_pos, List.takeWhile_cons_of_neg (by simp), List.append_nil]
    intro c hc
    rw [bne_iff_ne]
    rintro rfl
    exact hcolon hc
  unfold splitScheme
  simp only [hfront, List.drop_left, hscheme, if_true]

/-- So is the text that stands for one with surrogates. -/
theorem scheme_split_of_written {t : CodeText} {scheme : String}
    (hscheme : isScheme scheme.toList = true) (h : CodeText.ofString (scheme ++ ":") <+: t) :
    (split (standing standIn t).toList).scheme = scheme := by
  obtain ⟨rest, rfl⟩ := h
  have hcolon : ':' ∉ scheme.toList := (isKept_of_isScheme hscheme).notMem (by decide)
  have hwritten : (standing standIn (.ofString (scheme ++ ":") ++ rest)).toList =
      scheme.toList ++ ':' :: (standing standIn rest).toList := by
    simp [standing, CodeText.ofString, Function.comp_def]
  have hcut : ∀ cs, (split cs).scheme = .ofList (splitScheme cs).1 := fun cs => rfl
  rw [hcut, hwritten, splitScheme_append hscheme hcolon, String.ofList_toList]

end Url

namespace Target

variable {t : CodeText} {u v : Url} {params : List Entry}

/-- A URL that is read as a target is in its normal form, and its host is not empty in its readable
form. -/
theorem isNormal_of_parse (h : parse t = .ok u) :
    u.IsNormal ∧ ∃ host, u.readableHost? = some host ∧ host ≠ "" := by
  obtain ⟨-, hscheme, host, hhost, hne⟩ := of_parse h
  refine ⟨Url.isNormal_of_parse (parse_of_parse h) hscheme fun hempty => ?_, host, hhost, hne⟩
  -- an empty host would be empty in its readable form
  have hplain : u.readableHost? = some "" := by
    unfold Url.readableHost?
    rw [hempty]
    rfl
  rw [hplain] at hhost
  exact hne (Option.some.inj hhost).symm

/-- What comes of adding active parameters to a URL that is read. -/
theorem addParams_of_parse (hu : parse t = .ok u) (hactive : activePairs params ≠ [])
    {appended : String} (happended : appendedText (activePairs params) = .ok appended) :
    let query := u.query.getD "" ++ u.querySeparator ++ appended
    addParams u params =
      match Url.longPart? { u with query := some query } with
      | some part => .error (.unfitQuery (.componentTooLong part))
      | none =>
        if u.looksLikeAddress = true then .error (.unfitQuery (.ipv4 u.bracketedHost))
        else .ok { u.rebuilt with query := some query } := by
  intro query
  obtain ⟨written, -, rfl⟩ := appendedText_eq_ok_iff.1 happended
  rw [addParams_eq_withQuery u hactive, happended]
  show (u.withQuery query).mapError TargetError.unfitQuery = _
  rw [Url.withQuery_of_isNormal (isNormal_of_parse hu).1 (querySafe_newQuery hu written)]
  cases Url.longPart? { u with query := some query } with
  | some part => rfl
  | none =>
    simp only
    split
    · rfl
    · rfl

/-- The text that is added for active parameters has no number sign, and one piece for each of
them. -/
theorem pieces_appendedText {pairs : List (CodeText × CodeText)} {text : String}
    (htext : appendedText pairs = .ok text) (h : pairs ≠ []) :
    '#' ∉ text.toList ∧ (splitAtAll (· == '&') text.toList).length = pairs.length := by
  obtain ⟨written, hgroups, rfl⟩ := appendedText_eq_ok_iff.1 htext
  have hperm := perm_groupByName pairs
  rw [hgroups] at hperm
  rw [String.toList_ofList]
  constructor
  · intro hmark
    exact absurd (querySafe_formEncode written '#' hmark) (by decide)
  · have hne : written ≠ [] := by
      rintro rfl
      exact h hperm.nil_eq.symm
    rw [splitAtAll_formEncode hne, List.length_map, ← hperm.length_eq, List.length_map]

/-- Active parameters that are added have a text. -/
theorem exists_appendedText_of_addParams (hv : addParams u params = .ok v)
    (hactive : activePairs params ≠ []) :
    ∃ appended, appendedText (activePairs params) = .ok appended := by
  rw [addParams_eq_withQuery u hactive] at hv
  obtain ⟨appended, happended, -⟩ := bind_eq_ok_iff.1 hv
  exact ⟨appended, mapError_eq_ok_iff.1 happended⟩

/-- What adding parameters changes in a URL that is read. Without active parameters it is the same
URL. Otherwise the existing query stays byte for byte, and behind it and a separator there is a text
without a number sign and with one piece for each active parameter. Scheme, user information, path
and fragment stay. The host stays exactly if it is an IPv6 address or its letters are small ones,
and else they are made small. The port stays exactly if it is not the one that the scheme uses by
itself, and so it does if the scheme was written in small letters; else it is left out. -/
theorem addParams_changes (hu : parse t = .ok u) (hv : addParams u params = .ok v) :
    (activePairs params = [] → v = u) ∧
      (activePairs params ≠ [] →
        (∃ tail : String,
          v.query = some (u.query.getD "" ++ u.querySeparator ++ tail) ∧ '#' ∉ tail.toList ∧
            (splitAtAll (· == '&') tail.toList).length = (activePairs params).length) ∧
        (v.scheme = u.scheme ∧ v.userinfo = u.userinfo ∧ v.path = u.path ∧
          v.fragment = u.fragment) ∧
        v.host = (if ':' ∈ u.host.toList then u.host else lowerAscii u.host) ∧
        (v.host = u.host ↔ ':' ∈ u.host.toList ∨ lowerAscii u.host = u.host) ∧
        v.port = (if Url.defaultPort? u.scheme = u.port then none else u.port) ∧
        (v.port = u.port ↔ u.port = none ∨ Url.defaultPort? u.scheme ≠ u.port) ∧
        (CodeText.ofString (u.scheme ++ ":") <+: t → v.port = u.port)) := by
  refine ⟨fun hnone => ?_, fun hactive => ?_⟩
  · rw [addParams_of_activePairs_eq_nil u hnone] at hv
    exact (Except.ok.inj hv).symm
  · obtain ⟨appended, happended⟩ := exists_appendedText_of_addParams hv hactive
    rw [addParams_of_parse hu hactive happended] at hv
    split at hv
    · cases hv
    · split at hv
      · cases hv
      · cases hv
        have hport : (if Url.defaultPort? u.scheme = u.port then none else u.port) = u.port ↔
            u.port = none ∨ Url.defaultPort? u.scheme ≠ u.port := by
          split
          · rename_i hsame
            simp [hsame, eq_comm]
          · rename_i hother
            simp [hother]
        refine ⟨⟨_, rfl, pieces_appendedText happended hactive⟩, ⟨rfl, rfl, rfl, rfl⟩, rfl, ?_, rfl,
          hport, fun hwritten => hport.2 ?_⟩
        · show (if ':' ∈ u.host.toList then u.host else lowerAscii u.host) = u.host ↔ _
          split
          · rename_i hcolon
            simp [hcolon]
          · rename_i hcolon
            simp [hcolon]
        · -- such a port was left out when the URL was read
          obtain ⟨-, -, hread, -⟩ :=
            Url.ofParts_eq_ok (Url.ofParts_of_parse (parse_of_parse hu))
          have hscheme := (isNormal_of_parse hu).1.isScheme_scheme
          rw [Url.scheme_split_of_written hscheme hwritten] at hread
          exact Url.ne_defaultPort_of_readPort hread

/-- One parameter. -/
def oneParam : List Entry := [⟨"", "a", "1", true⟩]

/-- `addParams_changes` at a URL with all parts, where nothing but the query changes. -/
theorem addParams_changes_query :
    ∃ u v, parse "http://me@[::1]:8080/a/./b?flag#top" = .ok u ∧ addParams u oneParam = .ok v ∧
      v.query = some "flag&a=1" ∧ v.host = u.host ∧ v.port = some 8080 ∧ v.path = "/a/b" ∧
      v.fragment = some "top" := by
  have hread : (parse "http://me@[::1]:8080/a/./b?flag#top").toOption.any
      (fun u => (addParams u oneParam).toOption.any (fun v => v.query == some "flag&a=1") &&
        decide (u = ⟨"http", "me", "::1", some 8080, "/a/b", some "flag", some "top"⟩)) = true := by
    decide +kernel
  obtain ⟨u, hu, hboth⟩ := exists_eq_ok_of_any hread
  rw [Bool.and_eq_true] at hboth
  obtain ⟨v, hv, hquery⟩ := exists_eq_ok_of_any hboth.1
  have hparts := of_decide_eq_true hboth.2
  have hactive : activePairs oneParam ≠ [] := by decide
  obtain ⟨-, hchanges⟩ := addParams_changes hu hv
  obtain ⟨-, ⟨-, -, hpath, hfragment⟩, -, hhost, -, hport, -⟩ := hchanges hactive
  subst hparts
  refine ⟨_, v, hu, hv, eq_of_beq hquery, hhost.2 (.inl (by decide)), ?_, hpath, hfragment⟩
  exact hport.2 (.inr (by decide))

/-- Adding a parameter leaves out a port that stood in the URL, and makes letters of a host
small. -/
theorem addParams_changes_other_parts :
    (∃ u v, parse "HTTP://h.test:80/" = .ok u ∧ addParams u oneParam = .ok v ∧
        u.port = some 80 ∧ v.port = none) ∧
      ∃ u v, parse "http://a^b/" = .ok u ∧ addParams u oneParam = .ok v ∧
        u.host = "a%5Eb" ∧ v.host = "a%5eb" := by
  have hport : (parse "HTTP://h.test:80/").toOption.any
      (fun u => (addParams u oneParam).toOption.any fun v =>
        decide (u.port = some 80 ∧ v.port = none)) = true := by
    decide +kernel
  have hhost : (parse "http://a^b/").toOption.any
      (fun u => (addParams u oneParam).toOption.any fun v =>
        decide (u.host = "a%5Eb" ∧ v.host = "a%5eb")) = true := by
    decide +kernel
  constructor
  · obtain ⟨u, hu, hadded⟩ := exists_eq_ok_of_any hport
    obtain ⟨v, hv, hports⟩ := exists_eq_ok_of_any hadded
    exact ⟨u, v, hu, hv, of_decide_eq_true hports⟩
  · obtain ⟨u, hu, hadded⟩ := exists_eq_ok_of_any hhost
    obtain ⟨v, hv, hhosts⟩ := exists_eq_ok_of_any hadded
    exact ⟨u, v, hu, hv, of_decide_eq_true hhosts⟩

end Target

end Courier
