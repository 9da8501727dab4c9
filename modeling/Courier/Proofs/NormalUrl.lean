import Courier.Proofs.Authority
import Courier.Proofs.NormalHost
import Courier.Proofs.Path

/-!
# URLs in their normal form

A URL that is read with a scheme and a host is in its normal form (`isNormal_of_parse`): every part
has the characters that its place keeps, and the path has nothing to take out. `IsNormal` says what
of this is needed to put the URL together again from its own parts, which is how a query is changed.
Then every part is kept as it is, apart from two. The host may change the case of its letters, or be
refused; and the port may go, if the scheme uses it by itself (`ofParts_toParts`). Before that every
part is measured on its own, and that is all that the checks of parts can find wrong with it
(`checkParts_of_isNormal`).
-/

namespace Courier.Url

open Text

/-- Whether a part has only characters that its place keeps. -/
def IsKept (safe : Char → Bool) (s : String) : Prop :=
  ∀ c ∈ s.toList, (isUnreserved c || safe c) = true

/-- Whether a URL with a scheme and a host is in its normal form. -/
structure IsNormal (u : Url) : Prop where
  scheme_ne : u.scheme ≠ ""
  isScheme_scheme : isScheme u.scheme.toList = true
  lower_scheme : lowerAscii u.scheme = u.scheme
  userinfo : IsKept isUserinfoSafe u.userinfo
  host_ne : u.host ≠ ""
  host : IsNormalHost u.host
  port : ∀ p, u.port = some p → IsPortSized p
  path : IsKept isPathSafe u.path
  head_path : u.path ≠ "" → u.path.toList.head? = some '/'
  normalizePath_path : normalizePath u.path.toList = u.path.toList
  query : ∀ q, u.query = some q → IsKept isQuerySafe q
  fragment : ∀ f, u.fragment = some f → IsKept isFragmentSafe f

/-! ## Escaped parts -/

section Parts

variable {safe : Char → Bool} {s : String}

/-- Escaping leaves the characters that a place keeps. -/
theorem isKept_quotePart (hp : safe '%' = true) (s : String) : IsKept safe (quotePart safe s) := by
  intro c hc
  rw [quotePart, String.toList_ofList] at hc
  exact safe_of_mem_percentQuote hp hc

/-- A part with these characters is not changed by escaping. -/
theorem IsKept.quotePart_eq (h : IsKept safe s) (hp : safe '%' = true) : quotePart safe s = s := by
  rw [quotePart, percentQuote_of_safe hp h, String.ofList_toList]

/-- A part does not have the characters that its place does not keep. -/
theorem IsKept.notMem (h : IsKept safe s) {c : Char} (hc : (isUnreserved c || safe c) = false) :
    c ∉ s.toList := by
  intro hin
  rw [h c hin] at hc
  cases hc

end Parts

/-! ## Reading -/

/-- What comes of parts with a scheme and a host. -/
theorem ofParts_of_absolute {p : Parts} (hscheme : p.scheme ≠ "") (hhost : p.host ≠ "") :
    ofParts p =
      (encodeHost p.host).bind fun host => (readPort p.port p.scheme).bind fun port =>
        if p.path ≠ "" ∧ p.path.toList.head? ≠ some '/' then .error .pathWithoutSlash
        else .ok ⟨lowerAscii p.scheme, quotePart isUserinfoSafe p.userinfo, host, port,
          quotePart isPathSafe (String.ofList (normalizePath p.path.toList)),
          p.query.map (quotePart isQuerySafe), p.fragment.map (quotePart isFragmentSafe)⟩ := by
  have hlower : (lowerAscii p.scheme).isEmpty = false := by
    rw [← Bool.not_eq_true, String.isEmpty_iff, ← String.toList_eq_nil_iff, toList_lowerAscii,
      List.map_eq_nil_iff, String.toList_eq_nil_iff]
    exact hscheme
  unfold ofParts
  cases hencoded : encodeHost p.host with
  | error e => rfl
  | ok host =>
    have hne : host.isEmpty = false := by
      rw [← Bool.not_eq_true, String.isEmpty_iff]
      exact encodeHost_ne_empty hencoded hhost
    cases readPort p.port p.scheme with
    | error e => rfl
    | ok port =>
      -- the scheme and the host decide what is looked at in the path
      have hcheck : checkPath p.path.toList true true =
          if p.path ≠ "" ∧ p.path.toList.head? ≠ some '/' then .error .pathWithoutSlash
          else .ok () := by
        unfold checkPath
        simp [String.toList_eq_nil_iff]
      simp only [bind, Except.bind, hlower, hne, Bool.not_false, Bool.or_true, Bool.true_or,
        Bool.or_self, hcheck, if_true, quotePart, String.toList_ofList]
      by_cases hpath : p.path ≠ "" ∧ p.path.toList.head? ≠ some '/'
      · rw [if_pos hpath, if_pos hpath]
      · rw [if_neg hpath, if_neg hpath]

/-- A text that can be a scheme can be one in small letters. -/
theorem isScheme_lowerAscii {s : String} (h : isScheme s.toList = true) :
    isScheme (lowerAscii s).toList = true := by
  -- other characters than capitals stay, and capitals become letters
  have hsmall : ∀ n < 0x80, 'A' ≤ Char.ofNat n ∧ Char.ofNat n ≤ 'Z' →
      'a' ≤ lowerAsciiChar (Char.ofNat n) ∧ lowerAsciiChar (Char.ofNat n) ≤ 'z' := by
    decide +kernel
  have hletter : ∀ c, 'A' ≤ c ∧ c ≤ 'Z' → 'a' ≤ lowerAsciiChar c ∧ lowerAsciiChar c ≤ 'z' :=
    fun c hc => of_ascii
      (p := fun c => 'A' ≤ c ∧ c ≤ 'Z' → 'a' ≤ lowerAsciiChar c ∧ lowerAsciiChar c ≤ 'z')
      hsmall (Nat.lt_of_le_of_lt (show c.toNat ≤ 0x5A from hc.2) (by decide)) hc
  have hfirst : ∀ c, (('a' ≤ c && c ≤ 'z') || ('A' ≤ c && c ≤ 'Z')) = true →
      (('a' ≤ lowerAsciiChar c && lowerAsciiChar c ≤ 'z') ||
        ('A' ≤ lowerAsciiChar c && lowerAsciiChar c ≤ 'Z')) = true := by
    intro c hc
    by_cases hcapital : 'A' ≤ c ∧ c ≤ 'Z'
    · simp [hletter c hcapital]
    · rw [(lowerAsciiChar_eq_self_iff c).2 hcapital]
      exact hc
  have hother : ∀ c, isSchemeChar c = true → isSchemeChar (lowerAsciiChar c) = true := by
    intro c hc
    by_cases hcapital : 'A' ≤ c ∧ c ≤ 'Z'
    · simp [isSchemeChar, hletter c hcapital]
    · rw [(lowerAsciiChar_eq_self_iff c).2 hcapital]
      exact hc
  rw [toList_lowerAscii]
  cases hs : s.toList with
  | nil => rfl
  | cons c rest =>
    rw [hs, isScheme, Bool.and_eq_true, List.all_eq_true] at h
    rw [List.map_cons, isScheme, Bool.and_eq_true, List.all_eq_true, List.forall_mem_map]
    exact ⟨hfirst c h.1, fun d hd => hother d (h.2 d hd)⟩

/-- A URL that is read has been cut out of a text without control characters. -/
theorem of_parse {s : String} {u : Url} (h : parse s = .ok u) :
    ofParts (split s.toList) = .ok u ∧ ∀ c ∈ s.toList, isControl c = false := by
  refine ⟨ofParts_of_parse h, ?_⟩
  unfold parse at h
  split at h
  · cases h
  · split at h
    · cases h
    · rename_i hnone
      rw [control?, Option.map_eq_none_iff, List.find?_eq_none] at hnone
      simpa using hnone

/-- A URL that is read with a scheme and a host is in its normal form. -/
theorem isNormal_of_parse {s : String} {u : Url} (h : parse s = .ok u) (hscheme : u.scheme ≠ "")
    (hhost : u.host ≠ "") : u.IsNormal := by
  obtain ⟨hparts, hcontrol⟩ := of_parse h
  obtain ⟨-, hencoded, -, hlower, -⟩ := ofParts_eq_ok hparts
  have hgiven : (split s.toList).scheme ≠ "" ∧ (split s.toList).host ≠ "" := by
    constructor
    · intro hempty
      rw [hempty] at hlower
      exact hscheme hlower
    · intro hempty
      rw [hempty] at hencoded
      exact hhost (Except.ok.inj hencoded).symm
  have hmarks : ∀ c ∈ (split s.toList).host.toList,
      c ∉ ['@', '/', '?', '#'] ∧ isControl c = false := by
    intro c hc
    obtain ⟨hin, hat, hslash, hquery, hfragment⟩ := of_mem_host_split hc
    exact ⟨by simp [hat, hslash, hquery, hfragment], hcontrol c hin⟩
  have hisScheme := isScheme_scheme_split s.toList
  generalize split s.toList = p at *
  obtain ⟨host, hencoded⟩ : ∃ host, encodeHost p.host = .ok host := ⟨_, hencoded⟩
  rw [ofParts_of_absolute hgiven.1 hgiven.2, hencoded, Except.bind] at hparts
  cases hread : readPort p.port p.scheme with
  | error e =>
    rw [hread] at hparts
    cases hparts
  | ok port =>
    rw [hread, Except.bind] at hparts
    split at hparts
    · cases hparts
    · rename_i hpath
      obtain rfl := Except.ok.inj hparts
      have hhead : p.path ≠ "" → p.path.toList.head? = some '/' := by
        intro hne
        by_contra hslash
        exact hpath ⟨hne, hslash⟩
      have hquoted : quotePart isPathSafe (String.ofList (normalizePath p.path.toList)) =
          String.ofList (percentQuote isPathSafe (normalizePath p.path.toList)) := by
        rw [quotePart, String.toList_ofList]
      refine
        { scheme_ne := hscheme
          isScheme_scheme := isScheme_lowerAscii hisScheme
          lower_scheme := lowerAscii_lowerAscii p.scheme
          userinfo := isKept_quotePart (by decide) p.userinfo
          host_ne := hhost
          host := isNormalHost_of_encodeHost hencoded hmarks
          port := ?_
          path := isKept_quotePart (by decide) _
          head_path := ?_
          normalizePath_path := ?_
          query := ?_
          fragment := ?_ }
      · rintro n rfl
        exact isPortSized_of_readPort hread
      · intro hne
        simp only [hquoted] at hne ⊢
        rw [String.toList_ofList]
        refine head_percentQuote_normalizePath (fun hpath => hhead ?_) ?_
        · exact fun hempty => hpath (String.toList_eq_nil_iff.2 hempty)
        · exact fun hnil => hne (String.ofList_eq_empty_iff.2 hnil)
      · simp only [hquoted, String.toList_ofList]
        exact normalizePath_percentQuote p.path.toList
      · intro q hq
        obtain ⟨given, -, rfl⟩ := Option.map_eq_some_iff.1 hq
        exact isKept_quotePart (by decide) given
      · intro f hf
        obtain ⟨given, -, rfl⟩ := Option.map_eq_some_iff.1 hf
        exact isKept_quotePart (by decide) given

/-! ## Putting a URL together again -/

/-- A URL after it is put together from its own parts: the host is in small letters, apart from an
address in brackets, and the port is left out if the scheme uses it by itself. -/
def rebuilt (u : Url) : Url :=
  { u with
    host := if ':' ∈ u.host.toList then u.host else lowerAscii u.host
    port := if defaultPort? u.scheme = u.port then none else u.port }

section Rebuilt

variable {u : Url}

/-- What comes of the parts of a URL in its normal form. -/
theorem ofParts_toParts (h : u.IsNormal) :
    ofParts (u.toParts none) =
      if u.looksLikeAddress = true then .error (.ipv4 u.bracketedHost) else .ok u.rebuilt := by
  obtain ⟨hat, hbracket⟩ := h.host.notMem
  have hparts : u.toParts none =
      ⟨u.scheme, u.userinfo, u.bracketedHost, u.portText, u.path, u.query, u.fragment⟩ := by
    unfold toParts
    rw [splitAuthority_authority hat hbracket]
    simp only [String.ofList_toList, Option.getD_none]
  have hne : u.bracketedHost ≠ "" := by
    intro hempty
    by_cases hcolon : ':' ∈ u.host.toList
    · have hwritten := toList_bracketedHost_of_mem hcolon
      rw [hempty] at hwritten
      cases hwritten
    · rw [bracketedHost_of_notMem hcolon] at hempty
      exact h.host_ne hempty
  have hslash : ¬(u.path ≠ "" ∧ u.path.toList.head? ≠ some '/') := fun ⟨hpath, hhead⟩ =>
    hhead (h.head_path hpath)
  have hquery : u.query.map (quotePart isQuerySafe) = u.query := by
    cases hq : u.query with
    | none => rfl
    | some q => exact congrArg some ((h.query q hq).quotePart_eq (by decide))
  have hfragment : u.fragment.map (quotePart isFragmentSafe) = u.fragment := by
    cases hf : u.fragment with
    | none => rfl
    | some f => exact congrArg some ((h.fragment f hf).quotePart_eq (by decide))
  rw [hparts, ofParts_of_absolute h.scheme_ne hne, encodeHost_bracketedHost h.host]
  simp only [readPort_portText h.port, h.lower_scheme, h.userinfo.quotePart_eq (by decide),
    h.normalizePath_path, String.ofList_toList, h.path.quotePart_eq (by decide), hquery, hfragment,
    if_neg hslash]
  by_cases haddress : u.looksLikeAddress = true
  · rw [if_pos haddress, if_pos haddress]
    rfl
  · rw [if_neg haddress, if_neg haddress]
    rfl

end Rebuilt

/-! ## Checking parts -/

/-- The parts of a URL that are checked, in order. -/
def checkedParts (u : Url) : List (Component × String) :=
  [(.scheme, u.scheme), (.authority, u.authority), (.path, u.path)] ++
    u.query.toList.map (Prod.mk .query) ++ u.fragment.toList.map (Prod.mk .fragment)

/-- The first part of a URL that is too long. -/
def longPart? (u : Url) : Option Component :=
  (u.checkedParts.find? fun part => maxLength < part.2.length).map Prod.fst

/-- Parts are checked one after another. -/
theorem checkParts_eq_forM (u : Url) :
    u.checkParts = u.checkedParts.forM fun part => checkComponent part.1 part.2 := by
  unfold checkParts checkedParts
  cases u.query <;> cases u.fragment <;> simp

/-- Whether a text is a part as far as its characters go. -/
def IsPart (part : Component) (s : String) : Prop :=
  (∀ c ∈ s.toList, isControl c = false) ∧ fitsComponent part s.toList = true

/-- A text that is a part by its characters can only be too long. -/
theorem checkComponent_of_isPart {part : Component} {s : String} (h : IsPart part s) :
    checkComponent part s =
      if maxLength < s.length then .error (.componentTooLong part) else .ok () := by
  have hnone : control? s = none := by
    rw [control?, Option.map_eq_none_iff, List.find?_eq_none]
    intro c hc
    rw [h.1 c hc]
    exact Bool.false_ne_true
  unfold checkComponent
  rw [hnone, h.2]
  rfl

/-- Of parts that are only measured, the first one that is too long is found. -/
theorem forM_checkComponent {parts : List (Component × String)}
    (h : ∀ part ∈ parts, IsPart part.1 part.2) :
    (parts.forM fun part => checkComponent part.1 part.2) =
      match parts.find? fun part => maxLength < part.2.length with
      | some part => .error (.componentTooLong part.1)
      | none => .ok () := by
  induction parts with
  | nil => rfl
  | cons part parts ih =>
    rw [List.forall_mem_cons] at h
    show (checkComponent part.1 part.2).bind (fun _ =>
      parts.forM fun part => checkComponent part.1 part.2) = _
    rw [checkComponent_of_isPart h.1, List.find?_cons]
    by_cases hlong : maxLength < part.2.length
    · simp [hlong, Except.bind]
    · simp [hlong, Except.bind, ih h.2]

section Characters

variable {u : Url}

/-- No place keeps control characters. -/
theorem IsKept.isControl {safe : Char → Bool} {s : String} (h : IsKept safe s)
    (hsafe : ∀ n < 0x80, isControl (Char.ofNat n) = true →
      (isUnreserved (Char.ofNat n) || safe (Char.ofNat n)) = false) :
    ∀ c ∈ s.toList, isControl c = false := by
  intro c hc
  rw [Bool.eq_false_iff]
  intro hcontrol
  have hsmall : c.toNat < 0x80 := by
    simp only [Url.isControl, Bool.or_eq_true, decide_eq_true_eq, beq_iff_eq] at hcontrol
    omega
  have hno := of_ascii (p := fun c => Url.isControl c = true → (isUnreserved c || safe c) = false)
    hsafe hsmall hcontrol
  rw [h c hc] at hno
  cases hno

/-- Whether a character may stand in an authority. -/
def IsAuthorityChar (c : Char) : Prop := isControl c = false ∧ c ∉ ['/', '?', '#']

instance (c : Char) : Decidable (IsAuthorityChar c) :=
  inferInstanceAs (Decidable (isControl c = false ∧ c ∉ ['/', '?', '#']))

/-- The authority of a URL in its normal form has characters of authorities. -/
theorem isAuthorityChar_of_isNormal (h : u.IsNormal) :
    ∀ c ∈ u.authority.toList, IsAuthorityChar c := by
  have huserinfo : ∀ c ∈ u.userinfo.toList, IsAuthorityChar c := by
    intro c hc
    refine ⟨h.userinfo.isControl (by decide +kernel) c hc, fun hmark => ?_⟩
    have hnone : ∀ m ∈ ['/', '?', '#'], (isUnreserved m || isUserinfoSafe m) = false :=
      forall_mem_of_all (by decide)
    exact h.userinfo.notMem (hnone c hmark) hc
  have hhost : ∀ c ∈ u.host.toList, IsAuthorityChar c := by
    intro c hc
    rcases h.host with ⟨-, -, hmarks⟩ | hchars
    · obtain ⟨hmark, hcontrol⟩ := hmarks c hc
      refine ⟨hcontrol, fun hin => hmark (.tail _ hin)⟩
    · have hall : ∀ n < 0x80, IsHostChar (Char.ofNat n) → IsAuthorityChar (Char.ofNat n) := by
        decide +kernel
      exact of_ascii (p := fun c => IsHostChar c → IsAuthorityChar c) hall
        (hchars c hc).toNat_lt (hchars c hc)
  have hport : ∀ c ∈ u.portPart, IsAuthorityChar c := by
    intro c hc
    rcases of_mem_portPart hc with rfl | hnumber
    · decide
    · have hall : ∀ n < 0x80, Json.isNumberChar (Char.ofNat n) = true →
          IsAuthorityChar (Char.ofNat n) := by
        decide +kernel
      exact of_ascii (p := fun c => Json.isNumberChar c = true → IsAuthorityChar c) hall
        (Yaml.isKept_of_isNumberChar hnumber).1 hnumber
  -- the authority is these three with marks between them
  intro c hc
  rw [toList_authority, toList_netloc] at hc
  rcases List.mem_append.1 hc with hc | hc
  · split at hc
    · cases hc
    · rcases List.mem_append.1 hc with hc | hc
      · exact huserinfo c hc
      · rw [List.mem_singleton.1 hc]
        decide
  · rcases List.mem_append.1 hc with hc | hc
    · have hmarks : ∀ m ∈ ['[', ']'], IsAuthorityChar m := forall_mem_of_all (by decide)
      exact (of_mem_bracketedHost hc).elim (hmarks c) (hhost c)
    · exact hport c hc

/-- A text that can be a scheme has characters that need no escape, or plus signs. -/
theorem isKept_of_isScheme {s : String} (h : isScheme s.toList = true) : IsKept (· == '+') s := by
  have hchar : ∀ c, isSchemeChar c = true → (isUnreserved c || c == '+') = true := by
    intro c hc
    simp only [isSchemeChar, Bool.or_eq_true, Bool.and_eq_true, decide_eq_true_eq,
      beq_iff_eq] at hc
    simp only [isUnreserved, Bool.or_eq_true, Bool.and_eq_true, decide_eq_true_eq, beq_iff_eq]
    tauto
  intro c hc
  refine hchar c ?_
  cases hlist : s.toList with
  | nil =>
    rw [hlist] at hc
    cases hc
  | cons first rest =>
    rw [hlist, isScheme, Bool.and_eq_true, List.all_eq_true] at h
    rw [hlist] at hc
    rcases List.mem_cons.1 hc with rfl | hc
    · -- the first one is a letter
      rw [isSchemeChar, h.1]
      rfl
    · exact h.2 c hc

/-- A text is a part that only one character ends, if its place keeps neither that one nor control
characters. -/
theorem IsKept.isPart {safe : Char → Bool} {part : Component} {mark : Char} {s : String}
    (h : IsKept safe s) (hfits : fitsComponent part s.toList = s.toList.all (· != mark))
    (hmark : (isUnreserved mark || safe mark) = false)
    (hsafe : ∀ n < 0x80, Url.isControl (Char.ofNat n) = true →
      (isUnreserved (Char.ofNat n) || safe (Char.ofNat n)) = false) :
    IsPart part s := by
  refine ⟨h.isControl hsafe, ?_⟩
  rw [hfits, List.all_eq_true]
  intro c hc
  rw [bne_iff_ne]
  rintro rfl
  exact h.notMem hmark hc

/-- The parts of a URL in its normal form are parts by their characters. -/
theorem isPart_of_isNormal (h : u.IsNormal) : ∀ part ∈ u.checkedParts, IsPart part.1 part.2 := by
  have hscheme : IsPart .scheme u.scheme :=
    ⟨(isKept_of_isScheme h.isScheme_scheme).isControl (by decide +kernel), h.isScheme_scheme⟩
  have hauthority : IsPart .authority u.authority := by
    have hchars := isAuthorityChar_of_isNormal h
    refine ⟨fun c hc => (hchars c hc).1, ?_⟩
    simpa [fitsComponent, and_assoc] using fun c hc => (hchars c hc).2
  have hpath : IsPart .path u.path := by
    refine ⟨h.path.isControl (by decide +kernel), ?_⟩
    simp only [fitsComponent, List.all_eq_true, Bool.and_eq_true, bne_iff_ne]
    intro c hc
    constructor
    · rintro rfl
      exact h.path.notMem (by decide) hc
    · rintro rfl
      exact h.path.notMem (by decide) hc
  have hquery : ∀ q ∈ u.query, IsPart .query q := fun q hq =>
    (h.query q hq).isPart rfl (by decide) (by decide +kernel)
  have hfragment : ∀ f ∈ u.fragment, IsPart .fragment f := fun f hf =>
    (h.fragment f hf).isPart rfl (by decide) (by decide +kernel)
  intro part hpart
  simp only [checkedParts, List.mem_append, List.mem_cons, List.not_mem_nil, or_false,
    List.mem_map, Option.mem_toList] at hpart
  rcases hpart with ((rfl | rfl | rfl) | ⟨q, hq, rfl⟩) | ⟨f, hf, rfl⟩
  · exact hscheme
  · exact hauthority
  · exact hpath
  · exact hquery q hq
  · exact hfragment f hf

/-- Of a URL in its normal form, the parts can only be too long. -/
theorem checkParts_of_isNormal (h : u.IsNormal) :
    u.checkParts =
      match u.longPart? with
      | some part => .error (.componentTooLong part)
      | none => .ok () := by
  rw [checkParts_eq_forM, forM_checkComponent (isPart_of_isNormal h), longPart?]
  cases u.checkedParts.find? fun part => maxLength < part.2.length <;> rfl

end Characters

/-! ## Another query -/

/-- A URL in its normal form is, with another query of characters that a query keeps. -/
theorem IsNormal.withQuery {u : Url} (h : u.IsNormal) {q : String} (hq : IsKept isQuerySafe q) :
    IsNormal { u with query := some q } :=
  { h with
    query := by
      rintro other hother
      obtain rfl := Option.some.inj hother
      exact hq }

/-- A URL in its normal form is put together again with another query. A part that is too long is
refused, and so is a host that looks like an address now. -/
theorem withQuery_of_isNormal {u : Url} (h : u.IsNormal) {q : String}
    (hq : IsKept isQuerySafe q) :
    u.withQuery q =
      match longPart? { u with query := some q } with
      | some part => .error (.componentTooLong part)
      | none =>
        if u.looksLikeAddress = true then .error (.ipv4 u.bracketedHost)
        else .ok { u.rebuilt with query := some q } := by
  have hv := h.withQuery hq
  show (checkParts { u with query := some q }).bind
    (fun _ => ofParts (toParts { u with query := some q } none)) = _
  rw [checkParts_of_isNormal hv, ofParts_toParts hv]
  cases longPart? { u with query := some q } with
  | some part => rfl
  | none => rfl

end Courier.Url
