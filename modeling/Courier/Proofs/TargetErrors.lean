import Courier.Exchange.Execute
import Courier.Proofs.AddedParameters

/-!
# How building a target fails

A target that is built has a scheme and a host. Otherwise the text is no URL, or it lacks one of
the two, and the error says so to the author of the request; but there are two kinds of failure that
come as errors of other kinds (`build_fails`). An encoded host may not decode, which is found out
when it is looked at. And a URL that was read may be refused when its parameters are added, because
a part is measured on its own then, and because a host is read again with its escapes.

The host of the URL with parameters is that of the URL before, in small letters. It has its readable
form still: the labels of a name are decoded in small letters anyway (`toUnicode?_lowerAscii`).
-/

namespace Courier

open Text

namespace Domain

/-- The labels of a name can be written with other characters, as long as full stops stay and the
labels stand for the same. -/
theorem mapLabels?_map {f : List Char → Option (List Char)} {g : Char → Char}
    (hdot : ∀ c, isDot (g c) = isDot c) {name : List Char}
    (hlabel : ∀ label ∈ splitAtAll isDot name, f (label.map g) = f label) :
    mapLabels? f (name.map g) = mapLabels? f name := by
  have hpieces : splitAtAll isDot (name.map g) = (splitAtAll isDot name).map (·.map g) := by
    rw [← List.flatMap_pure_eq_map]
    simp only [← List.flatMap_pure_eq_map g]
    refine splitAtAll_flatMap (fun c hc => ⟨g c, rfl, (hdot c).trans hc⟩) (fun c hc d hd => ?_) name
    rw [List.mem_singleton.1 hd, hdot c, hc]
  -- a label is empty in either form
  have hlast : ((splitAtAll isDot name).map (·.map g)).getLast? = some [] ↔
      (splitAtAll isDot name).getLast? = some [] := by
    rw [List.getLast?_map, Option.map_eq_some_iff]
    simp
  have hempty : (splitAtAll isDot name).map (·.map g) = [[]] ↔ splitAtAll isDot name = [[]] := by
    rw [List.map_eq_singleton_iff]
    simp
  have hmapM : ∀ labels : List (List Char), (∀ l ∈ labels, l ∈ splitAtAll isDot name) →
      (labels.map (·.map g)).mapM f = labels.mapM f := by
    intro labels hall
    induction labels with
    | nil => rfl
    | cons l labels ih =>
      rw [List.forall_mem_cons] at hall
      rw [List.map_cons, List.mapM_cons, List.mapM_cons, hlabel l hall.1, ih hall.2]
  unfold mapLabels?
  simp only [hpieces, List.length_map, hempty, beq_iff_eq, hlast]
  by_cases hfinal : (splitAtAll isDot name).getLast? = some []
  · simp only [hfinal, if_true]
    rw [← List.map_dropLast, hmapM _ fun l hl => List.dropLast_subset _ hl]
  · simp only [hfinal, if_false]
    rw [hmapM _ fun l hl => hl]

/-- An ASCII label stands for the same in small letters. -/
theorem unicodeLabel?_map_lower {cs : List Char} (h : isAscii cs = true) :
    unicodeLabel? (cs.map lowerAsciiChar) = unicodeLabel? cs := by
  have hsmall : isAscii (cs.map lowerAsciiChar) = true := by
    simp only [isAscii, List.all_map, List.all_eq_true, Function.comp_apply,
      decide_eq_true_eq] at h ⊢
    intro c hc
    have hall : ∀ n < 0x80, (lowerAsciiChar (Char.ofNat n)).toNat < 0x80 := by decide +kernel
    exact of_ascii (p := fun c => (lowerAsciiChar c).toNat < 0x80) hall (h c hc)
  have hlower : lowerAscii (String.ofList (cs.map lowerAsciiChar)) =
      lowerAscii (String.ofList cs) := by
    have himage : String.ofList (cs.map lowerAsciiChar) = lowerAscii (String.ofList cs) := by
      rw [lowerAscii_eq_map, String.toList_ofList]
    rw [himage, lowerAscii_lowerAscii]
  unfold unicodeLabel? labelOfAscii?
  rw [hsmall, h, hlower, if_pos rfl, if_pos rfl]

/-- A name in ASCII stands for the same in small letters. -/
theorem toUnicode?_lowerAscii {name : String} (h : isAscii name.toList = true) :
    toUnicode? (lowerAscii name) = toUnicode? name := by
  have hdot : ∀ c, isDot (lowerAsciiChar c) = isDot c := by
    intro c
    by_cases hcapital : 'A' ≤ c ∧ c ≤ 'Z'
    · have hall : ∀ n < 0x80, isDot (lowerAsciiChar (Char.ofNat n)) = isDot (Char.ofNat n) := by
        decide +kernel
      exact of_ascii (p := fun c => isDot (lowerAsciiChar c) = isDot c) hall
        (Nat.lt_of_le_of_lt (show c.toNat ≤ 0x5A from hcapital.2) (by decide))
    · rw [(lowerAsciiChar_eq_self_iff c).2 hcapital]
  have hascii : ∀ label ∈ splitAtAll isDot name.toList, isAscii label = true := by
    simp only [isAscii, List.all_eq_true, decide_eq_true_eq] at h ⊢
    exact fun label hlabel c hc => h c (mem_splitAtAll_iff.1 ⟨label, hlabel, hc⟩).1
  unfold toUnicode?
  rw [toList_lowerAscii, mapLabels?_map hdot fun label hlabel => by
    rw [unicodeLabel?_map_lower (hascii label hlabel)]]

end Domain

namespace Url

/-- Whether a host is encoded can be told from its small letters, if it has no other capitals than
digits of escapes. -/
theorem isPrefixOf_map_lower {cs : List Char} (h : ∀ c ∈ cs, IsHostChar c) :
    "xn--".toList.isPrefixOf (cs.map lowerAsciiChar) = "xn--".toList.isPrefixOf cs := by
  -- the capitals of these marks are no characters of hosts
  have hmark : ∀ mark ∈ "xn--".toList, ∀ n < 0x80, IsHostChar (Char.ofNat n) →
      (mark == lowerAsciiChar (Char.ofNat n)) = (mark == Char.ofNat n) :=
    forall_mem_of_all (by decide +kernel)
  have hsame : ∀ c, IsHostChar c → ∀ mark ∈ "xn--".toList,
      (mark == lowerAsciiChar c) = (mark == c) := fun c hc mark hin =>
    of_ascii (p := fun c => IsHostChar c → (mark == lowerAsciiChar c) = (mark == c))
      (hmark mark hin) hc.toNat_lt hc
  generalize "xn--".toList = marks at hsame ⊢
  induction marks generalizing cs with
  | nil => simp
  | cons mark marks ih =>
    cases cs with
    | nil => rfl
    | cons c cs =>
      rw [List.forall_mem_cons] at h
      rw [List.map_cons, List.isPrefixOf_cons_cons, List.isPrefixOf_cons_cons,
        hsame c h.1 mark List.mem_cons_self,
        ih h.2 fun c hc other hother => hsame c hc other (.tail mark hother)]

/-- A URL that is put together again has a host in its readable form still. -/
theorem exists_readableHost?_rebuilt {u : Url} (h : u.IsNormal) {host : String}
    (hread : u.readableHost? = some host) (hne : host ≠ "") :
    ∃ again, u.rebuilt.readableHost? = some again ∧ again ≠ "" := by
  unfold readableHost? at hread ⊢
  unfold rebuilt
  rcases h.host with ⟨hcolon, -, -⟩ | hchars
  · -- an address in brackets is kept
    rw [if_pos hcolon]
    exact ⟨host, hread, hne⟩
  · have hcolon : ':' ∉ u.host.toList := fun hin => absurd (hchars ':' hin) (by decide)
    have hascii := isAscii_of_isHostChar hchars
    simp only [if_neg hcolon, toList_lowerAscii, isPrefixOf_map_lower hchars]
    split at hread
    · rw [if_pos ‹_›, Domain.toUnicode?_lowerAscii hascii]
      exact ⟨host, hread, hne⟩
    · rw [if_neg ‹_›]
      refine ⟨_, rfl, ?_⟩
      rw [← String.toList_inj.ne, toList_lowerAscii]
      simpa [String.toList_eq_nil_iff] using h.host_ne

/-- A host that was written in ASCII looks like four numbers only if it is an address. -/
theorem looksLikeAddress_eq_false_of_parse {s : String} {u : Url} (h : parse s = .ok u)
    (hascii : Domain.isAscii s.toList = true) : u.looksLikeAddress = false := by
  obtain ⟨-, hencoded, -⟩ := ofParts_eq_ok (of_parse h).1
  have hwritten : Domain.isAscii (split s.toList).host.toList = true := by
    rw [Domain.isAscii, List.all_eq_true] at hascii ⊢
    exact fun c hc => hascii c (of_mem_host_split hc).1
  rw [looksLikeAddress, Bool.and_eq_false_iff, Bool.not_eq_false']
  by_cases hcolon : ':' ∈ u.host.toList
  · -- an address in brackets has other characters
    left
    rw [toList_bracketedHost_of_mem hcolon, ← Bool.not_eq_true]
    intro hlooks
    exact absurd (of_mem_of_looksNumeric hlooks List.mem_cons_self) (by decide)
  · rw [bracketedHost_of_notMem hcolon]
    cases hlooks : looksNumeric u.host.toList with
    | false => exact .inl rfl
    | true => exact .inr (isIpv4_of_looksNumeric hencoded hwritten hlooks)

end Url

namespace Target

/-- Whether a text is a URL whose host does not decode. -/
def HasUnreadableHost (t : CodeText) : Prop :=
  ∃ u, Url.read t = .ok u ∧ u.scheme ≠ "" ∧ u.readableHost? = none

/-- Whether a text is no URL because of a surrogate in a part that is escaped. -/
def IsUnwritable (t : CodeText) : Prop :=
  ∃ fault, Url.read t = .error (.unwritable fault)

/-- Whether an active parameter has a surrogate. -/
def HasUnwritableParam (params : List Entry) : Prop :=
  ∃ p ∈ activePairs params, p.1.toString? = none ∨ p.2.toString? = none

/-- Whether a URL that is read is refused with its parameters: a part of it is too long then, or its
host looks like four numbers now, which it did not before its full stops were those of ASCII. -/
def IsRefusedWith (params : List Entry) (u : Url) : Prop :=
  activePairs params ≠ [] ∧ ∃ appended, appendedText (activePairs params) = .ok appended ∧
    (Url.longPart? { u with query := some (u.query.getD "" ++ u.querySeparator ++ appended) } ≠
        none ∨
      u.looksLikeAddress = true)

/-- Only a text with a surrogate is no URL because of one. -/
theorem IsUnwritable.toString?_eq_none {t : CodeText} (h : IsUnwritable t) :
    t.toString? = none := by
  rw [Option.eq_none_iff_forall_ne_some]
  intro s hs
  obtain ⟨fault, hfault⟩ := h
  rw [CodeText.toString?_eq_some_iff.1 hs, Url.read_ofString, mapError_eq_error_iff] at hfault
  obtain ⟨e, -, he⟩ := hfault
  cases he

/-- Parameters have no text exactly if one of them has a surrogate. -/
theorem exists_appendedText_eq_error_iff (params : List Entry) :
    (∃ fault, appendedText (activePairs params) = .error fault) ↔ HasUnwritableParam params := by
  simp only [appendedText, map_eq_error_iff]
  rw [CodeText.exists_utf8Pairs_eq_error_iff]
  simp only [(perm_groupByName _).mem_iff, HasUnwritableParam]

/-! ## The two steps -/

/-- The errors of reading are reported, except that of a host that does not decode and that of a
surrogate. -/
theorem parse_cases (t : CodeText) :
    (∃ u, parse t = .ok u ∧ ¬HasUnreadableHost t ∧ ¬IsUnwritable t) ∨
      (∃ e, parse t = .error e ∧ (ExecuteError.target e).isReported = true ∧
        ¬HasUnreadableHost t ∧ ¬IsUnwritable t) ∨
      (parse t = .error .unreadableHost ∧ HasUnreadableHost t ∧ ¬IsUnwritable t) ∨
      (∃ fault, parse t = .error (.unwritable fault) ∧ ¬HasUnreadableHost t ∧ IsUnwritable t) := by
  unfold parse HasUnreadableHost IsUnwritable
  cases hread : Url.read t with
  | error f =>
    cases f with
    | invalid e => exact .inr (.inl ⟨_, rfl, rfl, by simp⟩)
    | unwritable fault => exact .inr (.inr (.inr ⟨fault, rfl, by simp⟩))
  | ok u =>
    simp only [Except.ok.injEq, exists_eq_left', ne_eq, reduceCtorEq, exists_false,
      not_false_eq_true, and_true, and_false, or_false]
    by_cases hscheme : u.scheme = ""
    · exact .inr (.inl ⟨_, if_pos (String.isEmpty_iff.2 hscheme), rfl, by simp [hscheme]⟩)
    · rw [if_neg (mt String.isEmpty_iff.1 hscheme)]
      cases hhost : u.readableHost? with
      | none => exact .inr (.inr ⟨rfl, hscheme, rfl⟩)
      | some host =>
        simp only
        split
        · exact .inr (.inl ⟨_, rfl, rfl, by simp⟩)
        · exact .inl ⟨u, rfl, by simp⟩

/-- Adding parameters to a URL that is read gives a URL with a scheme and a host, unless a parameter
has a surrogate or the URL is refused. The errors are of other kinds then. -/
theorem addParams_cases {t : CodeText} {u : Url} (hu : parse t = .ok u) (params : List Entry) :
    (¬HasUnwritableParam params ∧ ¬IsRefusedWith params u ∧
        ∃ v, addParams u params = .ok v ∧ v.scheme ≠ "" ∧
          ∃ host, v.readableHost? = some host ∧ host ≠ "") ∨
      (HasUnwritableParam params ∧ ¬IsRefusedWith params u ∧
        ∃ fault, addParams u params = .error (.unwritable fault)) ∨
      (¬HasUnwritableParam params ∧ IsRefusedWith params u ∧
        ∃ f, addParams u params = .error (.unfitQuery f)) := by
  obtain ⟨hnormal, host, hhost, hne⟩ := isNormal_of_parse hu
  rw [← exists_appendedText_eq_error_iff]
  unfold IsRefusedWith
  by_cases hactive : activePairs params = []
  · -- the URL stays as it is, and nothing is read again
    refine .inl ⟨?_, fun h => h.1 hactive, u, addParams_of_activePairs_eq_nil u hactive,
      hnormal.scheme_ne, host, hhost, hne⟩
    rw [hactive]
    exact fun ⟨_, h⟩ => nomatch h
  · cases happended : appendedText (activePairs params) with
    | error fault =>
      refine .inr (.inl ⟨⟨fault, rfl⟩, fun ⟨_, _, h, _⟩ => (nomatch h), fault, ?_⟩)
      rw [addParams_eq_withQuery u hactive, happended]
      rfl
    | ok appended =>
      have hwritable : ¬∃ fault, (.ok appended : Except EncodingFault String) = .error fault :=
        fun ⟨_, h⟩ => nomatch h
      rw [addParams_of_parse hu hactive happended]
      simp only [Except.ok.injEq, exists_eq_left']
      cases hlong : Url.longPart?
          { u with query := some (u.query.getD "" ++ u.querySeparator ++ appended) } with
      | some part =>
        exact .inr (.inr ⟨hwritable, ⟨hactive, .inl (Option.some_ne_none part)⟩, _, rfl⟩)
      | none =>
        simp only
        split
        · rename_i haddress
          exact .inr (.inr ⟨hwritable, ⟨hactive, .inr haddress⟩, _, rfl⟩)
        · rename_i haddress
          obtain ⟨again, hagain, hneAgain⟩ := Url.exists_readableHost?_rebuilt hnormal hhost hne
          exact .inl ⟨hwritable, fun h => h.2.elim (· rfl) haddress, _, rfl, hnormal.scheme_ne,
            again, hagain, hneAgain⟩

/-- A URL that was written in ASCII is refused with parameters only for a part that is too long
then. -/
theorem exists_componentTooLong_of_addParams {t : CodeText} {u : Url} (hu : parse t = .ok u)
    (hascii : t.IsAscii) {params : List Entry} {f : Url.Error}
    (h : addParams u params = .error (.unfitQuery f)) : ∃ part, f = .componentTooLong part := by
  have hplain : Domain.isAscii (Url.standing Url.standIn t).toList = true := by
    rw [← hascii.ofString_characters, Url.standing_ofString]
    rw [← hascii.ofString_characters, CodeText.isAscii_ofString_iff] at hascii
    simpa [Domain.isAscii, Text.IsAscii] using hascii
  by_cases hactive : activePairs params = []
  · rw [addParams_of_activePairs_eq_nil u hactive] at h
    cases h
  · cases happended : appendedText (activePairs params) with
    | error fault =>
      rw [addParams_eq_withQuery u hactive, happended] at h
      cases h
    | ok appended =>
      rw [addParams_of_parse hu hactive happended,
        Url.looksLikeAddress_eq_false_of_parse (parse_of_parse hu) hplain] at h
      split at h
      · rename_i part hlong
        cases h
        exact ⟨part, rfl⟩
      · cases h

/-! ## Building -/

/-- A bare address in ASCII has a scheme in ASCII put in front of it. -/
theorem isAscii_normalize {url : CodeText} (h : url.IsAscii) : (normalize url).IsAscii := by
  unfold normalize
  split
  · have hscheme : CodeText.IsAscii "http://" := by decide
    exact List.forall_mem_append.2 ⟨hscheme, h⟩
  · exact h

/-- A bare address without surrogates has none after a scheme is put in front of it. -/
theorem toString?_normalize_ne_none {url : CodeText} (h : url.toString? ≠ none) :
    (normalize url).toString? ≠ none := by
  rw [Ne, CodeText.toString?_eq_none_iff] at h ⊢
  unfold normalize
  split
  · rintro ⟨p, hp, hnone⟩
    rcases List.mem_append.1 hp with hscheme | hurl
    · obtain ⟨c, -, rfl⟩ := List.mem_map.1 hscheme
      cases hnone
    · exact h ⟨p, hurl, hnone⟩
  · exact h

/-- An error that is reported begins with the words for a URL that is none. -/
theorem message_of_isReported {e : TargetError} (h : (ExecuteError.target e).isReported = true) :
    ∃ detail, e.message = "Invalid URL: " ++ detail := by
  cases e with
  | malformed f => exact ⟨f.message, rfl⟩
  | relative url =>
    refine ⟨"relative URL without a base: " ++ url.quoted, ?_⟩
    rw [← String.append_assoc]
    rfl
  | noHost url =>
    refine ⟨"empty host: " ++ url.quoted, ?_⟩
    rw [← String.append_assoc]
    rfl
  | unreadableHost => cases h
  | unfitQuery f => cases h
  | unwritable fault => cases h

/-- How building fails. What is built has a scheme and a host. An error that is reported to the
author of the request begins with the words for a URL that is none. All errors are reported exactly
if the host decodes, no surrogate has to be written, and the URL that is read is not refused with
its parameters; and the three others are errors of their own. A URL without surrogates is always
written, and one in ASCII is refused only because a part of it is too long. -/
theorem build_fails (url : CodeText) (params : List Entry) :
    (∀ v, build url params = .ok v →
        v.scheme ≠ "" ∧ ∃ host, v.readableHost? = some host ∧ host ≠ "") ∧
      (∀ e, build url params = .error e → (ExecuteError.target e).isReported = true →
        ∃ detail, e.message = "Invalid URL: " ++ detail) ∧
      ((∀ e, build url params = .error e → (ExecuteError.target e).isReported = true) ↔
        ¬HasUnreadableHost (normalize url) ∧ ¬IsUnwritable (normalize url) ∧
          ¬∃ u, parse (normalize url) = .ok u ∧
            (HasUnwritableParam params ∨ IsRefusedWith params u)) ∧
      (build url params = .error .unreadableHost ↔ HasUnreadableHost (normalize url)) ∧
      ((∃ fault, build url params = .error (.unwritable fault)) ↔
        IsUnwritable (normalize url) ∨
          ∃ u, parse (normalize url) = .ok u ∧ HasUnwritableParam params) ∧
      (url.toString? ≠ none → ¬IsUnwritable (normalize url)) ∧
      ((∃ f, build url params = .error (.unfitQuery f)) ↔
        ∃ u, parse (normalize url) = .ok u ∧ IsRefusedWith params u) ∧
      (url.IsAscii →
        ∀ f, build url params = .error (.unfitQuery f) → ∃ part, f = .componentTooLong part) := by
  have hbuild : build url params = (parse (normalize url)).bind (addParams · params) := rfl
  have hplain : url.toString? ≠ none → ¬IsUnwritable (normalize url) := fun hwhole hbroken =>
    toString?_normalize_ne_none hwhole hbroken.toString?_eq_none
  rw [hbuild]
  rcases parse_cases (normalize url) with ⟨u, hu, hhost, hwritable⟩ |
    ⟨e, he, hreports, hhost, hwritable⟩ | ⟨he, hhost, hwritable⟩ | ⟨fault, he, hhost, hwritable⟩
  · -- the parameters decide
    have hlong : url.IsAscii → ∀ f, addParams u params = .error (.unfitQuery f) →
        ∃ part, f = .componentTooLong part :=
      fun hascii _ => exists_componentTooLong_of_addParams hu (isAscii_normalize hascii)
    rw [hu, Except.bind]
    rcases addParams_cases hu params with ⟨hparams, hfits, v, hv, hparts⟩ |
      ⟨hparams, hfits, fault, hf⟩ | ⟨hparams, hrefused, f, hf⟩
    · simp [hv, hhost, hwritable, hparams, hfits, hparts]
    · have hother : (ExecuteError.target (.unwritable fault)).isReported = false := rfl
      simp [hf, hhost, hwritable, hparams, hfits, hother]
    · have hother : (ExecuteError.target (.unfitQuery f)).isReported = false := rfl
      simpa [hf, hhost, hwritable, hparams, hrefused, hother] using fun hascii => hlong hascii f hf
  · -- an error that is reported is none of the others
    have hother : e ≠ .unreadableHost ∧ (∀ f, e ≠ .unfitQuery f) ∧ ∀ f, e ≠ .unwritable f := by
      refine ⟨?_, fun f => ?_, fun f => ?_⟩
      all_goals
        rintro rfl
        cases hreports
    rw [he, Except.bind]
    simp [hreports, hhost, hwritable, hother, message_of_isReported hreports]
  · -- a host that does not decode
    have hother : (ExecuteError.target .unreadableHost).isReported = false := rfl
    rw [he, Except.bind]
    simp [hhost, hwritable, hother]
  · -- a surrogate in the URL
    have hother : (ExecuteError.target (.unwritable fault)).isReported = false := rfl
    rw [he, Except.bind]
    simpa [hhost, hwritable, hother] using hplain

/-- Not every error is one that is reported: an encoded host may be empty. -/
theorem build_fails_unreported :
    build "http://xn--/" [] = .error .unreadableHost ∧
      (ExecuteError.target .unreadableHost).isReported = false ∧
      ¬∃ detail, TargetError.unreadableHost.message = "Invalid URL:" ++ detail := by
  have hbuild : build "http://xn--/" [] = .error .unreadableHost := by decide +kernel
  refine ⟨hbuild, rfl, fun ⟨detail, h⟩ => ?_⟩
  rw [← String.toList_inj, String.toList_append] at h
  cases h

end Target

end Courier
