import Courier.Proofs.Host
import Courier.Proofs.JsonWriter
import Courier.Proofs.ScalarValue
import Courier.Proofs.Url

/-!
# Cutting a URL into its parts

A text is cut at its marks, so that a part has none of the marks that end it: what is cut out as a
host has no `@`, and nothing that ends an authority (`of_mem_host_split`). Conversely the authority
that is written for a URL is cut into what it was written from (`splitAuthority_authority`), and the
port is read as the number that it was written for (`readPort_portText`). The last `@` and the last
closing bracket are found from the end, where neither a host nor a port has another one
(`cut_at_last`).
-/

namespace Courier.Url

open Text

/-! ## What a text is cut into -/

/-- What follows a scheme stood there before. -/
theorem mem_of_mem_splitScheme {cs : List Char} {c : Char} (h : c ∈ (splitScheme cs).2) :
    c ∈ cs := by
  unfold splitScheme at h
  simp only at h
  split at h
  · rename_i r hr
    split at h
    · exact List.mem_of_mem_drop (hr ▸ List.mem_cons_of_mem ':' h)
    · exact h
  · exact h

/-- What is cut out as a scheme can be one. -/
theorem isScheme_scheme_split (cs : List Char) : isScheme (split cs).scheme.toList = true := by
  have hscheme : (split cs).scheme.toList = (splitScheme cs).1 := String.toList_ofList
  rw [hscheme]
  unfold splitScheme
  simp only
  split
  · split
    · assumption
    · rfl
  · rfl

/-- The host is cut out of an authority, which has none of the marks that end it. -/
theorem exists_authority_of_split (cs : List Char) :
    ∃ authority, (split cs).host = .ofList (splitAuthority authority).2.1 ∧
      ∀ c ∈ authority, c ∈ cs ∧ c ≠ '/' ∧ c ≠ '?' ∧ c ≠ '#' := by
  have hrest : ∀ c ∈ (splitScheme cs).2, c ∈ cs := fun c => mem_of_mem_splitScheme
  unfold split
  simp only
  generalize (splitScheme cs).2 = rest at hrest
  split
  · refine ⟨_, rfl, fun c hc => ?_⟩
    have hmark := List.all_eq_true.1 List.all_takeWhile c hc
    refine ⟨hrest c ?_, by simpa [and_assoc] using hmark⟩
    exact .tail _ (.tail _ ((List.takeWhile_sublist _).mem hc))
  · exact ⟨[], rfl, by simp⟩

/-- The host of an authority stood there before, and it has no `@`. -/
theorem of_mem_host_splitAuthority {authority : List Char} {c : Char}
    (h : c ∈ (splitAuthority authority).2.1) : c ∈ authority ∧ c ≠ '@' := by
  have hrest : ∀ c ∈ (authority.reverse.takeWhile (· != '@')).reverse,
      c ∈ authority ∧ c ≠ '@' := by
    intro c hc
    rw [List.mem_reverse] at hc
    have hmark := List.all_eq_true.1 List.all_takeWhile c hc
    exact ⟨List.mem_reverse.1 ((List.takeWhile_sublist _).mem hc), by simpa using hmark⟩
  unfold splitAuthority at h
  generalize (authority.reverse.takeWhile (· != '@')).reverse = rest at h hrest
  have hhost : c ∈ (if rest.head? == some '[' &&
      !(rest.reverse.dropWhile (· != ']')).reverse.isEmpty then
        (rest.reverse.dropWhile (· != ']')).reverse
      else rest.takeWhile (· != ':')) := by
    simp only at h
    split at h
    · exact h
    · exact h
  refine hrest c ?_
  split at hhost
  · exact List.mem_reverse.1 ((List.dropWhile_sublist _).mem (List.mem_reverse.1 hhost))
  · exact (List.takeWhile_sublist _).mem hhost

/-- What is cut out as a host has no `@` and nothing that ends an authority. -/
theorem of_mem_host_split {cs : List Char} {c : Char} (h : c ∈ (split cs).host.toList) :
    c ∈ cs ∧ c ≠ '@' ∧ c ≠ '/' ∧ c ≠ '?' ∧ c ≠ '#' := by
  obtain ⟨authority, hhost, hmarks⟩ := exists_authority_of_split cs
  rw [hhost, String.toList_ofList] at h
  obtain ⟨hin, hat⟩ := of_mem_host_splitAuthority h
  obtain ⟨hcs, hothers⟩ := hmarks c hin
  exact ⟨hcs, hat, hothers⟩

/-! ## Cutting what was written -/

/-- The last one of a mark, with nothing of its kind behind it. -/
theorem cut_at_last {mark : Char} {back : List Char} (h : mark ∉ back) (front : List Char) :
    ((front ++ mark :: back).reverse.takeWhile (· != mark)).reverse = back ∧
      ((front ++ mark :: back).reverse.dropWhile (· != mark)).reverse = front ++ [mark] := by
  have hback : ∀ c ∈ back.reverse, (c != mark) = true := by
    intro c hc
    rw [bne_iff_ne]
    rintro rfl
    exact h (List.mem_reverse.1 hc)
  have hreverse : (front ++ mark :: back).reverse = back.reverse ++ mark :: front.reverse := by
    simp
  have hmark : (mark != mark) = false := by simp
  rw [hreverse, List.takeWhile_append_of_pos hback, List.dropWhile_append_of_pos hback,
    List.takeWhile_cons_of_neg (by simp), List.dropWhile_cons_of_neg (by simp)]
  simp

/-- The port as it is written. -/
def portText (u : Url) : String :=
  match u.port with
  | some p => toString p
  | none => ""

/-- What stands behind a host: a colon and the port, if there is one. -/
def portPart (u : Url) : List Char :=
  match u.port with
  | some p => ':' :: (toString p).toList
  | none => []

/-- Host and port are written one behind the other. -/
theorem toList_netloc (u : Url) : u.netloc.toList = u.bracketedHost.toList ++ u.portPart := by
  unfold netloc portPart
  rw [String.toList_append]
  cases u.port with
  | none => rfl
  | some p => rw [String.toList_append]; rfl

/-- The user information is written in front of host and port. -/
theorem toList_authority (u : Url) :
    u.authority.toList =
      (if u.userinfo = "" then [] else u.userinfo.toList ++ ['@']) ++ u.netloc.toList := by
  unfold authority
  rw [String.toList_append]
  by_cases h : u.userinfo = ""
  · rw [if_pos (String.isEmpty_iff.2 h), if_pos h]
    rfl
  · rw [if_neg (mt String.isEmpty_iff.1 h), if_neg h, String.toList_append]
    rfl

/-- The characters of an integer. -/
theorem isNumberChar_of_mem_toString {p : Int} {c : Char} (h : c ∈ (toString p).toList) :
    Json.isNumberChar c = true := by
  rw [Json.toList_toString] at h
  rcases List.mem_append.1 h with h | h
  · exact Json.isNumberChar_signSource _ c h
  · exact Json.isNumberChar_of_digits (Json.isWhole_toDigits _).all_digits c h

/-- A port is written with a colon and characters of numbers. -/
theorem of_mem_portPart {u : Url} {c : Char} (h : c ∈ u.portPart) :
    c = ':' ∨ Json.isNumberChar c = true := by
  unfold portPart at h
  cases hport : u.port with
  | none =>
    rw [hport] at h
    cases h
  | some p =>
    rw [hport] at h
    exact (List.mem_cons.1 h).imp_right isNumberChar_of_mem_toString

section Written

variable {u : Url}

/-- A host and a port are cut apart: a host in brackets ends at its bracket, and another one has no
colon. -/
theorem cut_netloc (h : ':' ∉ u.host.toList → '[' ∉ u.host.toList) :
    let netloc := u.netloc.toList
    let inBrackets := (netloc.reverse.dropWhile (· != ']')).reverse
    (if netloc.head? == some '[' && !inBrackets.isEmpty then inBrackets
      else netloc.takeWhile (· != ':')) = u.bracketedHost.toList := by
  intro netloc inBrackets
  have hnetloc : netloc = u.bracketedHost.toList ++ u.portPart := toList_netloc u
  by_cases hcolon : ':' ∈ u.host.toList
  · have hhost := toList_bracketedHost_of_mem hcolon
    -- there is no bracket in a port
    have hport : ']' ∉ u.portPart := fun hin =>
      (of_mem_portPart hin).elim (by decide) (by decide)
    have hlast : inBrackets = u.bracketedHost.toList := by
      have hcut := (cut_at_last hport ('[' :: u.host.toList)).2
      have hwritten : netloc = ('[' :: u.host.toList) ++ ']' :: u.portPart := by
        rw [hnetloc, hhost]
        simp
      rw [← hwritten] at hcut
      rw [hhost]
      exact hcut
    rw [if_pos, hlast]
    rw [hlast, hnetloc, hhost]
    rfl
  · have hhost := bracketedHost_of_notMem hcolon
    have hport : ∀ c ∈ u.portPart.head?, c = ':' := by
      unfold portPart
      cases u.port <;> simp
    rw [hhost] at hnetloc ⊢
    have hbracket : netloc.head? ≠ some '[' := by
      intro hhead
      rw [hnetloc, List.head?_append] at hhead
      cases hfirst : u.host.toList.head? with
      | some c =>
        rw [hfirst] at hhead
        obtain rfl := Option.some.inj hhead
        exact h hcolon (List.mem_of_head? hfirst)
      | none =>
        rw [hfirst] at hhead
        exact absurd (hport '[' hhead) (by decide)
    have hplain : ∀ c ∈ u.host.toList, (c != ':') = true := by
      intro c hc
      rw [bne_iff_ne]
      rintro rfl
      exact hcolon hc
    rw [if_neg (by simp [hbracket]), hnetloc, List.takeWhile_append_of_pos hplain]
    -- nothing of the port is taken, because it begins with a colon
    cases hpart : u.portPart with
    | nil => simp
    | cons c rest =>
      obtain rfl := hport c (by simp [hpart])
      simp

/-- The authority of a URL is cut into what it was written from, if no host is taken for something
else. -/
theorem splitAuthority_authority (hat : '@' ∉ u.host.toList)
    (hbracket : ':' ∉ u.host.toList → '[' ∉ u.host.toList) :
    splitAuthority u.authority.toList =
      (u.userinfo.toList, u.bracketedHost.toList, u.portText.toList) := by
  have hnone : '@' ∉ u.netloc.toList := by
    rw [toList_netloc, List.mem_append]
    rintro (hin | hin)
    · rcases of_mem_bracketedHost hin with hmark | hin
      · exact absurd hmark (by decide)
      · exact hat hin
    · exact (of_mem_portPart hin).elim (by decide) (by decide)
  have huser : (u.authority.toList.reverse.takeWhile (· != '@')).reverse = u.netloc.toList ∧
      (if u.authority.toList.contains '@' then
        u.authority.toList.take (u.authority.toList.length - u.netloc.toList.length - 1)
      else []) = u.userinfo.toList := by
    rw [toList_authority]
    by_cases hempty : u.userinfo = ""
    · rw [if_pos hempty, List.nil_append, if_neg (mt List.contains_iff_mem.1 hnone), hempty]
      refine ⟨?_, rfl⟩
      have hall : ∀ c ∈ u.netloc.toList.reverse, (c != '@') = true := by
        intro c hc
        rw [bne_iff_ne]
        rintro rfl
        exact hnone (List.mem_reverse.1 hc)
      rw [List.takeWhile_eq_self_iff.2 hall, List.reverse_reverse]
    · rw [if_neg hempty, List.append_assoc, List.singleton_append]
      refine ⟨(cut_at_last hnone u.userinfo.toList).1, ?_⟩
      rw [if_pos (by simp), List.length_append, List.length_cons]
      have hcount : u.userinfo.toList.length + (u.netloc.toList.length + 1) -
          u.netloc.toList.length - 1 = u.userinfo.toList.length := by omega
      rw [hcount, List.take_left]
  have hdrop : u.netloc.toList.drop u.bracketedHost.toList.length = u.portPart := by
    rw [toList_netloc, List.drop_left]
  have hhost := cut_netloc hbracket
  simp only at hhost
  unfold splitAuthority
  simp only [huser.1, huser.2, hhost, hdrop]
  unfold portPart portText
  cases u.port with
  | none => rfl
  | some p => rfl

end Written

/-! ## Ports -/

/-- Whether a number has few enough digits to be read as a port. -/
def IsPortSized (p : Int) : Prop := (Nat.toDigits 10 p.natAbs).length ≤ 4300

/-- A port that is read has few enough digits to be read again. -/
theorem isPortSized_of_readPort {text scheme : String} {p : Int}
    (h : readPort text scheme = .ok (some p)) : IsPortSized p := by
  unfold readPort at h
  split at h
  · cases h
  · split at h
    · rename_i negative digits hdigits
      split at h
      · cases h
      · rename_i hfew
        have hall : ∀ c ∈ digits, Numeral.isDigit c = true := by
          unfold Numeral.integerDigits? at hdigits
          obtain ⟨found, -, hfound⟩ := Option.bind_eq_some_iff.1 hdigits
          simp only at hfound
          split at hfound
          · cases hfound
          · rename_i hfits
            cases hfound
            simp only [Bool.or_eq_true, not_or, Bool.not_eq_true', Bool.not_eq_false,
              List.all_eq_true] at hfits
            exact hfits.2
        simp only at h
        split at h
        · cases h
        · cases h
          have hsize : (Numeral.ofSignedDigits negative digits).natAbs =
              Numeral.ofDigits digits := by
            unfold Numeral.ofSignedDigits
            split <;> simp
          -- for any number of digits, so that no power of ten is computed
          have hbound : ∀ most, 0 < most → digits.length ≤ most →
              (Nat.toDigits 10 (Numeral.ofDigits digits)).length ≤ most := by
            intro most hmost hlength
            refine Json.length_toDigits_le hmost (Nat.lt_of_lt_of_le (Numeral.ofDigits_lt hall) ?_)
            exact Nat.pow_le_pow_right (by decide) hlength
          rw [IsPortSized, hsize]
          exact hbound 4300 (by decide) (Nat.not_lt.1 hfew)
    · cases h

/-- A port that is read is not the one that the scheme uses by itself. -/
theorem ne_defaultPort_of_readPort {text scheme : String} {port : Option Int}
    (h : readPort text scheme = .ok port) : port = none ∨ defaultPort? scheme ≠ port := by
  unfold readPort at h
  split at h
  · exact .inl (Except.ok.inj h).symm
  · split at h
    · split at h
      · cases h
      · obtain rfl := Except.ok.inj h
        split
        · exact .inl rfl
        · exact .inr ‹_›
    · cases h

/-- An integer is read as its sign and its digits. -/
theorem integerDigits?_toString (p : Int) :
    Numeral.integerDigits? (toString p) =
      some (decide (p < 0), Nat.toDigits 10 p.natAbs) := by
  have hwhole := Json.isWhole_toDigits p.natAbs
  have hkept : ∀ c ∈ (toString p).toList, Numeral.IsKept c :=
    fun c hc => Yaml.isKept_of_isNumberChar (isNumberChar_of_mem_toString hc)
  have hdigits : ∀ c ∈ Nat.toDigits 10 p.natAbs, Numeral.IsKept c :=
    fun c hc => Yaml.isKept_of_isNumberChar (Json.isNumberChar_of_digits hwhole.all_digits c hc)
  have hhead := hwhole.head []
  rw [List.append_nil] at hhead
  unfold Numeral.integerDigits?
  rw [Numeral.toAscii_eq_self hkept, Numeral.trimWhile_of_isKept hkept, Json.toList_toString,
    Json.takeSign_signSource true _ hhead]
  simp only
  rw [Numeral.dropUnderscores_eq_self hdigits]
  have hfits : ((Nat.toDigits 10 p.natAbs).isEmpty ||
      !(Nat.toDigits 10 p.natAbs).all Numeral.isDigit) = false := by
    simp only [Bool.or_eq_false_iff, Bool.not_eq_false', List.all_eq_true,
      List.isEmpty_eq_false_iff]
    exact ⟨hwhole.ne_nil, hwhole.all_digits⟩
  simp [hfits, bind, Option.bind]

/-- The port of a URL is read as the number that it was written for, if it has few enough digits.
The one that the scheme uses by itself is left out. -/
theorem readPort_portText {u : Url} (h : ∀ p, u.port = some p → IsPortSized p) (scheme : String) :
    readPort u.portText scheme =
      .ok (if defaultPort? scheme = u.port then none else u.port) := by
  unfold portText
  cases hport : u.port with
  | none =>
    rw [ite_self]
    rfl
  | some p =>
    have hne : (toString p).isEmpty = false := by
      rw [← Bool.not_eq_true, String.isEmpty_iff, ← String.toList_eq_nil_iff, Json.toList_toString]
      exact List.append_ne_nil_of_right_ne_nil _ Nat.toDigits_ne_nil
    have hfew : (Nat.toDigits 10 p.natAbs).length ≤ 4300 := h p hport
    simp only [readPort, hne, Bool.false_eq_true, if_false, integerDigits?_toString]
    rw [if_neg (Nat.not_lt.2 hfew), Json.ofSignedDigits_toDigits]

end Courier.Url
