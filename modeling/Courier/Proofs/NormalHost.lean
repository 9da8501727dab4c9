import Courier.Proofs.AsciiName
import Courier.Proofs.Host

/-!
# Hosts in their normal form

A host that is kept is an IPv6 address, or it has the characters that hosts keep
(`isNormalHost_of_encodeHost`). So it can be told from what stands around it in a URL. Encoding it
again gives it back in small letters, since the digits of its escapes may be capitals, unless it
looks like four numbers now and is no IPv4 address (`encodeHost_bracketedHost`). The latter does not
happen to a host that was written in ASCII (`isIpv4_of_looksNumeric`), but a full stop of another
script becomes one of ASCII when the host is encoded.
-/

namespace Courier

open Text

namespace Text

/-- What never needs an escape is in ASCII. -/
theorem toNat_lt_of_isUnreserved {c : Char} (h : isUnreserved c = true) : c.toNat < 0x80 := by
  have hmarks : ∀ m ∈ ['-', '.', '_', '~'], m.toNat < 0x80 := forall_mem_of_all (by decide)
  simp only [isUnreserved, Bool.or_eq_true, Bool.and_eq_true, decide_eq_true_eq,
    beq_iff_eq] at h
  rcases h with (((((⟨-, h⟩ | ⟨-, h⟩) | ⟨-, h⟩) | rfl) | rfl) | rfl) | rfl
  · exact Nat.lt_of_le_of_lt (show c.toNat ≤ 0x7A from h) (by decide)
  · exact Nat.lt_of_le_of_lt (show c.toNat ≤ 0x5A from h) (by decide)
  · exact Nat.lt_of_le_of_lt (show c.toNat ≤ 0x39 from h) (by decide)
  all_goals exact hmarks _ (by simp)

/-- Escapes are made of percent signs and digits. -/
theorem eq_percent_or_upperHexDigit_of_mem_percentChar {c d : Char} (h : d ∈ percentChar c) :
    d = '%' ∨ ∃ n < 16, d = upperHexDigit n := by
  obtain ⟨b, -, hd⟩ := List.mem_flatMap.1 h
  have hb : b.toNat < 256 := b.toNat_lt
  simp only [percentByte, List.mem_cons, List.not_mem_nil, or_false] at hd
  rcases hd with rfl | rfl | rfl
  · exact .inl rfl
  · exact .inr ⟨_, by omega, rfl⟩
  · exact .inr ⟨_, by omega, rfl⟩

end Text

namespace Url

/-- Whether a character may stand in a host: the host keeps it, and it is no capital beyond the
digits of escapes. -/
def IsHostChar (c : Char) : Prop :=
  (isUnreserved c || isHostSafe c) = true ∧ ¬('G' ≤ c ∧ c ≤ 'Z')

instance (c : Char) : Decidable (IsHostChar c) :=
  inferInstanceAs (Decidable ((isUnreserved c || isHostSafe c) = true ∧ ¬('G' ≤ c ∧ c ≤ 'Z')))

/-- Whether a host is in its normal form. An IPv6 address may have a zone, which is kept as it
is. -/
def IsNormalHost (host : String) : Prop :=
  (':' ∈ host.toList ∧ isIpv6 host.toList = true ∧
      ∀ c ∈ host.toList, c ∉ ['@', '/', '?', '#'] ∧ isControl c = false) ∨
    ∀ c ∈ host.toList, IsHostChar c

/-! ## Characters -/

/-- Characters of hosts are in ASCII. -/
theorem IsHostChar.toNat_lt {c : Char} (h : IsHostChar c) : c.toNat < 0x80 := by
  have hmarks : ∀ m ∈ "!$&'()*+,;=\"`\x7b\x7d%|\\".toList, m.toNat < 0x80 :=
    forall_mem_of_all (by decide)
  rcases Bool.or_eq_true_iff.1 h.1 with hc | hc
  · exact toNat_lt_of_isUnreserved hc
  · exact hmarks c (List.contains_iff_mem.1 hc)

/-- So a host of such characters is in ASCII. -/
theorem isAscii_of_isHostChar {cs : List Char} (h : ∀ c ∈ cs, IsHostChar c) :
    Domain.isAscii cs = true := by
  simp only [Domain.isAscii, List.all_eq_true, decide_eq_true_eq]
  exact fun c hc => (h c hc).toNat_lt

/-- In small letters, a character of hosts is one still. -/
theorem IsHostChar.lower {c : Char} (h : IsHostChar c) : IsHostChar (lowerAsciiChar c) := by
  have hall : ∀ n < 0x80, IsHostChar (Char.ofNat n) →
      IsHostChar (lowerAsciiChar (Char.ofNat n)) := by
    decide +kernel
  exact of_ascii (p := fun c => IsHostChar c → IsHostChar (lowerAsciiChar c)) hall h.toNat_lt h

/-- Characters of names may stand in hosts. -/
theorem isHostChar_of_isNameChar {c : Char} (h : Domain.IsNameChar c) : IsHostChar c := by
  have hall : ∀ n < 0x80, Domain.IsNameChar (Char.ofNat n) → IsHostChar (Char.ofNat n) := by
    decide +kernel
  exact of_ascii (p := fun c => Domain.IsNameChar c → IsHostChar c) hall
    (toNat_lt_of_isUnreserved h.1) h

/-- Escaping small letters gives characters of hosts. -/
theorem isHostChar_of_mem_percentQuote {cs : List Char} (hlower : ∀ c ∈ cs, lowerAsciiChar c = c)
    {c : Char} (hc : c ∈ percentQuote isHostSafe cs) : IsHostChar c := by
  have hpercent : isHostSafe '%' = true := by decide
  refine ⟨safe_of_mem_percentQuote hpercent hc, ?_⟩
  rw [percentQuote_eq_flatMap hpercent] at hc
  obtain ⟨d, hd, hc⟩ := List.mem_flatMap.1 hc
  unfold percentUnless at hc
  split at hc
  · obtain rfl := List.mem_singleton.1 hc
    rintro ⟨hlow, hhigh⟩
    exact (lowerAsciiChar_eq_self_iff c).1 (hlower c hd) ⟨Char.le_trans (by decide) hlow, hhigh⟩
  · rcases eq_percent_or_upperHexDigit_of_mem_percentChar hc with rfl | ⟨n, hn, rfl⟩
    · decide
    · have hdigits : ∀ n < 16, ¬('G' ≤ upperHexDigit n ∧ upperHexDigit n ≤ 'Z') := by decide
      exact hdigits n hn

/-! ## Addresses -/

/-- What looks like four numbers has digits and full stops. -/
theorem of_mem_of_looksNumeric {cs : List Char} (h : looksNumeric cs = true) {c : Char}
    (hc : c ∈ cs) : c = '.' ∨ Numeral.isDigit c = true := by
  by_cases hdot : c = '.'
  · exact .inl hdot
  · right
    obtain ⟨run, hrun, hin⟩ :=
      (mem_splitAtAll_iff (p := (· == '.'))).2 ⟨hc, beq_eq_false_iff_ne.2 hdot⟩
    simp only [looksNumeric, Bool.and_eq_true, List.all_eq_true] at h
    exact (h.2 run hrun).2 c hin

/-- An IPv4 address looks like four numbers. -/
theorem looksNumeric_of_isIpv4 {cs : List Char} (h : isIpv4 cs = true) :
    looksNumeric cs = true := by
  simp only [isIpv4, looksNumeric, Bool.and_eq_true, List.all_eq_true] at h ⊢
  refine ⟨h.1, fun run hrun => ?_⟩
  have hoctet := h.2 run hrun
  unfold octet? at hoctet
  split at hoctet
  · cases hoctet
  · rename_i hdigits
    simp only [Bool.or_eq_true, not_or, Bool.not_eq_true', Bool.not_eq_false] at hdigits
    exact ⟨by simpa using hdigits.1.1, List.all_eq_true.1 hdigits.1.2⟩

/-- An IPv4 address has digits and full stops. -/
theorem of_mem_of_isIpv4 {cs : List Char} (h : isIpv4 cs = true) {c : Char} (hc : c ∈ cs) :
    c = '.' ∨ Numeral.isDigit c = true :=
  of_mem_of_looksNumeric (looksNumeric_of_isIpv4 h) hc

/-- So it has characters of hosts. -/
theorem isHostChar_of_isIpv4 {cs : List Char} (h : isIpv4 cs = true) {c : Char} (hc : c ∈ cs) :
    IsHostChar c := by
  rcases of_mem_of_isIpv4 h hc with rfl | hdigit
  · decide
  · have hall : ∀ n < 0x80, Numeral.isDigit (Char.ofNat n) = true →
        IsHostChar (Char.ofNat n) := by
      decide +kernel
    have hsmall : c.toNat < 0x80 := by
      simp only [Numeral.isDigit, Bool.and_eq_true, decide_eq_true_eq] at hdigit
      exact Nat.lt_of_le_of_lt (show c.toNat ≤ 0x39 from hdigit.2) (by decide)
    exact of_ascii (p := fun c => Numeral.isDigit c = true → IsHostChar c) hall hsmall hdigit

/-- And it has no letters that small ones could differ from. -/
theorem lowerAscii_of_isIpv4 {s : String} (h : isIpv4 s.toList = true) : lowerAscii s = s := by
  rw [← String.toList_inj, toList_lowerAscii]
  refine (List.map_congr_left fun c hc => ?_).trans (List.map_id _)
  rcases of_mem_of_isIpv4 h hc with rfl | hdigit
  · decide
  · exact lowerAsciiChar_of_isDigit hdigit

/-- An IPv6 address has colons. -/
theorem mem_colon_of_isIpv6 {cs : List Char} (h : isIpv6 cs = true) : ':' ∈ cs := by
  by_contra hnone
  have haddress : ':' ∉ cs.takeWhile (· != '%') :=
    fun hin => hnone ((List.takeWhile_sublist _).mem hin)
  -- without colons there is one part, or two if it is dotted
  have hone : splitAtAll (· == ':') (cs.takeWhile (· != '%')) = [cs.takeWhile (· != '%')] := by
    rw [splitAtAll_eq_splitOnP, List.splitOnP_eq_singleton]
    intro c hc
    rw [beq_eq_false_iff_ne]
    rintro rfl
    exact haddress hc
  unfold isIpv6 at h
  simp only [hone] at h
  split at h <;> simp at h

/-! ## Encoding -/

/-- A host that is encoded is in its normal form, if it has nothing that ends it. -/
theorem isNormalHost_of_encodeHost {host encoded : String} (h : encodeHost host = .ok encoded)
    (hmarks : ∀ c ∈ host.toList, c ∉ ['@', '/', '?', '#'] ∧ isControl c = false) :
    IsNormalHost encoded := by
  unfold encodeHost at h
  simp only at h
  split at h
  · cases h
    exact .inr (by simp)
  · split at h
    · split at h
      · -- an IPv4 address
        rename_i haddress
        cases h
        exact .inr fun c hc => isHostChar_of_isIpv4 haddress hc
      · cases h
    · split at h
      · split at h
        · -- an IPv6 address, which is what stands between the brackets
          rename_i haddress
          obtain rfl := Except.ok.inj h
          left
          have hinside : ∀ c ∈ (host.toList.drop 1).dropLast, c ∈ host.toList :=
            fun c hc => List.mem_of_mem_drop (List.dropLast_subset _ hc)
          rw [String.toList_ofList]
          exact ⟨mem_colon_of_isIpv6 haddress, haddress, fun c hc => hmarks c (hinside c hc)⟩
        · cases h
      · split at h
        · -- a name in ASCII
          obtain rfl := Except.ok.inj h
          right
          intro c hc
          rw [String.toList_ofList] at hc
          refine isHostChar_of_mem_percentQuote (fun d hd => ?_) hc
          rw [toList_lowerAscii, List.mem_map] at hd
          obtain ⟨e, -, rfl⟩ := hd
          exact lowerAsciiChar_lowerAsciiChar e
        · split at h
          · rename_i name hname
            cases h
            exact .inr fun c hc => isHostChar_of_isNameChar
              (Domain.isNameChar_of_mem_toAscii? hname c hc)
          · cases h

/-- A host in its normal form is told from what stands around it. -/
theorem IsNormalHost.notMem {host : String} (h : IsNormalHost host) :
    '@' ∉ host.toList ∧ (':' ∉ host.toList → '[' ∉ host.toList) := by
  rcases h with ⟨hcolon, -, hmarks⟩ | hchars
  · exact ⟨fun hat => absurd (hmarks '@' hat).1 (by decide), fun hno => absurd hcolon hno⟩
  · exact ⟨fun hat => absurd (hchars '@' hat) (by decide),
      fun _ hbracket => absurd (hchars '[' hbracket) (by decide)⟩

/-- A host in ASCII looks like four numbers only if it is an IPv4 address, which it was before it was
encoded. -/
theorem isIpv4_of_looksNumeric {host encoded : String} (h : encodeHost host = .ok encoded)
    (hascii : Domain.isAscii host.toList = true) (hlooks : looksNumeric encoded.toList = true) :
    isIpv4 encoded.toList = true := by
  have hchars : ∀ c ∈ encoded.toList, c = '.' ∨ Numeral.isDigit c = true :=
    fun c hc => of_mem_of_looksNumeric hlooks hc
  unfold encodeHost at h
  simp only at h
  split at h
  · cases h
    cases hlooks
  · split at h
    · split at h
      · rename_i haddress
        cases h
        exact haddress
      · cases h
    · rename_i hnumeric
      split at h
      · split at h
        · -- an IPv6 address has colons
          rename_i haddress
          obtain rfl := Except.ok.inj h
          rw [String.toList_ofList] at hchars
          exact absurd (hchars ':' (mem_colon_of_isIpv6 haddress)) (by decide)
        · cases h
      · -- nothing was escaped, since there are no percent signs, and no letter was made small
        obtain rfl := Except.ok.inj h
        rw [String.toList_ofList] at hchars
        have hnone : '%' ∉ percentQuote isHostSafe (lowerAscii host).toList :=
          fun hin => absurd (hchars '%' hin) (by decide)
        rw [String.toList_ofList, percentQuote_of_percent_notMem (by decide) hnone] at hlooks
        have hsame : (lowerAscii host).toList = host.toList := by
          have hsmall : ∀ n < 0x80, (lowerAsciiChar (Char.ofNat n) = '.' ∨
              Numeral.isDigit (lowerAsciiChar (Char.ofNat n)) = true) →
              lowerAsciiChar (Char.ofNat n) = Char.ofNat n := by
            decide +kernel
          rw [toList_lowerAscii]
          refine (List.map_congr_left fun c hc => ?_).trans (List.map_id _)
          have hcascii : c.toNat < 0x80 := of_decide_eq_true (List.all_eq_true.1 hascii c hc)
          have hlower : lowerAsciiChar c ∈ (lowerAscii host).toList := by
            rw [toList_lowerAscii]
            exact List.mem_map_of_mem hc
          exact of_ascii (p := fun c => (lowerAsciiChar c = '.' ∨
            Numeral.isDigit (lowerAsciiChar c) = true) → lowerAsciiChar c = c) hsmall hcascii
            (of_mem_of_looksNumeric hlooks hlower)
        rw [hsame] at hlooks
        exact absurd hlooks hnumeric

/-- Whether the host of a URL looks like four numbers, but is no address. -/
def looksLikeAddress (u : Url) : Bool :=
  looksNumeric u.bracketedHost.toList && !isIpv4 u.bracketedHost.toList

/-- A host in its normal form, encoded again as it stands in a URL. It is refused if it looks like
an address and is none. Otherwise an IPv6 address is kept, and any other host is put in small
letters. -/
theorem encodeHost_bracketedHost {u : Url} (h : IsNormalHost u.host) :
    encodeHost u.bracketedHost =
      if u.looksLikeAddress = true then .error (.ipv4 u.bracketedHost)
      else .ok (if ':' ∈ u.host.toList then u.host else lowerAscii u.host) := by
  rcases h with ⟨hcolon, haddress, -⟩ | hchars
  · have hhost := toList_bracketedHost_of_mem hcolon
    have hnumeric : looksNumeric ('[' :: u.host.toList ++ [']']) = false := by
      rw [← Bool.not_eq_true]
      intro hlooks
      exact absurd (of_mem_of_looksNumeric hlooks List.mem_cons_self) (by decide)
    have hlast : ('[' :: u.host.toList ++ [']']).getLast? = some ']' := List.getLast?_concat
    have hinside : (('[' :: u.host.toList ++ [']']).drop 1).dropLast = u.host.toList :=
      List.dropLast_concat
    unfold encodeHost looksLikeAddress
    simp only [hhost, hnumeric, hlast, hinside]
    simp [haddress, hcolon]
  · have hcolon : ':' ∉ u.host.toList := fun hin => absurd (hchars ':' hin) (by decide)
    have hhost := bracketedHost_of_notMem hcolon
    unfold encodeHost looksLikeAddress
    rw [hhost, if_neg hcolon]
    simp only
    split
    · -- the empty host
      rename_i hempty
      rw [List.isEmpty_iff, String.toList_eq_nil_iff] at hempty
      rw [hempty]
      rfl
    · cases hnumeric : looksNumeric u.host.toList with
      | true =>
        cases haddress : isIpv4 u.host.toList with
        | true => simp [lowerAscii_of_isIpv4 haddress]
        | false => simp
      | false =>
        have hbracket : u.host.toList.head? ≠ some '[' := fun hhead =>
          absurd (hchars '[' (List.mem_of_head? hhead)) (by decide)
        have hascii := isAscii_of_isHostChar hchars
        have hkept : percentQuote isHostSafe (lowerAscii u.host).toList =
            (lowerAscii u.host).toList := by
          refine percentQuote_of_safe (by decide) fun c hc => ?_
          rw [toList_lowerAscii, List.mem_map] at hc
          obtain ⟨d, hd, rfl⟩ := hc
          exact (hchars d hd).lower.1
        simp [hbracket, hascii, hkept]

end Url

end Courier
