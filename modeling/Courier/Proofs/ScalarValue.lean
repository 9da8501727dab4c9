import Courier.Proofs.Charset
import Courier.Proofs.Numeral
import Courier.Proofs.PlainScalar
import Courier.Yaml.Value

/-!
# The values of plain scalars

A literal of JSON has the same value as a plain scalar (`scalarValue_literal`) if it is one of the
words for null and the truth values, an integer, or a double in the form of a number. Other doubles
are texts in YAML, as are the words for values that are no numbers.
-/

namespace Courier.Json

/-- Whether a literal has the same value in both languages. -/
def Literal.isSame : Literal → Bool
  | .word w _ _ => ["null", "true", "false"].contains w
  | .integer .. => true
  | .double _ _ fraction e _ _ _ => !fraction.isEmpty && e.all fun e => e.sign.isSome

end Courier.Json

namespace Courier.Yaml

open Json (Literal isNumberChar)
open Numeral (isDigit)

section Values

variable {digits t : List Char}

/-- A character of numbers is none that does not occur there. -/
theorem ne_of_isNumberChar {c d : Char} (hc : isNumberChar c = true) (hd : isNumberChar d = false) :
    c ≠ d := by
  rintro rfl
  cases hc.symm.trans hd

/-- Characters of numbers are read as they are. -/
theorem isKept_of_isNumberChar {c : Char} (h : isNumberChar c = true) : Numeral.IsKept c := by
  simp only [isNumberChar, Bool.or_eq_true, List.contains_iff_mem, List.mem_cons,
    List.not_mem_nil, or_false] at h
  obtain h | rfl | rfl | rfl | rfl | rfl := h
  · have hdigit := Numeral.toNat_of_isDigit h
    refine ⟨by omega, Numeral.isAsciiBlank_eq_false (by omega), ?_⟩
    rintro rfl
    cases h
  all_goals decide

/-- No underscores are among characters of numbers. -/
theorem dropBars_eq_self {cs : List Char} (h : ∀ c ∈ cs, isNumberChar c = true) :
    dropBars cs = cs :=
  List.filter_eq_self.2 fun c hc => bne_iff_ne.2 (ne_of_isNumberChar (h c hc) rfl)

/-- No colons are among characters of numbers. -/
theorem contains_colon {cs : List Char} (h : ∀ c ∈ cs, isNumberChar c = true) :
    cs.contains ':' = false := by
  rw [Bool.eq_false_iff]
  exact fun hc => ne_of_isNumberChar (h ':' (List.contains_iff_mem.1 hc)) rfl rfl

/-- The sign of a number is told from its digits. -/
theorem splitSign_signSource (negative : Bool) (h : Json.IsWhole digits) (t : List Char) :
    splitSign (Json.signSource negative ++ (digits ++ t)) = (negative, digits ++ t) := by
  rw [splitSign, dropSign_signSource negative h]
  cases negative with
  | true => rfl
  | false =>
    obtain ⟨c, r, rfl⟩ := List.exists_cons_of_ne_nil h.ne_nil
    have hminus : c ≠ '-' := ne_of_isDigit (h.all_digits c List.mem_cons_self) rfl
    simp [Json.signSource, hminus]

/-- A digit has its value in base ten. -/
theorem digitIn?_ten {c : Char} (h : isDigit c = true) :
    digitIn? 10 c = some (c.toNat - 48) := by
  simp only [isDigit, Bool.and_eq_true, decide_eq_true_eq] at h
  have hhigh : c.toNat ≤ 57 := h.2
  have hlt : c.toNat - 48 < 10 := by
    omega
  simp [digitIn?, Text.hexDigit?, h, Option.filter, hlt]

/-- Digits are summed up in base ten. -/
theorem foldl_digitIn? {digits : List Char} (h : ∀ c ∈ digits, isDigit c = true) (n : Nat) :
    digits.foldl (fun (n : Int) c => ((10 : Nat) : Int) * n + ((digitIn? 10 c).getD 0 : Nat)) n =
      (digits.foldl (fun n c => 10 * n + (c.toNat - 48)) n : Nat) := by
  induction digits generalizing n with
  | nil => rfl
  | cons c cs ih =>
    rw [List.forall_mem_cons] at h
    rw [List.foldl_cons, List.foldl_cons, ← ih h.2, digitIn?_ten h.1]
    push_cast
    rfl

/-- Whole digits, apart from zero, are read in base ten. -/
theorem integerIn_ten (h : Json.IsWhole digits) (hzero : digits.head? ≠ some '0')
    (hsize : digits.length ≤ maxDigits) :
    integerIn 10 digits = .ok (Numeral.ofDigits digits) := by
  have hkept : ∀ c ∈ digits, Numeral.IsKept c :=
    fun c hc => isKept_of_isNumberChar (Json.isNumberChar_of_digits h.all_digits c hc)
  have hhead := h.head []
  rw [List.append_nil] at hhead
  have hsign : Numeral.takeSign true digits = (false, digits) :=
    Json.takeSign_signSource true false hhead
  have hsome : (digits.all fun c => (digitIn? 10 c).isSome) = true :=
    List.all_eq_true.2 fun c hc => by rw [digitIn?_ten (h.all_digits c hc)]; rfl
  have hne : digits.isEmpty = false := List.isEmpty_eq_false_iff.2 h.ne_nil
  unfold integerIn
  simp only [Numeral.toAscii_eq_self hkept, Numeral.trimWhile_of_isKept hkept, hsign]
  split
  · rename_i heq
    exact (hzero rfl).elim
  · simp only [hne, hsome, Nat.not_lt.2 hsize, and_false, Bool.not_true, Bool.or_self,
      Bool.false_eq_true, if_false]
    exact congrArg Except.ok (foldl_digitIn? h.all_digits 0)

/-- An integer is read as itself. -/
theorem integer_source (negative : Bool) (h : Json.IsWhole digits)
    (hsize : digits.length ≤ maxDigits) :
    integer (String.ofList (Json.signSource negative ++ digits)) =
      .ok (Numeral.ofSignedDigits negative digits) := by
  have hchars := List.forall_mem_append.2 ⟨Json.isNumberChar_signSource negative,
    Json.isNumberChar_of_digits h.all_digits⟩
  have hsplit := splitSign_signSource negative h []
  rw [List.append_nil] at hsplit
  unfold integer
  rw [String.toList_ofList, dropBars_eq_self hchars]
  simp only [hsplit]
  by_cases hzero : digits.head? = some '0'
  · -- zero is settled without a base
    obtain rfl := h.eq_zero hzero
    cases negative <;> rfl
  · have hten := integerIn_ten h hzero hsize
    have hcolon := contains_colon (Json.isNumberChar_of_digits h.all_digits)
    split
    · exact (h.ne_nil rfl).elim
    · exact (hzero rfl).elim
    · exact (hzero rfl).elim
    · exact (hzero rfl).elim
    · exact (hzero rfl).elim
    · simp only [hcolon, hten, Bool.false_eq_true, if_false]
      rfl

/-- An exponent with a small letter. -/
def lowerMark (e : Json.Exponent) : Json.Exponent := { e with mark := 'e', isMark := .inl rfl }

/-- The lower case of characters of ASCII. -/
theorem lowerFrom_ascii {cs : List Char} (h : ∀ c ∈ cs, c.toNat < 0x80) (before : List Char) :
    Text.lowerFrom before cs = cs.map Text.lowerAsciiChar := by
  induction cs generalizing before with
  | nil => rfl
  | cons c cs ih =>
    rw [List.forall_mem_cons] at h
    rw [Text.lowerFrom_of_ascii h.1, ih h.2, List.map_cons]

/-- Digits stay in lower case. -/
theorem map_lowerAsciiChar_digits {cs : List Char} (h : ∀ c ∈ cs, isDigit c = true) :
    cs.map Text.lowerAsciiChar = cs := by
  rw [List.map_congr_left fun c hc => Text.lowerAsciiChar_of_isDigit (h c hc), List.map_id']

/-- A double in lower case. -/
theorem lower_double (negative : Bool) (h : Json.IsWhole digits) {fraction : List Char}
    (hfraction : ∀ c ∈ fraction, isDigit c = true) (e : Option Json.Exponent) :
    (Json.signSource negative ++ (digits ++ (Json.fractionSource fraction ++
      Json.exponentSource e))).map Text.lowerAsciiChar =
      Json.signSource negative ++ (digits ++ (Json.fractionSource fraction ++
        Json.exponentSource (e.map lowerMark))) := by
  have hsign : (Json.signSource negative).map Text.lowerAsciiChar = Json.signSource negative := by
    cases negative <;> rfl
  have hpoint : (Json.fractionSource fraction).map Text.lowerAsciiChar =
      Json.fractionSource fraction := by
    unfold Json.fractionSource
    split
    · rfl
    · rw [List.map_cons, map_lowerAsciiChar_digits hfraction]
      rfl
  have hexponent : (Json.exponentSource e).map Text.lowerAsciiChar =
      Json.exponentSource (e.map lowerMark) := by
    cases e with
    | none => rfl
    | some e =>
      have hmark : Text.lowerAsciiChar e.mark = 'e' := by
        obtain hm | hm := e.isMark <;> rw [hm] <;> rfl
      have hexponentSign : (Json.exponentSign e.sign).map Text.lowerAsciiChar =
          Json.exponentSign e.sign := by
        rcases e.sign with - | - | - <;> rfl
      show (e.mark :: (Json.exponentSign e.sign ++ e.digits)).map Text.lowerAsciiChar = _
      rw [List.map_cons, List.map_append, hmark, hexponentSign,
        map_lowerAsciiChar_digits e.all_digits]
      rfl
  rw [List.map_append, List.map_append, List.map_append, hsign,
    map_lowerAsciiChar_digits h.all_digits, hpoint, hexponent]

/-- Digits with a fraction and perhaps an exponent are a decimal. -/
theorem decimal?_source (h : Json.IsWhole digits) {fraction : List Char}
    (hfraction : ∀ c ∈ fraction, isDigit c = true) (hne : fraction ≠ [])
    (e : Option Json.Exponent) :
    Numeral.decimal? false (digits ++ (Json.fractionSource fraction ++ Json.exponentSource e)) =
      some ⟨false, digits, fraction, (e.map Json.Exponent.value).getD 0⟩ := by
  have hpoint : Json.fractionSource fraction = '.' :: fraction :=
    if_neg (by simpa using hne)
  have hends : Json.Ends [] := nofun
  have htail := Json.head_exponentSource e hends
  simp only [List.append_nil] at htail
  rw [hpoint, List.cons_append]
  obtain ⟨hwhole, hrest⟩ := Json.takeWhile_append_head h.all_digits
    (t := '.' :: (fraction ++ Json.exponentSource e)) (by rintro c ⟨⟩; rfl)
  obtain ⟨htake, hdrop⟩ := Json.takeWhile_append_head hfraction fun c hc => (htail c hc).1
  have hdigits : digits.isEmpty = false := List.isEmpty_eq_false_iff.2 h.ne_nil
  unfold Numeral.decimal?
  simp only [hwhole, hrest, htake, hdrop, hdigits, Bool.false_and, Bool.false_eq_true, if_false]
  cases e with
  | none => rfl
  | some e =>
    have hread := Json.takeExponent_source e (t := []) nofun
    have hsource : Json.exponentSource (some e) = e.source := rfl
    rw [List.append_nil] at hread
    simp only [hsource, hread]
    rfl

/-- A double without a sign is read as itself. -/
theorem floatPart_source (h : Json.IsWhole digits) {fraction : List Char}
    (hfraction : ∀ c ∈ fraction, isDigit c = true) (hne : fraction ≠ [])
    (e : Option Json.Exponent) :
    floatPart (digits ++ (Json.fractionSource fraction ++ Json.exponentSource e)) =
      .ok (Numeral.Decimal.toDouble
        ⟨false, digits, fraction, (e.map Json.Exponent.value).getD 0⟩) := by
  have hchars := List.forall_mem_append.2 ⟨Json.isNumberChar_of_digits h.all_digits,
    List.forall_mem_append.2 ⟨Json.isNumberChar_fractionSource hfraction,
      Json.isNumberChar_exponentSource e⟩⟩
  have hkept := fun c hc => isKept_of_isNumberChar (hchars c hc)
  have hdecimal := decimal?_source h hfraction hne e
  have hhead := h.head (Json.fractionSource fraction ++ Json.exponentSource e)
  generalize digits ++ (Json.fractionSource fraction ++ Json.exponentSource e) = body
    at hkept hdecimal hhead ⊢
  have hsign : Numeral.takeSign true body = (false, body) :=
    Json.takeSign_signSource true false hhead
  obtain ⟨c, hc, hdigit⟩ := hhead
  obtain ⟨t, rfl⟩ := List.head?_eq_some_iff.1 hc
  have hword : ∀ w : List Char, w.head?.any isDigit = false →
      (c :: t).map (fun c => if 'A' ≤ c ∧ c ≤ 'Z' then Char.ofNat (c.toNat + 32) else c) ≠ w := by
    rintro w hw rfl
    have hlower := Text.lowerAsciiChar_of_isDigit hdigit
    rw [Text.lowerAsciiChar] at hlower
    simp only [List.map_cons, List.head?_cons, Option.any_some, hlower] at hw
    cases hdigit.symm.trans hw
  unfold floatPart Numeral.double? Numeral.signedDouble?
  simp only [String.toList_ofList, Numeral.toAscii_eq_self hkept, Numeral.trimWhile_of_isKept hkept,
    Numeral.dropUnderscores_eq_self hkept, hsign, hdecimal, bind, Option.bind,
    hword "inf".toList (by decide), hword "infinity".toList (by decide),
    hword "nan".toList (by decide), or_self, if_false]
  rfl

/-- The sign of a quotient is the last thing to be counted. -/
theorem roundRatio_neg (num den : Nat) :
    (Double.roundRatio false num den).neg = Double.roundRatio true num den := by
  unfold Double.roundRatio
  simp only [apply_ite Double.neg]
  rfl

/-- The sign of a double is the last thing to be counted. -/
theorem toDouble_neg (digits fraction : List Char) (n : Int) :
    (Numeral.Decimal.toDouble ⟨false, digits, fraction, n⟩).neg =
      Numeral.Decimal.toDouble ⟨true, digits, fraction, n⟩ := by
  unfold Numeral.Decimal.toDouble Double.ofDecimal Double.ofScaled
  simp only [apply_ite Double.neg, roundRatio_neg]
  rfl

/-- A double is read as itself. -/
theorem float_source (negative : Bool) (h : Json.IsWhole digits) {fraction : List Char}
    (hfraction : ∀ c ∈ fraction, isDigit c = true) (hne : fraction ≠ [])
    (e : Option Json.Exponent) :
    float (String.ofList (Json.signSource negative ++ (digits ++ (Json.fractionSource fraction ++
      Json.exponentSource e)))) =
      .ok (Numeral.Decimal.toDouble
        ⟨negative, digits, fraction, (e.map Json.Exponent.value).getD 0⟩) := by
  have hchars := List.forall_mem_append.2 ⟨Json.isNumberChar_of_digits h.all_digits,
    List.forall_mem_append.2 ⟨Json.isNumberChar_fractionSource hfraction,
      Json.isNumberChar_exponentSource (e.map lowerMark)⟩⟩
  have hall := List.forall_mem_append.2 ⟨Json.isNumberChar_signSource negative,
    List.forall_mem_append.2 ⟨Json.isNumberChar_of_digits h.all_digits,
      List.forall_mem_append.2 ⟨Json.isNumberChar_fractionSource hfraction,
        Json.isNumberChar_exponentSource e⟩⟩⟩
  have hvalue : (e.map lowerMark).map Json.Exponent.value = e.map Json.Exponent.value := by
    rw [Option.map_map]
    rfl
  have hread := floatPart_source h hfraction hne (e.map lowerMark)
  rw [hvalue] at hread
  unfold float
  rw [String.toList_ofList, dropBars_eq_self hall, Text.lower, String.toList_ofList,
    String.toList_ofList, lowerFrom_ascii fun c hc => (isKept_of_isNumberChar (hall c hc)).1,
    lower_double negative h hfraction e]
  have hempty : (Json.signSource negative ++ (digits ++ (Json.fractionSource fraction ++
      Json.exponentSource (e.map lowerMark)))).isEmpty = false := by
    simp [h.ne_nil]
  have hword : ∀ w : List Char, w.head? = some '.' →
      digits ++ (Json.fractionSource fraction ++ Json.exponentSource (e.map lowerMark)) ≠ w := by
    rintro w hw rfl
    exact head_signSource false h _ hw
  simp only [splitSign_signSource negative h, hempty, hword ".inf".toList rfl,
    hword ".nan".toList rfl, contains_colon hchars, hread, Bool.false_eq_true, if_false]
  cases negative with
  | true => exact congrArg Except.ok (toDouble_neg _ _ _)
  | false => rfl

/-- The code points of characters stand for them. -/
theorem map_ofNat_codes (cs : List Char) : (codes cs).map Char.ofNat = cs := by
  simp [codes, List.map_map, Function.comp_def, Char.ofNat_toNat]

/-- The kind of a plain scalar is that of its characters. -/
theorem scalarTag_codes {cs : List Char} (hne : cs ≠ []) (hlast : cs.getLast? ≠ some '\n') :
    Node.scalarTag none true (codes cs) = Tag.ofForm cs := by
  have hwhole : (codes cs).any Text.isSurrogate = false := by
    rw [Bool.eq_false_iff]
    intro hany
    obtain ⟨n, hn, hsurrogate⟩ := List.any_eq_true.1 hany
    rw [Text.isSurrogate_of_mem_map hn] at hsurrogate
    cases hsurrogate
  have hempty : (String.ofList cs).isEmpty = false := by
    simpa using hne
  unfold Node.scalarTag Tag.ofPlain
  simp only [Option.isNone_none, Bool.and_self, Bool.true_or, if_true, hwhole, map_ofNat_codes,
    hempty, String.toList_ofList, dropLineFeed, hlast, Bool.false_eq_true, if_false]

/-- A number is no line feed at its end. -/
theorem getLast?_ne_of_isNumberChar {cs : List Char} (h : ∀ c ∈ cs, isNumberChar c = true) :
    cs.getLast? ≠ some '\n' := fun hlast =>
  ne_of_isNumberChar (h _ (List.mem_of_getLast? hlast)) rfl rfl

/-- A word is read by the kind of its form. -/
theorem scalarValue_word {w : String} (tag : Tag) {v : Except Error Data}
    (hw : w.toList ≠ [] ∧ w.toList.getLast? ≠ some '\n') (htag : Tag.ofForm w.toList = tag)
    (hv : scalarValue tag (codes w.toList) = v) :
    scalarValue (Node.scalarTag none true (codes w.toList)) (codes w.toList) = v := by
  rw [scalarTag_codes hw.1 hw.2, htag, hv]

/-- A literal that is the same in both languages is read as its value. -/
theorem scalarValue_literal (l : Literal) (h : l.isSame = true) :
    scalarValue (Node.scalarTag none true (codes l.source)) (codes l.source) = .ok l.value := by
  obtain ⟨c, t, hsource, -⟩ := l.exists_head
  have hne : l.source ≠ [] := by
    rw [hsource]
    exact List.cons_ne_nil c t
  cases l with
  | word w v hw =>
    unfold Json.words at hw
    simp only [List.mem_cons, Prod.mk.injEq, List.not_mem_nil, or_false] at hw
    obtain ⟨rfl, rfl⟩ | ⟨rfl, rfl⟩ | ⟨rfl, rfl⟩ | ⟨rfl, rfl⟩ | ⟨rfl, rfl⟩ | ⟨rfl, rfl⟩ := hw
    case inl => exact scalarValue_word .null (by decide) (by decide) rfl
    case inr.inl => exact scalarValue_word .bool (by decide) (by decide) rfl
    case inr.inr.inl => exact scalarValue_word .bool (by decide) (by decide) rfl
    all_goals cases h
  | integer negative digits hdigits hsize =>
    have hlast := getLast?_ne_of_isNumberChar
      (Json.isNumberChar_source (l := .integer negative digits hdigits hsize) (by simp))
    rw [scalarTag_codes hne hlast, Literal.source, ofForm_integer negative hdigits]
    simp only [scalarValue, map_ofNat_codes, integer_source negative hdigits hsize]
    rfl
  | double negative digits fraction e hdigits hfraction hdouble =>
    have hlast := getLast?_ne_of_isNumberChar (Json.isNumberChar_source
      (l := .double negative digits fraction e hdigits hfraction hdouble) (by simp))
    simp only [Literal.isSame, Bool.and_eq_true, Bool.not_eq_true', List.isEmpty_eq_false_iff] at h
    rw [scalarTag_codes hne hlast]
    simp only [Literal.source, List.append_assoc]
    rw [ofForm_double negative hdigits hfraction h.1 e h.2]
    simp only [scalarValue, map_ofNat_codes, float_source negative hdigits hfraction h.1 e]
    rfl

end Values

end Courier.Yaml
