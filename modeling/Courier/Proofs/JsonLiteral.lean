import Courier.Proofs.JsonReader

/-!
# Strings, numbers and words of a JSON text

What a JSON text is made of besides its brackets, as it is written: the parts of a string with their
escapes, and the sign, the digits and the exponent of a number. Only well-formed parts can be put
together. They are read as their values up to where they end (`stringBody_pieceSource`,
`value_literal`), and what is read is made of them (`exists_pieces`, `exists_literal_of_number`,
`exists_literal_of_word?`).
-/

namespace Courier.Json

open Numeral (isDigit)

/-! ## Parts -/

/-- A part of a string. -/
inductive Piece where
  /-- A character that stands for itself. -/
  | plain (c : Char) (h : 0x20 ≤ c.toNat ∧ c ≠ '"' ∧ c ≠ '\\')
  /-- An escape by a letter. -/
  | short (e : Char) (h : (shortEscape? e).isSome = true)
  /-- An escape by four digits. -/
  | code (a b c d : Char) (h : ([a, b, c, d].all fun x => (Text.hexDigit? x).isSome) = true)

/-- How a part of a string is written. -/
def Piece.source : Piece → List Char
  | plain c _ => [c]
  | short e _ => ['\\', e]
  | code a b c d _ => ['\\', 'u', a, b, c, d]

/-- The code unit that a part of a string stands for. -/
def Piece.codeUnit : Piece → Nat
  | plain c _ => c.toNat
  | short e h => (shortEscape? e).get h
  | code a b c d _ => Text.hexValue [a, b, c, d]

/-- How the parts of a string are written. -/
def pieceSource (ps : List Piece) : List Char := ps.flatMap Piece.source

/-- How a string is written. -/
def stringSource (ps : List Piece) : List Char := '"' :: pieceSource ps ++ ['"']

/-- The value of a string. -/
def pieceValue (ps : List Piece) : Data := Data.ofCodes (joinPairs (ps.map Piece.codeUnit))

/-- Digits without a needless zero in front. -/
structure IsWhole (digits : List Char) : Prop where
  all_digits : ∀ c ∈ digits, isDigit c = true
  ne_nil : digits ≠ []
  eq_zero : digits.head? = some '0' → digits = ['0']

/-- An exponent, with a minus sign, a plus sign or none. -/
structure Exponent where
  mark : Char
  sign : Option Bool
  digits : List Char
  isMark : mark = 'e' ∨ mark = 'E'
  all_digits : ∀ c ∈ digits, isDigit c = true
  ne_nil : digits ≠ []

/-- How a sign is written. -/
def signSource (negative : Bool) : List Char := if negative then ['-'] else []

/-- How the sign of an exponent is written. -/
def exponentSign : Option Bool → List Char
  | none => []
  | some negative => [if negative then '-' else '+']

/-- How an exponent is written. -/
def Exponent.source (e : Exponent) : List Char := e.mark :: (exponentSign e.sign ++ e.digits)

/-- The number of an exponent. -/
def Exponent.value (e : Exponent) : Int :=
  if e.sign = some true then -Numeral.exponentValue e.digits else Numeral.exponentValue e.digits

/-- A word or a number. A double has a fraction or an exponent. -/
inductive Literal where
  | word (w : String) (v : Data) (h : (w, v) ∈ words)
  | integer (negative : Bool) (digits : List Char) (h : IsWhole digits)
    (hsize : digits.length ≤ maxDigits)
  | double (negative : Bool) (digits fraction : List Char) (exponent : Option Exponent)
    (h : IsWhole digits) (hfraction : ∀ c ∈ fraction, isDigit c = true)
    (hdouble : fraction ≠ [] ∨ exponent.isSome = true)

/-- How a fraction is written. -/
def fractionSource (fraction : List Char) : List Char :=
  if fraction.isEmpty then [] else '.' :: fraction

/-- How an exponent is written, if there is one. -/
def exponentSource (e : Option Exponent) : List Char := (e.map Exponent.source).getD []

/-- How a literal is written. -/
def Literal.source : Literal → List Char
  | word w _ _ => w.toList
  | integer negative digits _ _ => signSource negative ++ digits
  | double negative digits fraction e _ _ _ =>
    signSource negative ++ digits ++ fractionSource fraction ++ exponentSource e

/-- The value of a literal. -/
def Literal.value : Literal → Data
  | word _ v _ => v
  | integer negative digits _ _ => .int (Numeral.ofSignedDigits negative digits)
  | double negative digits fraction e _ _ _ =>
    .float (Numeral.Decimal.toDouble ⟨negative, digits, fraction, (e.map Exponent.value).getD 0⟩)

/-! ## Strings -/

/-- The digits of an escape are summed up in pairs. -/
theorem hexValue_four (a b c d : Char) :
    Text.hexValue [a, b, c, d] =
      (((Text.hexDigit? a).getD 0 * 16 + (Text.hexDigit? b).getD 0) * 256 +
        (Text.hexDigit? c).getD 0 * 16 + (Text.hexDigit? d).getD 0) := by
  simp only [Text.hexValue, List.foldl_cons, List.foldl_nil]
  omega

/-- The parts of a string are read one by one. -/
theorem stringUnits_piece (p : Piece) (cs : List Char) :
    stringUnits (p.source ++ cs) =
      (stringUnits cs).map fun found => (p.codeUnit :: found.1, found.2) := by
  cases p with
  | plain c h =>
    obtain ⟨hlow, hquote, hslash⟩ := h
    have hplain : ¬ (c.toNat < 0x20 ∨ c = '\\') := by
      simp [hslash, hlow]
    show stringUnits (c :: cs) = _
    rw [stringUnits.eq_5 c cs (fun h => hquote h) (fun _ _ _ _ _ h => (hslash h).elim)
      (fun _ _ h => (hslash h).elim), if_neg hplain]
    cases stringUnits cs <;> rfl
  | short e h =>
    obtain ⟨n, hn⟩ := Option.isSome_iff_exists.1 h
    have hletter : e ≠ 'u' := by
      rintro rfl
      cases h
    show stringUnits ('\\' :: e :: cs) = _
    rw [stringUnits.eq_4 e cs (fun _ _ _ _ _ h => (hletter h).elim)]
    simp only [Piece.codeUnit, hn, Option.get_some]
    cases stringUnits cs <;> rfl
  | code a b c d h =>
    simp only [List.all_cons, List.all_nil, Bool.and_true, Bool.and_eq_true,
      Option.isSome_iff_exists] at h
    obtain ⟨⟨x, hx⟩, ⟨y, hy⟩, ⟨z, hz⟩, ⟨w, hw⟩⟩ := h
    show stringUnits ('\\' :: 'u' :: a :: b :: c :: d :: cs) = _
    rw [stringUnits.eq_3]
    simp only [Piece.codeUnit, hexValue_four, hx, hy, hz, hw, Option.getD_some]
    cases stringUnits cs <;> rfl

/-- A string is written part by part. -/
theorem pieceSource_cons (p : Piece) (ps : List Piece) :
    pieceSource (p :: ps) = p.source ++ pieceSource ps := List.flatMap_cons

/-- A string is read up to its closing quote. -/
theorem stringBody_pieceSource (ps : List Piece) (r : List Char) :
    stringBody (pieceSource ps ++ '"' :: r) = .ok (pieceValue ps, r) := by
  have hunits : stringUnits (pieceSource ps ++ '"' :: r) = some (ps.map Piece.codeUnit, r) := by
    induction ps with
    | nil => rfl
    | cons p ps ih =>
      rw [pieceSource_cons, List.append_assoc, stringUnits_piece, ih]
      rfl
  rw [stringBody, hunits]
  rfl

/-- What is read after a first part is read behind that part. -/
theorem exists_pieces_cons (p : Piece) {cs r : List Char} {us : List Nat}
    (h : ∃ ps : List Piece, cs = pieceSource ps ++ '"' :: r ∧ ps.map Piece.codeUnit = us) :
    ∃ ps : List Piece, p.source ++ cs = pieceSource ps ++ '"' :: r ∧
      ps.map Piece.codeUnit = p.codeUnit :: us := by
  obtain ⟨ps, rfl, rfl⟩ := h
  exact ⟨p :: ps, by rw [pieceSource_cons, List.append_assoc], rfl⟩

/-- What is read as a string is made of parts. -/
theorem exists_pieces {cs r : List Char} {us : List Nat} (h : stringUnits cs = some (us, r)) :
    ∃ ps : List Piece, cs = pieceSource ps ++ '"' :: r ∧ ps.map Piece.codeUnit = us := by
  fun_induction stringUnits cs generalizing us with
  | case1 => cases h
  | case2 => cases h; exact ⟨[], rfl, rfl⟩
  | case3 a b c d cs ih =>
    simp only [bind, Option.bind_eq_some_iff, Option.some.injEq, Prod.mk.injEq, Prod.exists] at h
    obtain ⟨x, hx, y, hy, z, hz, w, hw, us, r, hrest, rfl, rfl⟩ := h
    have hdigits : ([a, b, c, d].all fun x => (Text.hexDigit? x).isSome) = true := by
      simp [hx, hy, hz, hw]
    have hcons := exists_pieces_cons (.code a b c d hdigits) (ih hrest)
    simpa only [Piece.source, Piece.codeUnit, hexValue_four, hx, hy, hz, hw, Option.getD_some,
      List.cons_append, List.nil_append] using hcons
  | case4 e cs _ ih =>
    simp only [bind, Option.bind_eq_some_iff, Option.some.injEq, Prod.mk.injEq, Prod.exists] at h
    obtain ⟨n, hn, us, r, hrest, rfl, rfl⟩ := h
    have hcons := exists_pieces_cons (.short e (by rw [hn]; rfl)) (ih hrest)
    simpa only [Piece.source, Piece.codeUnit, hn, Option.get_some, List.cons_append,
      List.nil_append] using hcons
  | case5 => cases h
  | case6 c cs hquote _ _ hplain ih =>
    simp only [bind, Option.bind_eq_some_iff, Option.some.injEq, Prod.mk.injEq, Prod.exists] at h
    obtain ⟨us, r, hrest, rfl, rfl⟩ := h
    rw [not_or, Nat.not_lt] at hplain
    exact exists_pieces_cons (.plain c ⟨hplain.1, hquote, hplain.2⟩) (ih hrest)

/-- What is read as a string and its value. -/
theorem exists_pieces_of_stringBody {cs r : List Char} {v : Data} (h : stringBody cs = .ok (v, r)) :
    ∃ ps : List Piece, cs = pieceSource ps ++ '"' :: r ∧ pieceValue ps = v := by
  unfold stringBody at h
  split at h
  · rename_i us r' hunits
    cases h
    obtain ⟨ps, hcs, rfl⟩ := exists_pieces hunits
    exact ⟨ps, hcs, rfl⟩
  · cases h

/-! ## Numbers -/

/-- What may follow a literal: white space, a comma or a closing bracket. -/
def Ends (r : List Char) : Prop :=
  ∀ c ∈ r.head?, isSpace c = true ∨ c ∈ [',', ']', '\x7d']

/-- A fraction behind whole digits, and what follows it. -/
def takeFraction (cs : List Char) : List Char × List Char :=
  match cs with
  | '.' :: t =>
    let ds := t.takeWhile isDigit
    if ds.isEmpty then ([], cs) else (ds, t.drop ds.length)
  | _ => ([], cs)

/-- A sign is taken off, if there is one. -/
theorem eq_signSource_append_takeSign (cs : List Char) :
    cs = signSource (Numeral.takeSign false cs).1 ++ (Numeral.takeSign false cs).2 := by
  unfold Numeral.takeSign
  split <;> rfl

/-- Characters that satisfy `p` are taken up to one that does not. -/
theorem takeWhile_append_head {p : Char → Bool} {cs t : List Char} (h : ∀ c ∈ cs, p c = true)
    (ht : ∀ c ∈ t.head?, p c = false) :
    (cs ++ t).takeWhile p = cs ∧ (cs ++ t).dropWhile p = t := by
  rw [List.takeWhile_append_of_pos h, List.dropWhile_append_of_pos h]
  cases t with
  | nil => simp
  | cons c t =>
    have hc := ht c rfl
    simp [hc]

/-- A sign before a digit is taken off. -/
theorem takeSign_signSource (plus negative : Bool) {cs : List Char}
    (h : ∃ c ∈ cs.head?, isDigit c = true) :
    Numeral.takeSign plus (signSource negative ++ cs) = (negative, cs) := by
  obtain ⟨c, hc, hdigit⟩ := h
  obtain ⟨r, rfl⟩ := List.head?_eq_some_iff.1 hc
  cases negative with
  | true => rfl
  | false =>
    have hminus : c ≠ '-' := by
      rintro rfl
      cases hdigit
    have hplus : c ≠ '+' := by
      rintro rfl
      cases hdigit
    show Numeral.takeSign plus (c :: r) = _
    unfold Numeral.takeSign
    split
    · rename_i heq
      exact (hminus (List.cons.inj heq).1).elim
    · rename_i heq
      exact (hplus (List.cons.inj heq).1).elim
    · rfl

/-- The first of whole digits is a digit. -/
theorem IsWhole.head {digits : List Char} (h : IsWhole digits) (t : List Char) :
    ∃ c ∈ (digits ++ t).head?, isDigit c = true := by
  obtain ⟨c, r, rfl⟩ := List.exists_cons_of_ne_nil h.ne_nil
  exact ⟨c, rfl, h.all_digits c List.mem_cons_self⟩

/-- A number is its sign, its whole digits and what follows them. -/
theorem number_eq_numberFrom {negative : Bool} {digits t : List Char}
    (h : IsWhole digits) (ht : ∀ c ∈ t.head?, isDigit c = false) :
    number (signSource negative ++ digits ++ t) =
      numberFrom negative digits (takeFraction t).1 (takeFraction t).2 := by
  have hwhole : (if digits.head? = some '0' then ['0'] else digits) = digits := by
    split
    · rename_i hzero
      exact (h.eq_zero hzero).symm
    · rfl
  have hne : digits.isEmpty = false := List.isEmpty_eq_false_iff.2 h.ne_nil
  unfold number
  rw [List.append_assoc, takeSign_signSource false negative (h.head t)]
  simp only [(takeWhile_append_head h.all_digits ht).1, hwhole, List.drop_left, hne,
    Bool.false_eq_true, if_false]
  rfl

/-- Of some digits, those that are read as the whole ones: a zero in front stands alone. -/
theorem exists_isWhole {run : List Char} (hrun : ∀ c ∈ run, isDigit c = true)
    (hne : (if run.head? = some '0' then ['0'] else run).isEmpty ≠ true) :
    IsWhole (if run.head? = some '0' then ['0'] else run) ∧
      (if run.head? = some '0' then ['0'] else run) <+: run := by
  by_cases hzero : run.head? = some '0'
  · obtain ⟨t, rfl⟩ := List.head?_eq_some_iff.1 hzero
    simp only [List.head?_cons, if_true]
    exact ⟨⟨by simp [isDigit], List.cons_ne_nil _ _, fun _ => rfl⟩, t, rfl⟩
  · rw [if_neg hzero] at hne ⊢
    exact ⟨⟨hrun, by simpa using hne, fun h => (hzero h).elim⟩, List.prefix_rfl⟩

/-- A number that is read is its sign, its whole digits and what follows them. -/
theorem exists_isWhole_of_number {cs r : List Char} {v : Data} (h : number cs = .ok (v, r)) :
    ∃ (negative : Bool) (digits t : List Char), IsWhole digits ∧
      cs = signSource negative ++ digits ++ t ∧
      numberFrom negative digits (takeFraction t).1 (takeFraction t).2 = .ok (v, r) := by
  unfold number at h
  simp only at h
  have hcs := eq_signSource_append_takeSign cs
  generalize (Numeral.takeSign false cs).1 = negative at h hcs
  generalize (Numeral.takeSign false cs).2 = body at h hcs
  have hall : ∀ c ∈ body.takeWhile isDigit, isDigit c = true :=
    List.all_eq_true.1 List.all_takeWhile
  have hwhole := exists_isWhole hall
  generalize (if (body.takeWhile isDigit).head? = some '0' then ['0']
    else body.takeWhile isDigit) = whole at h hwhole
  by_cases hempty : whole.isEmpty = true
  · rw [if_pos hempty] at h
    cases h
  · rw [if_neg hempty] at h
    obtain ⟨hdigits, hprefix⟩ := hwhole hempty
    obtain ⟨t, ht⟩ := hprefix.trans (List.takeWhile_prefix _)
    refine ⟨negative, whole, t, hdigits, ?_, ?_⟩
    · rw [hcs, List.append_assoc, ht]
    · rw [← ht, List.drop_left] at h
      exact h

/-- A fraction is taken where it is written. -/
theorem takeFraction_fractionSource {fraction t : List Char}
    (h : ∀ c ∈ fraction, isDigit c = true) (ht : ∀ c ∈ t.head?, isDigit c = false ∧ c ≠ '.') :
    takeFraction (fractionSource fraction ++ t) = (fraction, t) := by
  unfold fractionSource
  split
  · rename_i hempty
    rw [List.isEmpty_iff.1 hempty, List.nil_append]
    unfold takeFraction
    split
    · exact ((ht '.' rfl).2 rfl).elim
    · rfl
  · rename_i hne
    have htake := (takeWhile_append_head h fun c hc => (ht c hc).1).1
    show takeFraction ('.' :: (fraction ++ t)) = _
    simp only [takeFraction, htake, hne, Bool.false_eq_true, if_false, List.drop_left]

/-- What is taken as a fraction is written there. -/
theorem eq_fractionSource_append (cs : List Char) :
    cs = fractionSource (takeFraction cs).1 ++ (takeFraction cs).2 ∧
      ∀ c ∈ (takeFraction cs).1, isDigit c = true := by
  unfold takeFraction
  split
  · rename_i t
    simp only
    split
    · exact ⟨rfl, by simp⟩
    · rename_i hne
      refine ⟨?_, List.all_eq_true.1 List.all_takeWhile⟩
      have hsplit : t.takeWhile isDigit ++ t.drop (t.takeWhile isDigit).length = t :=
        List.prefix_iff_eq_append.1 (List.takeWhile_prefix _)
      simp only [fractionSource, hne, Bool.false_eq_true, if_false, List.cons_append, hsplit]
  · exact ⟨rfl, by simp⟩

/-- A sign before a digit is taken off, be it written or not. -/
theorem takeSign_exponentSign (sign : Option Bool) {cs : List Char}
    (h : ∃ c ∈ cs.head?, isDigit c = true) :
    Numeral.takeSign true (exponentSign sign ++ cs) = (sign == some true, cs) := by
  cases sign with
  | none => exact takeSign_signSource true false h
  | some negative => cases negative <;> rfl

/-- The sign of an exponent that is taken off. -/
theorem exists_exponentSign (cs : List Char) :
    ∃ sign : Option Bool, cs = exponentSign sign ++ (Numeral.takeSign true cs).2 ∧
      (Numeral.takeSign true cs).1 = (sign == some true) := by
  unfold Numeral.takeSign
  split
  · exact ⟨some true, rfl, rfl⟩
  · exact ⟨some false, rfl, rfl⟩
  · exact ⟨none, rfl, rfl⟩

/-- An exponent is taken where it is written. -/
theorem takeExponent_source (e : Exponent) {t : List Char}
    (ht : ∀ c ∈ t.head?, isDigit c = false) :
    Numeral.takeExponent (e.source ++ t) = some (e.value, t) := by
  obtain ⟨mark, sign, digits, hmark, hdigits, hne⟩ := e
  have hhead : ∃ c ∈ (digits ++ t).head?, isDigit c = true := by
    obtain ⟨c, r, rfl⟩ := List.exists_cons_of_ne_nil hne
    exact ⟨c, rfl, hdigits c List.mem_cons_self⟩
  have hempty : digits.isEmpty = false := List.isEmpty_eq_false_iff.2 hne
  obtain ⟨htake, hdrop⟩ := takeWhile_append_head hdigits ht
  show Numeral.takeExponent (mark :: (exponentSign sign ++ digits ++ t)) = _
  unfold Numeral.takeExponent
  simp only [hmark, if_true, List.append_assoc, takeSign_exponentSign sign hhead, htake, hdrop,
    hempty, Bool.false_eq_true, if_false, beq_iff_eq]
  rfl

/-- What is taken as an exponent is written there. -/
theorem exists_exponent {cs r : List Char} {n : Int} (h : Numeral.takeExponent cs = some (n, r)) :
    ∃ e : Exponent, cs = e.source ++ r ∧ e.value = n := by
  unfold Numeral.takeExponent at h
  split at h
  · rename_i mark t
    split at h
    · rename_i hmark
      obtain ⟨sign, ht, hsign⟩ := exists_exponentSign t
      simp only [hsign] at h
      generalize (Numeral.takeSign true t).2 = body at h ht
      split at h
      · cases h
      · rename_i hne
        cases h
        refine ⟨⟨mark, sign, body.takeWhile isDigit, hmark, List.all_eq_true.1 List.all_takeWhile,
          by simpa using hne⟩, ?_, ?_⟩
        · show mark :: t = mark :: (exponentSign sign ++ body.takeWhile isDigit ++ _)
          rw [List.append_assoc, List.takeWhile_append_dropWhile, ← ht]
        · simp only [Exponent.value, beq_iff_eq]
    · cases h
  · cases h

/-- No number goes on where one may end. -/
theorem Ends.head {r : List Char} (h : Ends r) :
    ∀ c ∈ r.head?, isDigit c = false ∧ c ≠ '.' ∧ ¬ (c = 'e' ∨ c = 'E') := by
  intro c hc
  obtain hspace | hmark := h c hc
  · simp only [isSpace, Bool.or_eq_true, beq_iff_eq, or_assoc] at hspace
    obtain rfl | rfl | rfl | rfl := hspace <;> decide
  · simp only [List.mem_cons, List.not_mem_nil, or_false] at hmark
    obtain rfl | rfl | rfl := hmark <;> decide

/-- An exponent behind a number is taken, if there is one. -/
theorem takeExponent_exponentSource (e : Option Exponent) {r : List Char} (hr : Ends r) :
    Numeral.takeExponent (exponentSource e ++ r) = e.map fun e => (e.value, r) := by
  cases e with
  | some e => exact takeExponent_source e fun c hc => (hr.head c hc).1
  | none =>
    show Numeral.takeExponent r = none
    unfold Numeral.takeExponent
    split
    · exact if_neg (hr.head _ rfl).2.2
    · rfl

/-- What follows the fraction of a number does not go on with it. -/
theorem head_exponentSource (e : Option Exponent) {r : List Char} (hr : Ends r) :
    ∀ c ∈ (exponentSource e ++ r).head?, isDigit c = false ∧ c ≠ '.' := by
  cases e with
  | none => exact fun c hc => ⟨(hr.head c hc).1, (hr.head c hc).2.1⟩
  | some e =>
    intro c hc
    have hmark : c = e.mark := (Option.some.inj hc).symm
    obtain h | h := e.isMark <;> rw [hmark, h] <;> decide

/-- What follows the whole digits of a number does not go on with them. -/
theorem head_fractionSource (fraction : List Char) {t : List Char}
    (ht : ∀ c ∈ t.head?, isDigit c = false ∧ c ≠ '.') :
    ∀ c ∈ (fractionSource fraction ++ t).head?, isDigit c = false := by
  unfold fractionSource
  split
  · exact fun c hc => (ht c hc).1
  · intro c hc
    cases hc
    rfl

/-- The parts of a number are read where they are written. -/
theorem number_source (negative : Bool) {digits fraction r : List Char} (e : Option Exponent)
    (h : IsWhole digits) (hfraction : ∀ c ∈ fraction, isDigit c = true) (hr : Ends r) :
    number (signSource negative ++ digits ++ (fractionSource fraction ++ (exponentSource e ++ r))) =
      numberFrom negative digits fraction (exponentSource e ++ r) := by
  have htail := head_exponentSource e hr
  rw [number_eq_numberFrom h (head_fractionSource fraction htail),
    takeFraction_fractionSource hfraction htail]

/-- A number is read up to where it may end. -/
theorem number_literal {l : Literal} (hl : ∀ w v h, l ≠ .word w v h) {r : List Char}
    (hr : Ends r) : number (l.source ++ r) = .ok (l.value, r) := by
  cases l with
  | word w v h => exact (hl w v h rfl).elim
  | integer negative digits h hsize =>
    have hread := number_source negative none h (List.forall_mem_nil _) hr
    rw [numberFrom, takeExponent_exponentSource none hr] at hread
    simp only [Nat.not_lt.2 hsize, Option.map_none, List.isEmpty_nil, if_true, if_false] at hread
    exact hread
  | double negative digits fraction e h hfraction hdouble =>
    have hread := number_source negative e h hfraction hr
    rw [numberFrom, takeExponent_exponentSource e hr] at hread
    simp only [Literal.source, List.append_assoc] at hread ⊢
    rw [hread]
    cases e with
    | some e => rfl
    | none =>
      have hne : fraction.isEmpty = false := by
        simpa using hdouble
      simp only [Option.map_none, hne]
      rfl

/-- A number that is read is written there. -/
theorem exists_literal_of_number {cs r : List Char} {v : Data} (h : number cs = .ok (v, r)) :
    ∃ l : Literal, cs = l.source ++ r ∧ l.value = v := by
  obtain ⟨negative, digits, t, hdigits, rfl, hfrom⟩ := exists_isWhole_of_number h
  obtain ⟨hfraction, hall⟩ := eq_fractionSource_append t
  generalize (takeFraction t).1 = fraction at hfrom hfraction hall
  generalize (takeFraction t).2 = u at hfrom hfraction
  subst hfraction
  unfold numberFrom at hfrom
  split at hfrom
  · rename_i n r' hexponent
    cases hfrom
    obtain ⟨e, rfl, rfl⟩ := exists_exponent hexponent
    exact ⟨.double negative digits fraction (some e) hdigits hall (.inr rfl),
      by simp [Literal.source, exponentSource], rfl⟩
  · split at hfrom
    · rename_i hempty
      split at hfrom
      · cases hfrom
      · rename_i hsize
        cases hfrom
        rw [List.isEmpty_iff] at hempty
        exact ⟨.integer negative digits hdigits (Nat.le_of_not_lt hsize),
          by simp [Literal.source, fractionSource, hempty], rfl⟩
    · rename_i hne
      cases hfrom
      exact ⟨.double negative digits fraction none hdigits hall (.inl (by simpa using hne)),
        by simp [Literal.source, exponentSource], rfl⟩

/-! ## Words -/

/-- A word is read whatever follows it. -/
theorem word?_append {w : String} {v : Data} (h : (w, v) ∈ words) (r : List Char) :
    word? (w.toList ++ r) = some (v, r) := by
  unfold words at h
  simp only [List.mem_cons, Prod.mk.injEq, List.not_mem_nil, or_false] at h
  obtain ⟨rfl, rfl⟩ | ⟨rfl, rfl⟩ | ⟨rfl, rfl⟩ | ⟨rfl, rfl⟩ | ⟨rfl, rfl⟩ | ⟨rfl, rfl⟩ := h <;> rfl

/-- A word that is read is written there. -/
theorem exists_literal_of_word? {cs r : List Char} {v : Data} (h : word? cs = some (v, r)) :
    ∃ l : Literal, cs = l.source ++ r ∧ l.value = v := by
  obtain ⟨⟨w, v'⟩, hw, hfound⟩ := List.exists_of_findSome?_eq_some h
  simp only at hfound
  split at hfound
  · rename_i hprefix
    cases hfound
    obtain ⟨t, rfl⟩ := List.isPrefixOf_iff_prefix.1 hprefix
    exact ⟨.word w v hw, by rw [← String.length_toList, List.drop_left]; rfl, rfl⟩
  · cases hfound

/-- A word begins with a letter, or with a sign and a letter. -/
theorem exists_head_word {w : String} {v : Data} (h : (w, v) ∈ words) (u : List Char) :
    ∃ d, (w.toList ++ u)[0]? = some d ∧ isDigit d = false ∧
      (d = '-' → (w.toList ++ u)[1]? = some 'I') := by
  unfold words at h
  simp only [List.mem_cons, Prod.mk.injEq, List.not_mem_nil, or_false] at h
  obtain ⟨rfl, rfl⟩ | ⟨rfl, rfl⟩ | ⟨rfl, rfl⟩ | ⟨rfl, rfl⟩ | ⟨rfl, rfl⟩ | ⟨rfl, rfl⟩ := h
  case inr.inr.inr.inr.inr => exact ⟨_, rfl, rfl, fun _ => rfl⟩
  all_goals exact ⟨_, rfl, rfl, nofun⟩

/-- No word begins like a number. -/
theorem word?_number (negative : Bool) {digits : List Char} (h : IsWhole digits) (t : List Char) :
    word? (signSource negative ++ digits ++ t) = none := by
  obtain ⟨c, r, rfl⟩ := List.exists_cons_of_ne_nil h.ne_nil
  have hc := h.all_digits c List.mem_cons_self
  unfold word?
  rw [List.findSome?_eq_none_iff]
  rintro ⟨w, v⟩ hw
  refine if_neg fun hprefix => ?_
  obtain ⟨u, hu⟩ := List.isPrefixOf_iff_prefix.1 hprefix
  obtain ⟨d, hfirst, hd, hsecond⟩ := exists_head_word hw u
  rw [hu] at hfirst hsecond
  cases negative with
  | true =>
    cases hfirst
    cases hsecond rfl
    cases hc
  | false =>
    cases hfirst
    cases hc.symm.trans hd

/-! ## Values -/

/-- What begins neither a string nor a collection is a word or a number. -/
theorem value_of_head (fuel : Nat) {c : Char} {t : List Char}
    (hc : c ≠ '"' ∧ c ≠ '[' ∧ c ≠ '\x7b') :
    value (fuel + 1) (c :: t) =
      match word? (c :: t) with
      | some found => .ok found
      | none => number (c :: t) := by
  unfold value
  split
  · rename_i heq
    exact (hc.1 (List.cons.inj heq).1).elim
  · rename_i heq
    exact (hc.2.1 (List.cons.inj heq).1).elim
  · rename_i heq
    exact (hc.2.2 (List.cons.inj heq).1).elim
  · rfl

/-- The first character of a literal is a letter, a sign or a digit. -/
def isLiteralHead (c : Char) : Bool :=
  isDigit c || ['-', 'n', 't', 'f', 'N', 'I'].contains c

/-- A literal begins with a letter, a sign or a digit. -/
theorem Literal.exists_head (l : Literal) :
    ∃ c t, l.source = c :: t ∧ isLiteralHead c = true := by
  have hnumber : ∀ (negative : Bool) {digits : List Char} (t : List Char), IsWhole digits →
      ∃ c u, signSource negative ++ (digits ++ t) = c :: u ∧ isLiteralHead c = true := by
    intro negative digits t h
    cases negative with
    | true => exact ⟨'-', digits ++ t, rfl, rfl⟩
    | false =>
      obtain ⟨c, r, rfl⟩ := List.exists_cons_of_ne_nil h.ne_nil
      exact ⟨c, r ++ t, rfl, by rw [isLiteralHead, h.all_digits c List.mem_cons_self]; rfl⟩
  cases l with
  | word w v h =>
    unfold words at h
    simp only [List.mem_cons, Prod.mk.injEq, List.not_mem_nil, or_false] at h
    obtain ⟨rfl, rfl⟩ | ⟨rfl, rfl⟩ | ⟨rfl, rfl⟩ | ⟨rfl, rfl⟩ | ⟨rfl, rfl⟩ | ⟨rfl, rfl⟩ := h <;>
      exact ⟨_, _, rfl, rfl⟩
  | integer negative digits h _ => simpa [Literal.source] using hnumber negative [] h
  | double negative digits fraction e h _ _ =>
    simpa [Literal.source] using hnumber negative (fractionSource fraction ++ exponentSource e) h

/-- A literal is read up to where it may end. -/
theorem value_literal (fuel : Nat) (l : Literal) {r : List Char} (hr : Ends r) :
    value (fuel + 1) (l.source ++ r) = .ok (l.value, r) := by
  obtain ⟨c, t, hsource, hc⟩ := l.exists_head
  have hhead : c ≠ '"' ∧ c ≠ '[' ∧ c ≠ '\x7b' := by
    refine ⟨?_, ?_, ?_⟩ <;> rintro rfl <;> cases hc
  have hvalue := value_of_head fuel (t := t ++ r) hhead
  rw [← List.cons_append, ← hsource] at hvalue
  rw [hvalue]
  cases l with
  | word w v h =>
    rw [Literal.source, word?_append h]
    rfl
  | integer negative digits h hsize =>
    rw [Literal.source, word?_number negative h]
    exact number_literal (l := .integer negative digits h hsize) (by simp) hr
  | double negative digits fraction e h hfraction hdouble =>
    have hword := word?_number negative h (fractionSource fraction ++ exponentSource e ++ r)
    simp only [List.append_assoc] at hword
    simp only [Literal.source, List.append_assoc, hword]
    have hnumber := number_literal (l := .double negative digits fraction e h hfraction hdouble)
      (by simp) hr
    simpa only [Literal.source, List.append_assoc] using hnumber

end Courier.Json
