import Courier.Proofs.JsonLiteral
import Courier.Proofs.YamlCursor
import Courier.Yaml.Scalar
import Courier.Yaml.Tag
import Mathlib.Data.List.TakeWhile

/-!
# JSON literals as plain scalars

A number or a word of JSON is a plain scalar of YAML up to the white space behind it
(`plainFrom_source`). Integers have the form of integers there. Doubles have the form of a number
only with a fraction and, if they have an exponent, a sign in that (`ofForm_double`).
-/

namespace Courier.Json

open Numeral (isDigit)

/-- Whether a character occurs in numbers. -/
def isNumberChar (c : Char) : Bool := isDigit c || ['-', '+', '.', 'e', 'E'].contains c

/-- A sign is written with characters of numbers. -/
theorem isNumberChar_signSource (negative : Bool) :
    ∀ c ∈ signSource negative, isNumberChar c = true := by
  cases negative <;> simp [signSource, isNumberChar]

/-- Digits are characters of numbers. -/
theorem isNumberChar_of_digits {digits : List Char} (h : ∀ c ∈ digits, isDigit c = true) :
    ∀ c ∈ digits, isNumberChar c = true := fun c hc => by
  rw [isNumberChar, h c hc]
  rfl

/-- A fraction is written with characters of numbers. -/
theorem isNumberChar_fractionSource {fraction : List Char}
    (h : ∀ c ∈ fraction, isDigit c = true) :
    ∀ c ∈ fractionSource fraction, isNumberChar c = true := by
  unfold fractionSource
  split
  · simp
  · exact List.forall_mem_cons.2 ⟨rfl, isNumberChar_of_digits h⟩

/-- An exponent is written with characters of numbers. -/
theorem isNumberChar_exponentSource (e : Option Exponent) :
    ∀ c ∈ exponentSource e, isNumberChar c = true := by
  cases e with
  | none => simp [exponentSource]
  | some e =>
    refine List.forall_mem_cons.2 ⟨?_, List.forall_mem_append.2
      ⟨?_, isNumberChar_of_digits e.all_digits⟩⟩
    · obtain h | h := e.isMark <;> rw [h] <;> rfl
    · cases e.sign with
      | none => simp [exponentSign]
      | some negative => cases negative <;> simp [exponentSign, isNumberChar]

/-- A number is written with characters of numbers. -/
theorem isNumberChar_source {l : Literal} (hl : ∀ w v h, l ≠ .word w v h) :
    ∀ c ∈ l.source, isNumberChar c = true := by
  cases l with
  | word w v h => exact (hl w v h rfl).elim
  | integer negative digits h _ =>
    exact List.forall_mem_append.2
      ⟨isNumberChar_signSource negative, isNumberChar_of_digits h.all_digits⟩
  | double negative digits fraction e h hfraction _ =>
    exact List.forall_mem_append.2 ⟨List.forall_mem_append.2 ⟨List.forall_mem_append.2
      ⟨isNumberChar_signSource negative, isNumberChar_of_digits h.all_digits⟩,
      isNumberChar_fractionSource hfraction⟩, isNumberChar_exponentSource e⟩

end Courier.Json

namespace Courier.Yaml

open Json (Literal isNumberChar)

/-! ## Reading -/

/-- Whether a character stands for itself anywhere in a plain scalar. -/
def isPlainChar (c : Char) : Bool :=
  !atBlank (some c) && c != ':' && !",?[]\x7b\x7d".toList.contains c && c != '#'

/-- Characters of numbers stand for themselves. -/
theorem isPlainChar_of_isNumberChar {c : Char} (h : isNumberChar c = true) :
    isPlainChar c = true := by
  have hne : ∀ x, isNumberChar x = false → c ≠ x := by
    rintro x hx rfl
    cases h.symm.trans hx
  have hmarks : ",?[]\x7b\x7d".toList = [',', '?', '[', ']', '\x7b', '\x7d'] := rfl
  simp [isPlainChar, atBlank, isBreak, hmarks, hne ' ' rfl, hne '\t' rfl, hne '\n' rfl,
    hne '\x85' rfl, hne '\u2028' rfl, hne '\u2029' rfl, hne ':' rfl, hne ',' rfl, hne '?' rfl,
    hne '[' rfl, hne ']' rfl, hne '\x7b' rfl, hne '\x7d' rfl, hne '#' rfl]

/-- A literal is written with characters that stand for themselves. -/
theorem isPlainChar_source (l : Literal) : ∀ c ∈ l.source, isPlainChar c = true := by
  cases l with
  | word w v h =>
    have hall : ∀ e ∈ Json.words, e.1.toList.all isPlainChar = true := by
      decide
    exact List.all_eq_true.1 (hall _ h)
  | integer negative digits h hsize =>
    exact fun c hc => isPlainChar_of_isNumberChar
      (Json.isNumberChar_source (l := .integer negative digits h hsize) (by simp) c hc)
  | double negative digits fraction e h hfraction hdouble =>
    exact fun c hc => isPlainChar_of_isNumberChar
      (Json.isNumberChar_source (l := .double negative digits fraction e h hfraction hdouble)
        (by simp) c hc)

/-- White space of a text whose line breaks are plain and that has no tabs. -/
def IsBlank (gap : List Char) : Prop := ∀ c ∈ gap, c = ' ' ∨ c = '\n'

/-- What ends an item or a member. -/
def isDelimiter (c : Char) : Bool := [',', ']', '\x7d'].contains c

/-- A delimiter is one of three. -/
theorem eq_of_isDelimiter {d : Char} (h : isDelimiter d = true) :
    d = ',' ∨ d = ']' ∨ d = '\x7d' := by
  simpa [isDelimiter] using h

section Space

variable {c : Cursor} {gap r : List Char} {d : Char}

/-- No document mark stands in white space before a delimiter. -/
theorem atDocumentMark_gap (hgap : IsBlank gap) (hd : isDelimiter d = true)
    (h : c.rest = gap ++ d :: r) : c.atDocumentMark = false := by
  have hhead : ∃ e t, c.rest = e :: t ∧ e ≠ '-' ∧ e ≠ '.' := by
    cases gap with
    | nil =>
      refine ⟨d, r, h, ?_⟩
      obtain rfl | rfl | rfl := eq_of_isDelimiter hd <;> decide
    | cons e gap =>
      refine ⟨e, _, h, ?_⟩
      obtain rfl | rfl := hgap e List.mem_cons_self <;> decide
  obtain ⟨e, t, hrest, hminus, hdot⟩ := hhead
  simp [Cursor.atDocumentMark, Cursor.atMark, Cursor.peek_zero hrest, hminus, hdot]

/-- Breaks and spaces behind a plain scalar are skipped. -/
theorem plainBreaks_gap (hgap : IsBlank gap) (hd : isDelimiter d = true) (fuel : Nat)
    (hfuel : gap.length < fuel) (breaks : List Char) (h : c.rest = gap ++ d :: r) :
    ∃ text, plainBreaks fuel breaks c = (some text, c.forward gap.length) := by
  induction gap generalizing fuel breaks c with
  | nil =>
    obtain ⟨fuel, rfl⟩ : ∃ k, fuel = k + 1 := ⟨fuel - 1, by omega⟩
    refine ⟨breaks, ?_⟩
    rw [plainBreaks, Cursor.peek_zero h]
    obtain rfl | rfl | rfl := eq_of_isDelimiter hd <;> rfl
  | cons e gap ih =>
    obtain ⟨fuel, rfl⟩ : ∃ k, fuel = k + 1 := ⟨fuel - 1, by omega⟩
    rw [List.length_cons] at hfuel
    have hrest : c.step.rest = gap ++ d :: r := Cursor.rest_step h
    have hblank : IsBlank gap := fun x hx => hgap x (List.mem_cons_of_mem e hx)
    rw [plainBreaks, Cursor.peek_zero h]
    obtain rfl | rfl := hgap e List.mem_cons_self
    · exact ih hblank fuel (by omega) breaks hrest
    · have hbreak : c.takeBreak = (['\n'], c.step) := by
        rw [Cursor.takeBreak, Cursor.peek_zero h]
        rfl
      simp only [hbreak, atDocumentMark_gap hblank hd hrest]
      exact ih hblank fuel (by omega) _ hrest

/-- White space is spaces up to its end or to a line break. -/
theorem IsBlank.exists_spaces (hgap : IsBlank gap) :
    ∃ n tail, gap = List.replicate n ' ' ++ tail ∧ (tail = [] ∨ ∃ more, tail = '\n' :: more) := by
  induction gap with
  | nil => exact ⟨0, [], rfl, .inl rfl⟩
  | cons e gap ih =>
    obtain rfl | rfl := hgap e List.mem_cons_self
    · obtain ⟨n, tail, rfl, htail⟩ := ih fun x hx => hgap x (List.mem_cons_of_mem _ hx)
      exact ⟨n + 1, tail, rfl, htail⟩
    · exact ⟨0, _, rfl, .inr ⟨gap, rfl⟩⟩

/-- White space behind a plain scalar is skipped. -/
theorem plainSpace_gap (hgap : IsBlank gap) (hd : isDelimiter d = true)
    (h : c.rest = gap ++ d :: r) :
    ∃ space crossed, plainSpace c = (space, crossed, c.forward gap.length) := by
  have hdspace : (d == ' ') = false ∧ isBreak d = false := by
    obtain rfl | rfl | rfl := eq_of_isDelimiter hd <;> decide
  obtain ⟨n, tail, rfl, htail⟩ := hgap.exists_spaces
  rw [List.append_assoc] at h
  have hafter : (c.forward n).rest = tail ++ d :: r := by
    simpa using Cursor.rest_forward h
  have hrun : c.run (· == ' ') = n := by
    rw [Cursor.run, h, List.takeWhile_append_of_pos (by simp)]
    obtain rfl | ⟨more, rfl⟩ := htail <;> simp [hdspace.1]
  unfold plainSpace
  simp only [hrun]
  obtain rfl | ⟨more, rfl⟩ := htail
  · rw [List.nil_append] at hafter
    simp [hafter, Cursor.peek_zero hafter, atBreak, hdspace.2]
  · rw [List.cons_append] at hafter
    have hbreak : (c.forward n).takeBreak = (['\n'], (c.forward n).step) := by
      rw [Cursor.takeBreak, Cursor.peek_zero hafter]
      rfl
    have hmore : IsBlank more := fun x hx => hgap x (by simp [hx])
    have hrest := Cursor.rest_step hafter
    obtain ⟨text, hskip⟩ := plainBreaks_gap hmore hd ((c.forward n).step.rest.length + 1)
      (by rw [hrest, List.length_append]; omega) [] hrest
    have hlength : (List.replicate n ' ' ++ '\n' :: more).length = n + (more.length + 1) := by
      simp
    simp [hafter, Cursor.peek_zero hafter, atBreak, isBreak, hbreak,
      atDocumentMark_gap hmore hd hrest, hskip, hlength, Cursor.forward_add, Cursor.forward]

/-- Characters that stand for themselves are taken together. -/
theorem plainRun_append {cs : List Char} (hcs : ∀ c ∈ cs, isPlainChar c = true) (hgap : IsBlank gap)
    (hd : isDelimiter d = true) : plainRun true (cs ++ (gap ++ d :: r)) = cs.length := by
  induction cs with
  | nil =>
    cases gap with
    | nil => obtain rfl | rfl | rfl := eq_of_isDelimiter hd <;> simp [plainRun]
    | cons e gap =>
      obtain rfl | rfl := hgap e List.mem_cons_self <;> simp [plainRun, atBlank, isBreak]
  | cons e cs ih =>
    rw [List.forall_mem_cons] at hcs
    simp only [isPlainChar, Bool.and_eq_true, Bool.not_eq_true', bne_iff_ne] at hcs
    obtain ⟨⟨⟨⟨hblank, hcolon⟩, hmark⟩, -⟩, hall⟩ := hcs
    rw [List.cons_append, plainRun, ih (by simpa [isPlainChar] using hall)]
    simp only [hblank, hmark]
    simp [hcolon]

/-- A literal is a plain scalar, read with the white space behind it. -/
theorem plainFrom_source {cs : List Char} (hcs : ∀ c ∈ cs, isPlainChar c = true) (hne : cs ≠ [])
    (hgap : IsBlank gap) (hd : isDelimiter d = true) (indent : Int) (fuel : Nat)
    (h : c.rest = cs ++ (gap ++ d :: r)) :
    ∃ crossed, plainFrom true indent (fuel + 2) [] [] false c =
      (cs, crossed, c.forward (cs.length + gap.length)) := by
  have hrun : plainRun true c.rest = cs.length := by
    rw [h, plainRun_append hcs hgap hd]
  obtain ⟨space, crossed, hspace⟩ := plainSpace_gap hgap hd (Cursor.rest_forward h)
  rw [← Cursor.forward_add] at hspace
  have hend : plainRun true (c.forward (cs.length + gap.length)).rest = 0 := by
    rw [Cursor.forward_add, Cursor.rest_forward (Cursor.rest_forward h)]
    exact plainRun_append (List.forall_mem_nil _) (List.forall_mem_nil _) hd
  have hstart : c.peek 0 ≠ some '#' := by
    obtain ⟨e, t, rfl⟩ := List.exists_cons_of_ne_nil hne
    have he := hcs e List.mem_cons_self
    rw [Cursor.peek_zero h]
    rintro ⟨⟩
    cases he
  have hlength : cs.length ≠ 0 := by
    simpa using hne
  refine ⟨crossed, ?_⟩
  rw [plainFrom]
  simp only [hrun, hstart, hlength, or_self, if_false, hspace]
  rw [plainFrom]
  simp [hend, h]

end Space

/-! ## Kinds -/

open Numeral (isDigit)

/-- Digits and other characters are told apart. -/
theorem ne_of_isDigit {c d : Char} (hc : isDigit c = true) (hd : isDigit d = false) : c ≠ d := by
  rintro rfl
  cases hc.symm.trans hd

section Number

variable {digits t : List Char}

/-- Behind the sign of a number are its digits. -/
theorem dropSign_signSource (negative : Bool) (h : Json.IsWhole digits) (t : List Char) :
    dropSign (Json.signSource negative ++ (digits ++ t)) = digits ++ t := by
  obtain ⟨c, r, rfl⟩ := List.exists_cons_of_ne_nil h.ne_nil
  have hc := h.all_digits c List.mem_cons_self
  cases negative with
  | true => rfl
  | false =>
    show dropSign (c :: (r ++ t)) = _
    unfold dropSign
    split
    · rename_i heq
      exact (ne_of_isDigit hc rfl (List.cons.inj heq).1).elim
    · rename_i heq
      exact (ne_of_isDigit hc rfl (List.cons.inj heq).1).elim
    · rfl

/-- A number is none of the words for truth values. -/
theorem not_isBoolWord (negative : Bool) (h : Json.IsWhole digits) (t : List Char) :
    (boolWords.any fun w =>
      (spellings w.1).contains (String.ofList (Json.signSource negative ++ (digits ++ t)))) =
        false := by
  have hletters : ∀ w ∈ boolWords, ∀ s ∈ spellings w.1,
      s.toList.head?.any (fun c => isDigit c || c == '-') = false := by
    decide
  obtain ⟨c, r, rfl⟩ := List.exists_cons_of_ne_nil h.ne_nil
  have hc := h.all_digits c List.mem_cons_self
  rw [Bool.eq_false_iff]
  intro hany
  obtain ⟨w, hw, hs⟩ := List.any_eq_true.1 hany
  have hletter := hletters w hw _ (List.contains_iff_mem.1 hs)
  rw [String.toList_ofList] at hletter
  cases negative with
  | true => cases hletter
  | false =>
    simp [Json.signSource, hc] at hletter

/-- Digits may stand beside underscores and colons. -/
theorem isDigitOrBar_of_isDigit {cs : List Char} (h : ∀ c ∈ cs, isDigit c = true) :
    ∀ c ∈ cs, isDigitOrBar c = true := fun c hc => by
  rw [isDigitOrBar, h c hc]
  rfl

/-- Words that begin with a point are none of those that do not. -/
theorem contains_eq_false_of_head {ws : List (List Char)} (hws : ∀ w ∈ ws, w.head? = some '.')
    {cs : List Char} (hcs : cs.head? ≠ some '.') : ws.contains cs = false := by
  rw [Bool.eq_false_iff]
  exact fun h => hcs (hws cs (List.contains_iff_mem.1 h))

/-- A number does not begin with a point. -/
theorem head_signSource (negative : Bool) (h : Json.IsWhole digits) (t : List Char) :
    (Json.signSource negative ++ (digits ++ t)).head? ≠ some '.' := by
  obtain ⟨c, r, rfl⟩ := List.exists_cons_of_ne_nil h.ne_nil
  cases negative with
  | true => exact nofun
  | false => exact fun heq =>
      ne_of_isDigit (h.all_digits c List.mem_cons_self) rfl (Option.some.inj heq)

/-- Whole digits are taken with underscores and colons up to another character. -/
theorem takeWhile_whole (h : Json.IsWhole digits)
    (ht : ∀ c ∈ t.head?, (isDigitOrBar c || c == ':') = false) :
    (digits ++ t).takeWhile (fun c => isDigitOrBar c || c == ':') = digits :=
  (Json.takeWhile_append_head (fun c hc => by
    rw [isDigitOrBar_of_isDigit h.all_digits c hc]
    rfl) ht).1

/-- Digits alone have not the form of a number with a point. -/
theorem isFloat_integer (negative : Bool) (h : Json.IsWhole digits) :
    isFloat (Json.signSource negative ++ digits) = false := by
  have hsign := dropSign_signSource negative h []
  have hhead := head_signSource negative h []
  have hdigits := head_signSource false h []
  have hwhole := takeWhile_whole h (t := []) (by simp)
  rw [List.append_nil] at hsign hhead hdigits hwhole
  have hinf : ([".inf", ".Inf", ".INF"].map String.toList).contains digits = false :=
    contains_eq_false_of_head (by decide) hdigits
  have hnan : ([".nan", ".NaN", ".NAN"].map String.toList).contains
      (Json.signSource negative ++ digits) = false :=
    contains_eq_false_of_head (by decide) hhead
  unfold isFloat
  simp only [hsign, hwhole, List.drop_length, hinf, hnan, Bool.false_or]
  split
  · rename_i heq
    exact (hhead (by rw [heq]; rfl)).elim
  · rfl

/-- Whole digits have the form of an integer. -/
theorem isInteger_integer (negative : Bool) (h : Json.IsWhole digits) :
    isInteger (Json.signSource negative ++ digits) = true := by
  have hsign := dropSign_signSource negative h []
  rw [List.append_nil] at hsign
  unfold isInteger
  rw [hsign]
  split
  · exact (h.ne_nil rfl).elim
  · rename_i r
    cases h.eq_zero rfl
    rfl
  · rename_i c r _
    have hr : r.dropWhile isDigitOrBar = [] :=
      List.dropWhile_eq_nil_iff.2 fun d hd =>
        isDigitOrBar_of_isDigit h.all_digits d (List.mem_cons_of_mem c hd)
    rw [h.all_digits c List.mem_cons_self, hr]
    rfl

/-- An integer has the form of one, and not that of a number with a point. -/
theorem ofForm_integer (negative : Bool) (h : Json.IsWhole digits) :
    Tag.ofForm (Json.signSource negative ++ digits) = .int := by
  have hbool := not_isBoolWord negative h []
  rw [List.append_nil] at hbool
  unfold Tag.ofForm
  simp only [hbool, isFloat_integer negative h, isInteger_integer negative h, if_true,
    Bool.false_eq_true, if_false]

/-- An exponent with a sign has the form of one. -/
theorem isExponent_exponentSource (e : Option Json.Exponent)
    (he : e.all (fun e => e.sign.isSome) = true) : isExponent (Json.exponentSource e) = true := by
  cases e with
  | none => rfl
  | some e =>
    obtain ⟨negative, hsign⟩ := Option.isSome_iff_exists.1 he
    have hall : e.digits.all isDigit = true := List.all_eq_true.2 e.all_digits
    have hne : e.digits.isEmpty = false := List.isEmpty_eq_false_iff.2 e.ne_nil
    have hmark : (e.mark == 'e' || e.mark == 'E') = true := by
      simpa using e.isMark
    show isExponent (e.mark :: (Json.exponentSign e.sign ++ e.digits)) = true
    rw [hsign]
    cases negative <;> simp [Json.exponentSign, isExponent, hall, hne, hmark]

/-- A fraction is told from the exponent behind it. -/
theorem dropWhile_fraction {fraction : List Char} (hfraction : ∀ c ∈ fraction, isDigit c = true)
    (e : Option Json.Exponent) :
    (fraction ++ Json.exponentSource e).dropWhile isDigitOrBar = Json.exponentSource e := by
  refine (Json.takeWhile_append_head (isDigitOrBar_of_isDigit hfraction) ?_).2
  cases e with
  | none => nofun
  | some e =>
    intro c hc
    cases hc
    obtain h | h := e.isMark <;> rw [h] <;> rfl

/-- A double with a fraction, and a sign in its exponent, has the form of a number with a point. -/
theorem ofForm_double (negative : Bool) (h : Json.IsWhole digits) {fraction : List Char}
    (hfraction : ∀ c ∈ fraction, isDigit c = true) (hne : fraction ≠ []) (e : Option Json.Exponent)
    (he : e.all (fun e => e.sign.isSome) = true) :
    Tag.ofForm (Json.signSource negative ++ (digits ++ (Json.fractionSource fraction ++
      Json.exponentSource e))) = .float := by
  have hpoint : Json.fractionSource fraction = '.' :: fraction :=
    if_neg (by simpa using hne)
  rw [hpoint, List.cons_append]
  have hwhole := takeWhile_whole h (t := '.' :: (fraction ++ Json.exponentSource e)) (by
    rintro c ⟨⟩
    rfl)
  obtain ⟨c, w, rfl⟩ := List.exists_cons_of_ne_nil h.ne_nil
  have hw : w.takeWhile isDigitOrBar = w :=
    List.takeWhile_eq_self_iff.2 fun d hd =>
      isDigitOrBar_of_isDigit h.all_digits d (List.mem_cons_of_mem c hd)
  have hfloat : isFloat (Json.signSource negative ++
      (c :: w ++ '.' :: (fraction ++ Json.exponentSource e))) = true := by
    unfold isFloat
    simp only [dropSign_signSource negative h, hwhole, List.drop_left, hw, List.drop_length,
      dropWhile_fraction hfraction e, isExponent_exponentSource e he,
      h.all_digits c List.mem_cons_self]
    simp
  unfold Tag.ofForm
  simp only [not_isBoolWord negative h, hfloat, if_true, Bool.false_eq_true, if_false]

end Number

end Courier.Yaml
