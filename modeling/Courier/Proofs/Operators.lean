import Courier.Proofs.DataEquality
import Courier.Proofs.Evaluation
import Courier.Proofs.NormalForm
import Mathlib.Data.List.Infix

/-!
# What the operators ask

On a value that was found, an operator gives a verdict, and it is the one that the operator's
meaning demands (`Assertion.evaluate_operator`). An assertion that was read has an operand of the
right kind, so the comparison never meets another; a value that is none of the operator's kind fails
the assertion. Numbers are compared exactly, so that of the three comparisons with a number exactly
one holds.
-/

namespace Courier

open Data

/-- A text stands in another exactly if it is a segment of it. -/
theorem occursIn_iff (part whole : List Nat) : occursIn part whole = true ↔ part <:+: whole := by
  induction whole with
  | nil => simp [occursIn]
  | cons c rest ih =>
    rw [occursIn, Bool.or_eq_true, ih, List.isPrefixOf_iff_prefix, List.infix_cons_iff]

/-- A value other than the one that is no number, if it is of a type of numbers, is a number. -/
theorem exists_exactValue?_of_isNumber {v : Data} (h : Assertion.isNumber v = true)
    (hnan : v ≠ .float .nan) : ∃ p, v.exactValue? = some p := by
  cases v with
  | int n => exact ⟨_, rfl⟩
  | float x =>
    cases x with
    | nan => exact (hnan rfl).elim
    | infinite negative => exact ⟨_, rfl⟩
    | finite negative m e => exact ⟨_, rfl⟩
  | _ => cases h

namespace Assertion

variable {a : Assertion} {r : Response} {actual : Data}

/-- What the operator of an assertion asks of the value found. A number that is compared with a
header or the body stands for its digits. -/
def Holds (a : Assertion) (actual : Data) : Prop :=
  match a.op with
  | .exist => True
  | .includes => ∃ whole part, actual.codes? = some whole ∧ a.value.codes? = some part ∧
      part <:+: whole
  | .property => ∃ entries, actual = .map entries ∧ a.value ∈ entries.map Prod.fst
  | .below => isNumber actual = true ∧
      ∃ p q, actual.exactValue? = some p ∧ a.value.exactValue? = some q ∧ p < q
  | .above => isNumber actual = true ∧
      ∃ p q, actual.exactValue? = some p ∧ a.value.exactValue? = some q ∧ q < p
  | .equal =>
    if (a.subject = .header ∨ a.subject = .body) ∧ isNumber a.value = true then
      ∃ digits, a.value.display? = some (.ofString digits) ∧ actual = .text digits
    else Equals actual a.value

/-- Two values stand in an order exactly if the first is of a type of numbers and the numbers that
they are stand in it. -/
theorem ordered_iff (order : Ordering) (actual bound : Data) :
    ordered order actual bound = true ↔ isNumber actual = true ∧
      ∃ p q, actual.exactValue? = some p ∧ bound.exactValue? = some q ∧ cmp p q = order := by
  rw [ordered, Bool.and_eq_true]
  refine and_congr_right fun _ => ?_
  unfold exactValue?
  cases actual.amount? with
  | none => exact iff_of_false nofun fun ⟨_, _, hp, _⟩ => nomatch hp
  | some x =>
    cases bound.amount? with
    | none => exact iff_of_false nofun fun ⟨_, _, _, hq, _⟩ => nomatch hq
    | some y =>
      rw [Option.bind_some, Option.bind_some, beq_iff_eq]
      rw [x.compare_eq y]
      cases x.exactValue? with
      | none => exact iff_of_false nofun fun ⟨_, _, hp, _⟩ => nomatch hp
      | some p =>
        cases y.exactValue? with
        | none => exact iff_of_false nofun fun ⟨_, _, _, hq, _⟩ => nomatch hq
        | some q =>
          rw [Option.map₂_some_some, Option.some_inj]
          constructor
          · exact fun h => ⟨p, q, rfl, rfl, h⟩
          · rintro ⟨_, _, ⟨⟩, ⟨⟩, h⟩
            exact h

/-- A text is equal to itself only. -/
theorem equals_iff_of_isText {name : Data} (h : isText name = true) (k : Data) :
    Equals name k ↔ k = name := by
  have hnumber : name.exactValue? = none := by
    cases name with
    | text | brokenText => rfl
    | _ => cases h
  constructor
  · intro heq
    cases heq with
    | number hp => cases hnumber.symm.trans hp
    | text | brokenText => rfl
    | _ => cases h
  · rintro rfl
    cases k with
    | text s => exact .text s
    | brokenText codes => exact .brokenText codes
    | _ => cases h

/-- Only a text is equal to a text. -/
theorem equals_text_iff (v : Data) (s : String) : Equals v (.text s) ↔ v = .text s := by
  constructor
  · intro heq
    cases heq with
    | number _ hp => cases hp
    | text => rfl
  · rintro rfl
    exact .text s

/-- A mapping has an entry for a text exactly if the text is one of its names. -/
theorem hasEntry_iff {name : Data} (h : isText name = true) (actual : Data) :
    hasEntry actual name = true ↔
      ∃ entries, actual = .map entries ∧ name ∈ entries.map Prod.fst := by
  cases actual with
  | map entries => simp [hasEntry, lookup?, same_iff, equals_iff_of_isText h]
  | _ => simp [hasEntry]

/-- A text holds another exactly if both are texts and the other is a segment of it. -/
theorem includes_iff (actual part : Data) :
    includes actual part = true ↔
      ∃ whole codes, actual.codes? = some whole ∧ part.codes? = some codes ∧ codes <:+: whole := by
  unfold includes
  cases actual.codes? <;> cases part.codes? <;> simp [occursIn_iff]

/-- A number is shown by its digits. -/
theorem display?_of_isNumber {v : Data} (h : isNumber v = true) :
    ∃ digits? : Option String, v.display? = digits?.map CodeText.ofString := by
  cases v with
  | int n => exact ⟨(Data.int n).literal?, rfl⟩
  | float x => exact ⟨(Data.float x).literal?, rfl⟩
  | _ => cases h

/-- A value equals what is expected exactly if it equals the operand, or its digits where a number
is compared with a text. -/
theorem exists_expected_iff (a : Assertion) (actual : Data) :
    (∃ expected, a.expected = .ok expected ∧ actual.same expected = true) ↔
      if (a.subject = .header ∨ a.subject = .body) ∧ isNumber a.value = true then
        ∃ digits, a.value.display? = some (.ofString digits) ∧ actual = .text digits
      else Equals actual a.value := by
  unfold expected
  split
  · rename_i hdigits
    obtain ⟨digits?, hdisplay⟩ := display?_of_isNumber hdigits.2
    rw [displayOf, hdisplay]
    cases digits? with
    | none => simp [bind, Except.bind]
    | some digits =>
      simp [bind, Except.bind, pure, Except.pure, same_iff, ofCodeText_ofString, equals_text_iff,
        CodeText.ofString_inj]
  · simp [same_iff]

/-- The rules on operands. -/
theorem operandFault?_eq_none_iff (a : Assertion) :
    a.operandFault? = none ↔
      ¬(a.subject = .header ∧ isBlankText a.key = true) ∧
        ¬(a.key.isSome = true ∧ ¬a.subject.isKeyed = true) ∧
        (a.op = .below ∨ a.op = .above → isNumber a.value = true) ∧
        (a.op = .includes ∨ a.op = .property → isText a.value = true) := by
  unfold operandFault?
  split_ifs <;> simp_all

/-- A value meets an assertion with an operand of the right kind exactly if what the operator asks
holds. -/
theorem meets_iff_holds (h : a.operandFault? = none) (actual : Data) :
    a.Meets actual ↔ a.Holds actual := by
  unfold Meets Holds
  cases hop : a.op with
  | exist => exact Iff.rfl
  | below =>
    refine (ordered_iff _ _ _).trans (and_congr_right fun _ => exists₂_congr fun p q => ?_)
    rw [cmp_eq_lt_iff]
  | above =>
    refine (ordered_iff _ _ _).trans (and_congr_right fun _ => exists₂_congr fun p q => ?_)
    rw [cmp_eq_gt_iff]
  | includes => exact includes_iff actual a.value
  | property =>
    obtain ⟨-, -, -, htext⟩ := (operandFault?_eq_none_iff a).1 h
    exact hasEntry_iff (htext (.inr hop)) actual
  | equal => exact exists_expected_iff a actual

/-- A check of a value that can be written, against one that can, gives an outcome, and no message
exactly if what the operator asks holds. -/
theorem exists_check (h : a.operandFault? = none) (hactual : actual.IsWritable)
    (hvalue : a.value.IsWritable) :
    ∃ message, a.check actual = .ok message ∧ (message = none ↔ a.Holds actual) := by
  obtain ⟨-, message, hcheck, hmessage⟩ | ⟨hshows, -⟩ := writes_check a actual
  · exact ⟨message, hcheck, hmessage.trans (meets_iff_holds h actual)⟩
  · exact (hshows (.inr ⟨hvalue, fun _ => hactual⟩)).elim

/-- The verdict on a value found is that of the check. -/
theorem exists_evaluate (h : a.operandFault? = none) (hresolve : a.resolve r = .ok (some actual))
    (hactual : actual.IsWritable) (hvalue : a.value.IsWritable) :
    ∃ v, a.evaluate r = .ok v ∧ a.check actual = .ok v.message ∧
      (v.passed = true ↔ v.message = none) ∧ (v.passed = true ↔ a.Holds actual) := by
  obtain ⟨message, hcheck, hmessage⟩ := exists_check h hactual hvalue
  obtain ⟨name, hname⟩ := Option.ne_none_iff_exists'.1
    ((label?_ne_none_iff a).2 fun _ _ => hvalue)
  refine ⟨⟨name, message.isNone, message⟩, ?_, hcheck, Option.isNone_iff_eq_none, ?_⟩
  · simp [evaluate, complaint, hresolve, hcheck, hname, bind, Except.bind, pure, Except.pure]
  · exact Option.isNone_iff_eq_none.trans hmessage

/-- The assertion with another operator. -/
def withOp (a : Assertion) (op : Operator) : Assertion := { a with op := op }

/-- With a number as its operand, an assertion may make each of the comparisons. -/
theorem operandFault?_withOp (h : a.operandFault? = none) (hnumber : isNumber a.value = true)
    {op : Operator} (hop : op = .below ∨ op = .equal ∨ op = .above) :
    (a.withOp op).operandFault? = none := by
  obtain ⟨hheader, hkey, -, -⟩ := (operandFault?_eq_none_iff a).1 h
  refine (operandFault?_eq_none_iff _).2 ⟨hheader, hkey, fun _ => hnumber, fun htext => ?_⟩
  rcases hop with rfl | rfl | rfl <;> simp [withOp] at htext

/-- The verdicts of the comparisons of a number with a number. -/
theorem exists_comparisons (h : a.operandFault? = none)
    (hresolve : a.resolve r = .ok (some actual)) (hactual : actual.IsWritable)
    (hvalue : a.value.IsWritable) (hsubject : a.subject ≠ .header ∧ a.subject ≠ .body)
    (hnumber : isNumber actual = true) (hnan : actual ≠ .float .nan)
    (hbound : isNumber a.value = true) (hboundNan : a.value ≠ .float .nan) :
    ∃ below equal above, (a.withOp .below).evaluate r = .ok below ∧
      (a.withOp .equal).evaluate r = .ok equal ∧ (a.withOp .above).evaluate r = .ok above ∧
      [below, equal, above].countP Verdict.passed = 1 := by
  have hfault := @operandFault?_withOp a h hbound
  obtain ⟨below, hbelow, -, -, hless⟩ :=
    exists_evaluate (a := a.withOp .below) (hfault (by simp)) hresolve hactual hvalue
  obtain ⟨equal, hequal, -, -, hsame⟩ :=
    exists_evaluate (a := a.withOp .equal) (hfault (by simp)) hresolve hactual hvalue
  obtain ⟨above, habove, -, -, hmore⟩ :=
    exists_evaluate (a := a.withOp .above) (hfault (by simp)) hresolve hactual hvalue
  refine ⟨below, equal, above, hbelow, hequal, habove, ?_⟩
  obtain ⟨p, hp⟩ := exists_exactValue?_of_isNumber hnumber hnan
  obtain ⟨q, hq⟩ := exists_exactValue?_of_isNumber hbound hboundNan
  have hbelow' : below.passed = decide (p < q) := by
    rw [Bool.eq_iff_iff, hless, decide_eq_true_eq]
    simp [Holds, withOp, hnumber, hp, hq]
  have hequal' : equal.passed = decide (p = q) := by
    rw [Bool.eq_iff_iff, hsame, decide_eq_true_eq]
    simp only [Holds, withOp, hsubject, false_or, false_and, if_false,
      equals_iff_of_exactValue? hp, hq, Option.some.injEq]
    exact eq_comm
  have habove' : above.passed = decide (q < p) := by
    rw [Bool.eq_iff_iff, hmore, decide_eq_true_eq]
    simp [Holds, withOp, hnumber, hp, hq]
  -- of two numbers, one is less or they are equal
  simp only [List.countP_cons, List.countP_nil, hbelow', hequal', habove', decide_eq_true_eq]
  rcases lt_trichotomy p q with h | h | h
  · simp [h, h.ne, h.not_gt]
  · simp [h]
  · simp [h, h.ne', h.not_gt]

/-- An assertion that was read, on a response that has the value, where all integers can be written.
Its operand is of the kind that the operator needs. There is a verdict, the check's message is its
message, and it passes exactly if there is none, which is exactly if what the operator asks of the
value holds. If the value and the operand are numbers and the subject is none that is a text, each
of the three comparisons may be asked for, and exactly one of their verdicts passes. -/
theorem evaluate_operator {source : Data} (hread : Assertion.read source = .accepted a)
    (hresolve : a.resolve r = .ok (some actual)) (hactual : actual.IsWritable)
    (hvalue : a.value.IsWritable) :
    (a.op = .below ∨ a.op = .above → isNumber a.value = true) ∧
      (a.op = .includes ∨ a.op = .property → isText a.value = true) ∧
      (∃ v, a.evaluate r = .ok v ∧ a.check actual = .ok v.message ∧
        (v.passed = true ↔ v.message = none) ∧ (v.message = none ↔ a.Holds actual)) ∧
      (a.subject = .status ∨ a.subject = .json ∨ a.subject = .responseTime →
        isNumber actual = true → actual ≠ .float .nan →
        isNumber a.value = true → a.value ≠ .float .nan →
          (∀ op, op = .below ∨ op = .equal ∨ op = .above →
            Assertion.read (a.withOp op).dump = .accepted (a.withOp op)) ∧
          ∃ below equal above, (a.withOp .below).evaluate r = .ok below ∧
            (a.withOp .equal).evaluate r = .ok equal ∧ (a.withOp .above).evaluate r = .ok above ∧
            [below, equal, above].countP Verdict.passed = 1) := by
  have hfault := operandFault?_of_read hread
  obtain ⟨-, -, hnumber, htext⟩ := (operandFault?_eq_none_iff a).1 hfault
  refine ⟨hnumber, htext, ?_, fun hsubject hactualNumber hnan hbound hboundNan => ⟨?_, ?_⟩⟩
  · obtain ⟨v, hv, hcheck, hpassed, hholds⟩ := exists_evaluate hfault hresolve hactual hvalue
    exact ⟨v, hv, hcheck, hpassed, hpassed.symm.trans hholds⟩
  · exact fun op hop => read_dump (operandFault?_withOp hfault hbound hop)
  · have hother : a.subject ≠ .header ∧ a.subject ≠ .body := by
      rcases hsubject with h | h | h <;> simp [h]
    exact exists_comparisons hfault hresolve hactual hvalue hother hactualNumber hnan hbound
      hboundNan

/-- An assertion that a body is above `2^53`, given as a double. -/
def aboveDouble : Assertion :=
  ⟨none, .json, none, .above, .float (.finite false 4503599627370496 1)⟩

/-- A response with the next integer, which is no double. -/
def oddResponse : Response := ⟨200, "OK", [], "9007199254740993", 0, 16⟩

/-- `evaluate_operator` at an integer that rounding would make equal to the operand. -/
theorem evaluate_operator_unrounded :
    Assertion.read aboveDouble.dump = .accepted aboveDouble ∧
      aboveDouble.resolve oddResponse = .ok (some (.int 9007199254740993)) ∧
      (Data.int 9007199254740993).IsWritable ∧ aboveDouble.value.IsWritable ∧
      (∃ v, aboveDouble.evaluate oddResponse = .ok v ∧ v.message = none) ∧
      ∃ below equal above, (aboveDouble.withOp .below).evaluate oddResponse = .ok below ∧
        (aboveDouble.withOp .equal).evaluate oddResponse = .ok equal ∧
        (aboveDouble.withOp .above).evaluate oddResponse = .ok above ∧
        [below, equal, above].countP Verdict.passed = 1 := by
  have hread : Assertion.read aboveDouble.dump = .accepted aboveDouble := read_dump (by decide)
  have hresolve : aboveDouble.resolve oddResponse = .ok (some (.int 9007199254740993)) := by rfl
  have hactual : (Data.int 9007199254740993).IsWritable :=
    (isWritable_int_iff _).2 (by decide +kernel)
  have hvalue : aboveDouble.value.IsWritable := isWritable_float _
  have habove : aboveDouble.Holds (.int 9007199254740993) := by
    refine ⟨rfl, _, _, rfl, rfl, (Exact.ofRat_lt_ofRat_iff _ _).2 ?_⟩
    norm_num [Double.signed]
  obtain ⟨-, -, ⟨v, hv, -, -, hholds⟩, hcompare⟩ :=
    evaluate_operator hread hresolve hactual hvalue
  obtain ⟨-, hone⟩ := hcompare (.inr (.inl rfl)) rfl nofun rfl nofun
  exact ⟨hread, hresolve, hactual, hvalue, ⟨v, hv, hholds.2 habove⟩, hone⟩

end Assertion

end Courier
