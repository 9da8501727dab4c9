import Courier.Json.Reader
import Courier.Proofs.Basic
import Courier.Proofs.Literal
import Mathlib.Algebra.Group.Nat.Defs

/-!
# Values that are read from JSON can be written

Reading refuses integers of too many digits, and so every value that it gives has a literal
(`isWritable_of_read`). The induction is on the fuel, for values, items and members at once
(`GivesWritable`); one lemma for each of them says what a step adds.
-/

namespace Courier

open Data

namespace Numeral

/-- Digits behind a number add as many places to it, and stay below the next number with as many
places. -/
theorem foldl_digits_lt {cs : List Char} (h : ∀ c ∈ cs, isDigit c = true) (n : Nat) :
    cs.foldl (fun n c => 10 * n + (c.toNat - 48)) n < (n + 1) * 10 ^ cs.length := by
  induction cs generalizing n with
  | nil => simp
  | cons c cs ih =>
    have hdigit := h c List.mem_cons_self
    simp only [isDigit, Bool.and_eq_true, decide_eq_true_eq, Char.le_def] at hdigit
    have hlast : c.toNat ≤ 57 := hdigit.2
    have hrest := ih (fun d hd => h d (List.mem_cons_of_mem c hd)) (10 * n + (c.toNat - 48))
    have hbound : 10 * n + (c.toNat - 48) + 1 ≤ (n + 1) * 10 := by omega
    rw [List.foldl_cons, List.length_cons, Nat.pow_succ', ← Nat.mul_assoc]
    exact Nat.lt_of_lt_of_le hrest (Nat.mul_le_mul_right _ hbound)

/-- Digits write a number below the power of ten of their count. -/
theorem ofDigits_lt {digits : List Char} (h : ∀ c ∈ digits, isDigit c = true) :
    ofDigits digits < 10 ^ digits.length := by
  have hall := foldl_digits_lt h 0
  rw [Nat.zero_add, Nat.one_mul] at hall
  exact hall

end Numeral

namespace Json

/-- An integer of few enough digits can be written. -/
theorem isWritable_ofSignedDigits {digits : List Char}
    (h : ∀ c ∈ digits, Numeral.isDigit c = true) (hlength : digits.length ≤ maxDigits)
    (negative : Bool) :
    isWritable (Numeral.ofSignedDigits negative digits) = true := by
  have habs : (Numeral.ofSignedDigits negative digits).natAbs = Numeral.ofDigits digits := by
    unfold Numeral.ofSignedDigits
    cases negative with
    | true => simp
    | false => simp
  have hbound : ∀ most, digits.length ≤ most → Numeral.ofDigits digits < Nat.pow 10 most :=
    fun most hmost => Nat.lt_of_lt_of_le (Numeral.ofDigits_lt h)
      (Nat.pow_le_pow_right (Nat.succ_pos 9) hmost)
  unfold isWritable
  rw [decide_eq_true_eq, habs]
  exact hbound maxDigits hlength

/-- The number with some whole digits and a fraction: a double if there is a fraction or an exponent
behind it, and else an integer. -/
def numberFrom (negative : Bool) (whole fraction cs : List Char) :
    Except Error (Data × List Char) :=
  match Numeral.takeExponent cs with
  | some (e, r) => .ok (.float (Numeral.Decimal.toDouble ⟨negative, whole, fraction, e⟩), r)
  | none =>
    if fraction.isEmpty then
      if maxDigits < whole.length then .error (.tooManyDigits whole.length)
      else .ok (.int (Numeral.ofSignedDigits negative whole), cs)
    else .ok (.float (Numeral.Decimal.toDouble ⟨negative, whole, fraction, 0⟩), cs)

/-- Such a number can be written. -/
theorem isWritable_of_numberFrom {negative : Bool} {whole fraction cs r : List Char} {v : Data}
    (hdigits : ∀ c ∈ whole, Numeral.isDigit c = true)
    (h : numberFrom negative whole fraction cs = .ok (v, r)) : v.IsWritable := by
  unfold numberFrom at h
  split at h
  · cases h
    exact isWritable_float _
  · split at h
    · split at h
      · cases h
      · rename_i hfew
        cases h
        have hint := isWritable_ofSignedDigits hdigits (Nat.le_of_not_lt hfew) negative
        exact (isWritable_int_iff _).2 hint
    · cases h
      exact isWritable_float _

/-- A number that is read can be written. -/
theorem isWritable_of_number {cs r : List Char} {v : Data} (h : number cs = .ok (v, r)) :
    v.IsWritable := by
  unfold number at h
  simp only at h
  generalize hwhole : (if ((Numeral.takeSign false cs).2.takeWhile Numeral.isDigit).head? =
    some '0' then ['0'] else (Numeral.takeSign false cs).2.takeWhile Numeral.isDigit) = whole at h
  have hdigits : ∀ c ∈ whole, Numeral.isDigit c = true := by
    intro c hc
    subst hwhole
    split at hc
    · rw [List.mem_singleton.1 hc]
      rfl
    · exact List.all_eq_true.1 List.all_takeWhile c hc
  by_cases hempty : whole.isEmpty = true
  · rw [if_pos hempty] at h
    cases h
  · rw [if_neg hempty] at h
    exact isWritable_of_numberFrom hdigits h

/-- A string that is read can be written. -/
theorem isWritable_of_stringBody {cs r : List Char} {v : Data} (h : stringBody cs = .ok (v, r)) :
    v.IsWritable := by
  unfold stringBody at h
  split at h
  · rename_i us rest hunits
    cases h
    unfold ofCodes
    split
    · simp [IsWritable, integers]
    · exact isWritable_text _
  · cases h

/-- A word that stands for a value can be written. -/
theorem isWritable_of_word? {cs r : List Char} {v : Data} (h : word? cs = some (v, r)) :
    v.IsWritable := by
  have hwords : ∀ w ∈ words, w.2.IsWritable := by
    simp [words, IsWritable, integers]
  obtain ⟨⟨name, value⟩, hw, hfound⟩ := List.exists_of_findSome?_eq_some h
  simp only at hfound
  split at hfound
  · cases hfound
    exact hwords _ hw
  · cases hfound

/-- An entry that is added can be written if it can and the others can. -/
theorem isWritable_insertEntry {entries : List (Data × Data)} {k v : Data}
    (h : ∀ e ∈ entries, e.1.IsWritable ∧ e.2.IsWritable) (hk : k.IsWritable) (hv : v.IsWritable) :
    ∀ e ∈ insertEntry entries k v, e.1.IsWritable ∧ e.2.IsWritable := by
  induction entries with
  | nil =>
    intro e he
    rw [List.mem_singleton.1 he]
    exact ⟨hk, hv⟩
  | cons e rest ih =>
    rw [List.forall_mem_cons] at h
    unfold insertEntry
    split
    · rw [List.forall_mem_cons]
      exact ⟨⟨h.1.1, hv⟩, h.2⟩
    · rw [List.forall_mem_cons]
      exact ⟨h.1, ih h.2⟩

/-- With some fuel, the three readers give values that can be written; the members of a mapping are
added to entries that can. -/
structure GivesWritable (fuel : Nat) : Prop where
  value {cs r : List Char} {v : Data} : value fuel cs = .ok (v, r) → v.IsWritable
  items {cs r : List Char} {v : Data} : items fuel cs = .ok (v, r) → v.IsWritable
  members {entries : List (Data × Data)} {cs r : List Char} {v : Data} :
    (∀ e ∈ entries, e.1.IsWritable ∧ e.2.IsWritable) →
      members fuel entries cs = .ok (v, r) → v.IsWritable

section Step

variable {fuel : Nat} {cs r : List Char} {v : Data}

/-- A value is a string, a word or a number, or it is made of items or members. -/
theorem isWritable_of_value_succ (ih : GivesWritable fuel)
    (h : value (fuel + 1) cs = .ok (v, r)) : v.IsWritable := by
  unfold value at h
  split at h
  · exact isWritable_of_stringBody h
  · -- an empty list closes at once, and so does an empty mapping
    split at h
    · cases h
      simp [isWritable_list_iff]
    · exact ih.items h
  · split at h
    · cases h
      simp [isWritable_map_iff]
    · exact ih.members (by simp) h
  · split at h
    · rename_i found hword
      cases h
      exact isWritable_of_word? hword
    · exact isWritable_of_number h

/-- Items are a value, and others behind a comma. -/
theorem isWritable_of_items_succ (ih : GivesWritable fuel)
    (h : items (fuel + 1) cs = .ok (v, r)) : v.IsWritable := by
  unfold items at h
  obtain ⟨⟨x, u⟩, hfirst, h⟩ := bind_eq_ok_iff.1 h
  have hx := ih.value hfirst
  simp only at h
  split at h
  · cases h
    simpa [isWritable_list_iff] using hx
  · obtain ⟨others, hothers, h⟩ := bind_eq_ok_iff.1 h
    split at h
    · rename_i xs _
      cases h
      have hxs := ih.items hothers
      rw [isWritable_list_iff] at hxs ⊢
      exact List.forall_mem_cons.2 ⟨hx, hxs⟩
    · cases h
  · cases h

/-- A member is a name and a value, which are added before the next member is read. -/
theorem isWritable_of_members_succ (ih : GivesWritable fuel) {entries : List (Data × Data)}
    (hentries : ∀ e ∈ entries, e.1.IsWritable ∧ e.2.IsWritable)
    (h : members (fuel + 1) entries cs = .ok (v, r)) : v.IsWritable := by
  unfold members at h
  split at h
  · obtain ⟨⟨name, t⟩, hname, h⟩ := bind_eq_ok_iff.1 h
    simp only at h
    split at h
    · obtain ⟨⟨found, u⟩, hfound, h⟩ := bind_eq_ok_iff.1 h
      have hadded := isWritable_insertEntry hentries (isWritable_of_stringBody hname)
        (ih.value hfound)
      simp only at h
      split at h
      · cases h
        exact (isWritable_map_iff _).2 hadded
      · exact ih.members hadded h
      · cases h
    · cases h
  · cases h

end Step

/-- Whatever the fuel is, the three readers give values that can be written. -/
theorem givesWritable (fuel : Nat) : GivesWritable fuel := by
  induction fuel with
  | zero => exact ⟨nofun, nofun, fun _ => nofun⟩
  | succ fuel ih =>
    exact ⟨isWritable_of_value_succ ih, isWritable_of_items_succ ih, isWritable_of_members_succ ih⟩

/-- A value that is read can be written. -/
theorem isWritable_of_read {s : String} {v : Data} (h : read s = .ok v) : v.IsWritable := by
  unfold read at h
  simp only at h
  split at h
  · cases h
  · rename_i hvalue
    split at h
    · cases h
      exact (givesWritable _).value hvalue
    · cases h

end Json

end Courier
