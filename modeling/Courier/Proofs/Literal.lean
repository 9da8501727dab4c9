import Courier.Data.Literal

/-!
# Which values have literals

A value has a literal exactly if every integer in it can be written (`literal?_ne_none_iff`), and as
running text exactly then too (`display?_ne_none_iff`). The induction is that of the values
themselves, together with lists of items and of entries.
-/

namespace Courier.Data

mutual

/-- The integers in a value. -/
def integers : Data → List Int
  | .int n => [n]
  | .list items => itemIntegers items
  | .map entries => entryIntegers entries
  | .set members => itemIntegers members
  | .pair a b => integers a ++ integers b
  | _ => []

/-- The integers in items. -/
def itemIntegers : List Data → List Int
  | [] => []
  | x :: xs => integers x ++ itemIntegers xs

/-- The integers in entries. -/
def entryIntegers : List (Data × Data) → List Int
  | [] => []
  | (k, v) :: rest => integers k ++ integers v ++ entryIntegers rest

end

/-- Whether every integer in a value has few enough digits to be written. -/
def IsWritable (v : Data) : Prop := ∀ n ∈ v.integers, isWritable n = true

/-- Items can be written exactly if each can. -/
theorem forall_mem_itemIntegers (items : List Data) :
    (∀ n ∈ itemIntegers items, isWritable n = true) ↔ ∀ x ∈ items, x.IsWritable := by
  induction items with
  | nil => simp [itemIntegers]
  | cons x xs ih =>
    rw [itemIntegers, List.forall_mem_append, ih, List.forall_mem_cons]
    rfl

/-- Entries can be written exactly if each name and each value can. -/
theorem forall_mem_entryIntegers (entries : List (Data × Data)) :
    (∀ n ∈ entryIntegers entries, isWritable n = true) ↔
      ∀ e ∈ entries, e.1.IsWritable ∧ e.2.IsWritable := by
  induction entries with
  | nil => simp [entryIntegers]
  | cons e rest ih =>
    obtain ⟨k, v⟩ := e
    rw [entryIntegers, List.forall_mem_append, List.forall_mem_append, ih, List.forall_mem_cons]
    rfl

/-- A list can be written exactly if each item can. -/
theorem isWritable_list_iff (items : List Data) :
    (Data.list items).IsWritable ↔ ∀ x ∈ items, x.IsWritable := by
  rw [IsWritable, integers]
  exact forall_mem_itemIntegers items

/-- A mapping can be written exactly if each name and each value can. -/
theorem isWritable_map_iff (entries : List (Data × Data)) :
    (Data.map entries).IsWritable ↔ ∀ e ∈ entries, e.1.IsWritable ∧ e.2.IsWritable := by
  rw [IsWritable, integers]
  exact forall_mem_entryIntegers entries

/-- An integer can be written exactly if its digits are few enough. -/
theorem isWritable_int_iff (n : Int) : (Data.int n).IsWritable ↔ isWritable n = true := by
  simp [IsWritable, integers]

/-- A double can be written. -/
theorem isWritable_float (x : Double) : (Data.float x).IsWritable := by
  simp [IsWritable, integers]

/-- A text can be written. -/
theorem isWritable_text (s : String) : (Data.text s).IsWritable := by
  simp [IsWritable, integers]

/-- So can one with surrogates. -/
theorem isWritable_ofCodeText (t : CodeText) : (ofCodeText t).IsWritable := by
  unfold ofCodeText ofCodes
  split
  · simp [IsWritable, integers]
  · exact isWritable_text _

mutual

/-- A value has a literal exactly if every integer in it can be written. -/
theorem literal?_ne_none_iff : ∀ v : Data, v.literal? ≠ none ↔ v.IsWritable
  | .null => by simp [literal?, IsWritable, integers]
  | .bool b => by simp [literal?, IsWritable, integers]
  | .int n => by simp [literal?, IsWritable, integers]
  | .float x => by simp [literal?, IsWritable, integers]
  | .text s => by simp [literal?, IsWritable, integers]
  | .brokenText codes => by simp [literal?, IsWritable, integers]
  | .bytes bs => by simp [literal?, IsWritable, integers]
  | .day d => by simp [literal?, IsWritable, integers]
  | .moment m => by simp [literal?, IsWritable, integers]
  | .list items => by
    rw [IsWritable, integers, ← literals?_ne_none_iff items, literal?]
    cases literals? items <;> simp
  | .map entries => by
    rw [IsWritable, integers, ← entryLiterals?_ne_none_iff entries, literal?]
    cases entryLiterals? entries <;> simp
  -- a set without members is not written in brackets, and has nothing that could fail
  | .set [] => by simp [literal?, IsWritable, integers, itemIntegers]
  | .set (x :: xs) => by
    have hmembers := literals?_ne_none_iff (x :: xs)
    rw [IsWritable, integers, ← hmembers]
    unfold literal?
    cases literals? (x :: xs) <;> simp
  | .pair a b => by
    rw [IsWritable, integers, List.forall_mem_append]
    change _ ↔ a.IsWritable ∧ b.IsWritable
    rw [← literal?_ne_none_iff a, ← literal?_ne_none_iff b, literal?]
    cases literal? a <;> cases literal? b <;> simp

/-- Items have literals exactly if every integer in them can be written. -/
theorem literals?_ne_none_iff : ∀ items : List Data,
    literals? items ≠ none ↔ ∀ n ∈ itemIntegers items, isWritable n = true
  | [] => by simp [literals?, itemIntegers]
  | x :: xs => by
    rw [itemIntegers, List.forall_mem_append, ← literals?_ne_none_iff xs]
    change _ ↔ x.IsWritable ∧ _
    rw [← literal?_ne_none_iff x, literals?]
    cases literal? x <;> cases literals? xs <;> simp

/-- Entries have literals exactly if every integer in them can be written. -/
theorem entryLiterals?_ne_none_iff : ∀ entries : List (Data × Data),
    entryLiterals? entries ≠ none ↔ ∀ n ∈ entryIntegers entries, isWritable n = true
  | [] => by simp [entryLiterals?, entryIntegers]
  | (k, v) :: rest => by
    rw [entryIntegers, List.forall_mem_append, List.forall_mem_append,
      ← entryLiterals?_ne_none_iff rest]
    change _ ↔ (k.IsWritable ∧ v.IsWritable) ∧ _
    rw [← literal?_ne_none_iff k, ← literal?_ne_none_iff v, entryLiterals?]
    cases literal? k <;> cases literal? v <;> cases entryLiterals? rest <;> simp

end

/-- A value can be shown as running text exactly if every integer in it can be written. -/
theorem display?_ne_none_iff (v : Data) : v.display? ≠ none ↔ v.IsWritable := by
  have hliteral : v.literal?.map CodeText.ofString ≠ none ↔ v.IsWritable := by
    rw [ne_eq, Option.map_eq_none_iff]
    exact literal?_ne_none_iff v
  cases v with
  | text s => simp [display?, IsWritable, integers]
  | brokenText codes => simp [display?, IsWritable, integers]
  | day d => simp [display?, IsWritable, integers]
  | moment m => simp [display?, IsWritable, integers]
  | _ => exact hliteral

end Courier.Data
