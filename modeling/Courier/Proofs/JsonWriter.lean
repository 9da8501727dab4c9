import Courier.Json.Writer
import Courier.Proofs.EncodingFault
import Courier.Proofs.JsonTree
import Courier.Proofs.QuotedText
import Courier.Proofs.TextCodes
import Mathlib.Data.Nat.Digits.Defs

/-!
# What is written as JSON is read back

The text of a value that JSON has is read as that value, with any indentation and on one line
(`read_write`). Writing is not inverted step by step: the text is that of a tree (`exists_tree`), of
which it is known what it is read as. So there is one lemma on each kind of token, none of which is
about reading.
-/

namespace Courier

namespace Data

mutual

/-- Whether a value is one that JSON has. Numbers are whole, with few enough digits to be written; the
names in a mapping are texts, no two of them the same. -/
def IsJson : Data → Prop
  | .null => True
  | .bool _ => True
  | .int n => isWritable n = true
  | .text _ => True
  | .list xs => AreJson xs
  | .map es => es.Pairwise (fun e f => f.1.same e.1 = false) ∧ EntriesAreJson es
  | _ => False

/-- Whether all items are values that JSON has. -/
def AreJson : List Data → Prop
  | [] => True
  | x :: xs => IsJson x ∧ AreJson xs

/-- Whether all entries have a text for their name and a value that JSON has. -/
def EntriesAreJson : List (Data × Data) → Prop
  | [] => True
  | (k, v) :: rest => (∃ name, k = .text name) ∧ IsJson v ∧ EntriesAreJson rest

end

end Data

namespace Json

/-! ## Mappings without repetition -/

/-- A name that is not there comes last. -/
theorem insertEntry_of_new {es : List (Data × Data)} {k : Data}
    (h : ∀ e ∈ es, k.same e.1 = false) (v : Data) : Data.insertEntry es k v = es ++ [(k, v)] := by
  induction es with
  | nil => rfl
  | cons e rest ih =>
    obtain ⟨hfirst, hrest⟩ := List.forall_mem_cons.1 h
    rw [Data.insertEntry, hfirst, ih hrest]
    rfl

/-- Entries whose names are all new come after those that are there. -/
theorem insertAll_of_new {es more : List (Data × Data)}
    (h : (es ++ more).Pairwise fun e f => f.1.same e.1 = false) :
    insertAll es more = es ++ more := by
  induction more generalizing es with
  | nil => rw [List.append_nil]; rfl
  | cons e rest ih =>
    have hnew : ∀ d ∈ es, e.1.same d.1 = false := fun d hd =>
      (List.pairwise_append.1 h).2.2 d hd e List.mem_cons_self
    rw [List.append_cons] at h ⊢
    show insertAll (Data.insertEntry es e.1 e.2) rest = _
    rw [insertEntry_of_new hnew]
    exact ih h

/-! ## Texts -/

/-- The number of a control character has four digits, which are read as that number. -/
theorem hexPadded_four : ∀ n < 0x20, (Text.hexPadded 4 n).length = 4 ∧
    ((Text.hexPadded 4 n).all fun c => (Text.hexDigit? c).isSome) = true ∧
    Text.hexValue (Text.hexPadded 4 n) = n := by
  decide +kernel

/-- Every character is written as a part of a string that stands for it. -/
theorem exists_piece (c : Char) : ∃ p : Piece, p.source = escapeChar c ∧ p.codeUnit = c.toNat := by
  unfold escapeChar
  split
  · exact ⟨.short '"' rfl, rfl, rfl⟩
  · exact ⟨.short '\\' rfl, rfl, rfl⟩
  · exact ⟨.short 'b' rfl, rfl, rfl⟩
  · exact ⟨.short 'f' rfl, rfl, rfl⟩
  · exact ⟨.short 'n' rfl, rfl, rfl⟩
  · exact ⟨.short 'r' rfl, rfl, rfl⟩
  · exact ⟨.short 't' rfl, rfl, rfl⟩
  · -- What is no quote and no backslash stands for itself, unless it is a control character.
    rename_i hquote hslash _ _ _ _ _
    split
    · rename_i hlow
      obtain ⟨hlength, hall, hvalue⟩ := hexPadded_four c.toNat hlow
      match hdigits : Text.hexPadded 4 c.toNat, hlength with
      | [w, x, y, z], _ =>
        rw [hdigits] at hall hvalue
        exact ⟨.code w x y z hall, rfl, hvalue⟩
    · rename_i hhigh
      exact ⟨.plain c ⟨Nat.not_lt.1 hhigh, hquote, hslash⟩, rfl, rfl⟩

/-- Every text is written as parts that stand for it. -/
theorem exists_text (s : String) :
    ∃ ps : List Piece, stringSource ps = stringText s ∧ pieceValue ps = .text s := by
  have hparts : ∀ cs : List Char, ∃ ps : List Piece,
      pieceSource ps = cs.flatMap escapeChar ∧ ps.map Piece.codeUnit = cs.map Char.toNat := by
    intro cs
    induction cs with
    | nil => exact ⟨[], rfl, rfl⟩
    | cons c cs ih =>
      obtain ⟨p, hp, hunit⟩ := exists_piece c
      obtain ⟨ps, hps, hunits⟩ := ih
      refine ⟨p :: ps, ?_, ?_⟩
      · rw [pieceSource_cons, hp, hps, List.flatMap_cons]
      · rw [List.map_cons, List.map_cons, hunit, hunits]
  obtain ⟨ps, hps, hunits⟩ := hparts s.toList
  refine ⟨ps, ?_, ?_⟩
  · rw [stringSource, hps, stringText]
  · -- No character is one half of a pair, so the code units are the characters again.
    rw [pieceValue, hunits, joinPairs_eq_self (Text.any_isSurrogate_map_toNat _),
      Data.ofCodes_map_toNat, String.ofList_toList]

/-! ## Integers -/

/-- The digits of a number stand for it. -/
theorem ofDigits_toDigits (n : Nat) : Numeral.ofDigits (Nat.toDigits 10 n) = n :=
  Nat.ofDigitChars_ten_toDigits

/-- Only zero begins with a zero. -/
theorem head_toDigits {n : Nat} (h : (Nat.toDigits 10 n).head? = some '0') : n = 0 := by
  induction n using Nat.strongRecOn with
  | ind n ih =>
    by_cases hn : n < 10
    · rw [Nat.toDigits_of_lt_base hn] at h
      have hzero : ∀ d < 10, Nat.digitChar d = '0' → d = 0 := by decide
      exact hzero n hn (Option.some.inj h)
    · -- The first digit is that of the number without its last one.
      rw [Nat.toDigits_of_base_le (by decide) (Nat.not_lt.1 hn),
        List.head?_append, Option.or_of_isSome (by simp [Nat.toDigits_ne_nil])] at h
      have hshorter := ih (n / 10) (by omega) h
      omega

/-- The digits of a number are whole ones. -/
theorem isWhole_toDigits (n : Nat) : IsWhole (Nat.toDigits 10 n) where
  all_digits := fun c hc => Nat.isDigit_of_mem_toDigits (by decide) (by decide) hc
  ne_nil := Nat.toDigits_ne_nil
  eq_zero := fun h => by rw [head_toDigits h]; rfl

/-- An integer is written as its sign and its digits. -/
theorem toList_toString (n : Int) :
    (toString n).toList = signSource (decide (n < 0)) ++ Nat.toDigits 10 n.natAbs := by
  cases n with
  | ofNat m =>
    have hsign : decide (Int.ofNat m < 0) = false := decide_eq_false (by simp)
    rw [hsign]
    show (String.ofList (Nat.toDigits 10 m)).toList = Nat.toDigits 10 m
    rw [String.toList_ofList]
  | negSucc m =>
    rw [decide_eq_true (Int.negSucc_lt_zero m)]
    show ("-" ++ String.ofList (Nat.toDigits 10 (m + 1))).toList =
      ['-'] ++ Nat.toDigits 10 (m + 1)
    rw [String.toList_append, String.toList_ofList, String.toList_ofList]

/-- The sign and the digits of an integer stand for it. -/
theorem ofSignedDigits_toDigits (n : Int) :
    Numeral.ofSignedDigits (decide (n < 0)) (Nat.toDigits 10 n.natAbs) = n := by
  rw [Numeral.ofSignedDigits, ofDigits_toDigits]
  split
  · rename_i hneg
    rw [decide_eq_true_eq] at hneg
    omega
  · rename_i hneg
    rw [decide_eq_true_eq] at hneg
    omega

/-- The digits of a number below a power of ten are no more than its exponent. -/
theorem length_toDigits_le {n most : Nat} (hmost : 0 < most) (h : n < Nat.pow 10 most) :
    (Nat.toDigits 10 n).length ≤ most :=
  Nat.toDigits_length _ _ _ hmost h

/-- An integer with few enough digits is written as a literal that stands for it. -/
theorem exists_integer {n : Int} (h : isWritable n = true) :
    ∃ l : Literal, l.source = (toString n).toList ∧ l.value = .int n := by
  have hlength : (Nat.toDigits 10 n.natAbs).length ≤ maxDigits :=
    length_toDigits_le (by decide) (of_decide_eq_true h)
  refine ⟨.integer (decide (n < 0)) (Nat.toDigits 10 n.natAbs) (isWhole_toDigits _) hlength,
    (toList_toString n).symm, ?_⟩
  exact congrArg Data.int (ofSignedDigits_toDigits n)

/-! ## Brackets -/

/-- A line break with its indentation as white space. -/
def lineGap (indent : Option Nat) (level : Nat) : Gap where
  val := lineBreak indent level
  property := by
    cases indent with
    | none => rfl
    | some n => simp [lineBreak, isSpace]

/-- Parts behind the first line break, up to the closing bracket. -/
def partsText (indent : Option Nat) (level : Nat) (closing : Char) : List (List Char) → List Char
  | [] => []
  | [part] => part ++ lineBreak indent level ++ [closing]
  | part :: next :: rest =>
    part ++ ',' :: (lineBreak indent (level + 1) ++ partsText indent level closing (next :: rest))

/-- Parts between brackets. -/
theorem bracketed_of_ne_nil (indent : Option Nat) (level : Nat) (opening closing : Char)
    {parts : List (List Char)} (h : parts ≠ []) :
    bracketed indent level opening closing parts =
      opening :: lineBreak indent (level + 1) ++ partsText indent level closing parts := by
  -- The line break in front of the first part is drawn out, that of every other one put to its comma.
  have hparts : List.intercalate [','] (parts.map (lineBreak indent (level + 1) ++ ·)) ++
      lineBreak indent level ++ [closing] =
        lineBreak indent (level + 1) ++ partsText indent level closing parts := by
    fun_induction partsText indent level closing parts with
    | case1 => exact (h rfl).elim
    | case2 part => simp
    | case3 part next rest ih =>
      rw [← ih (List.cons_ne_nil _ _)]
      simp [List.intercalate_cons_cons]
  rw [bracketed, if_neg (by rwa [List.isEmpty_iff]), hparts]
  rfl

/-- The name of a member, with its colon, as it is written. -/
theorem exists_name (indent : Option Nat) (s : String) :
    ∃ name : Name, name.source id = stringText s ++ colon indent ∧
      pieceValue name.pieces = .text s := by
  obtain ⟨ps, hps, hvalue⟩ := exists_text s
  cases indent with
  | none => exact ⟨⟨ps, ⟨[], rfl⟩, ⟨[], rfl⟩⟩, by simp [Name.source, hps, colon], hvalue⟩
  | some n => exact ⟨⟨ps, ⟨[], rfl⟩, ⟨[' '], rfl⟩⟩, by simp [Name.source, hps, colon], hvalue⟩

/-- A member with a text for its name is that text, a colon and the text of its value. -/
theorem memberTexts_text (indent : Option Nat) (level : Nat) (s : String) (v : Data)
    (rest : List (Data × Data)) :
    memberTexts indent level ((.text s, v) :: rest) =
      (stringText s ++ colon indent ++ valueText indent level v) ::
        memberTexts indent level rest := by
  rw [memberTexts, Data.display?, Option.getD_some, CodeText.shown_ofString]

/-! ## Values

The induction is on the value, with its items and its entries. The level is that of the text around
it, and brackets are one level further in. -/

mutual

/-- The text of a value that JSON has is that of a tree with this value. -/
theorem exists_tree (indent : Option Nat) (level : Nat) : ∀ v : Data, v.IsJson →
    ∃ t : Tree, t.source id = valueText indent level v ∧ t.value = v
  | .null, _ => ⟨.literal (.word "null" .null (by simp [words])), rfl, rfl⟩
  | .bool true, _ => ⟨.literal (.word "true" (.bool true) (by simp [words])), rfl, rfl⟩
  | .bool false, _ => ⟨.literal (.word "false" (.bool false) (by simp [words])), rfl, rfl⟩
  | .int n, h => by
    obtain ⟨l, hl, hvalue⟩ := exists_integer h
    exact ⟨.literal l, by rw [Tree.source, hl, valueText], hvalue⟩
  | .text s, _ => by
    obtain ⟨ps, hps, hvalue⟩ := exists_text s
    exact ⟨.text ps, by rw [Tree.source, hps, valueText], hvalue⟩
  | .list [], _ => ⟨.emptyList ⟨[], rfl⟩, rfl, rfl⟩
  | .list (x :: xs), h => by
    obtain ⟨is, his, hvalues⟩ := exists_items indent level (x :: xs) (List.cons_ne_nil _ _) h
    refine ⟨.list (lineGap indent (level + 1)) is, ?_, ?_⟩
    · rw [Tree.source, his, valueText, bracketed_of_ne_nil]
      · rfl
      · exact List.cons_ne_nil _ _
    · rw [Tree.value, hvalues]
  | .map [], _ => ⟨.emptyMap ⟨[], rfl⟩, rfl, rfl⟩
  | .map (e :: es), ⟨hnew, h⟩ => by
    obtain ⟨ms, hms, hentries⟩ := exists_members indent level (e :: es) (List.cons_ne_nil _ _) h
    refine ⟨.map (lineGap indent (level + 1)) ms, ?_, ?_⟩
    · rw [Tree.source, hms, valueText, bracketed_of_ne_nil]
      · rfl
      · exact List.cons_ne_nil _ _
    · rw [Tree.value, hentries, insertAll_of_new hnew, List.nil_append]

/-- So is the text of items. -/
theorem exists_items (indent : Option Nat) (level : Nat) : ∀ xs : List Data, xs ≠ [] →
    Data.AreJson xs → ∃ is : Items,
      is.source id = partsText indent level ']' (itemTexts indent (level + 1) xs) ∧
        is.values = xs
  | [x], _, ⟨hx, _⟩ => by
    obtain ⟨t, ht, hvalue⟩ := exists_tree indent (level + 1) x hx
    refine ⟨.last t (lineGap indent level), ?_, ?_⟩
    · rw [Items.source, ht]
      rfl
    · rw [Items.values, hvalue]
  | x :: y :: xs, _, ⟨hx, hrest⟩ => by
    obtain ⟨t, ht, hvalue⟩ := exists_tree indent (level + 1) x hx
    obtain ⟨is, his, hvalues⟩ := exists_items indent level (y :: xs) (List.cons_ne_nil _ _) hrest
    refine ⟨.more t ⟨[], rfl⟩ (lineGap indent (level + 1)) is, ?_, ?_⟩
    · rw [Items.source, ht, his]
      simp [lineGap, itemTexts, partsText]
    · rw [Items.values, hvalue, hvalues]

/-- And that of members. -/
theorem exists_members (indent : Option Nat) (level : Nat) : ∀ es : List (Data × Data), es ≠ [] →
    Data.EntriesAreJson es → ∃ ms : Members,
      ms.source id = partsText indent level '\x7d' (memberTexts indent (level + 1) es) ∧
        ms.entries = es
  | [(k, v)], _, ⟨⟨s, hs⟩, hv, _⟩ => by
    obtain ⟨name, hname, htext⟩ := exists_name indent s
    obtain ⟨t, ht, hvalue⟩ := exists_tree indent (level + 1) v hv
    refine ⟨.last name t (lineGap indent level), ?_, ?_⟩
    · rw [Members.source, hname, ht, hs, memberTexts_text]
      rfl
    · rw [Members.entries, htext, hvalue, hs]
  | (k, v) :: e :: es, _, ⟨⟨s, hs⟩, hv, hrest⟩ => by
    obtain ⟨name, hname, htext⟩ := exists_name indent s
    obtain ⟨t, ht, hvalue⟩ := exists_tree indent (level + 1) v hv
    obtain ⟨ms, hms, hentries⟩ := exists_members indent level (e :: es) (List.cons_ne_nil _ _) hrest
    refine ⟨.more name t ⟨[], rfl⟩ (lineGap indent (level + 1)) ms, ?_, ?_⟩
    · obtain ⟨k', v'⟩ := e
      rw [Members.source, hname, ht, hms, hs, memberTexts_text, memberTexts]
      simp [lineGap, partsText]
    · rw [Members.entries, htext, hvalue, hentries, hs]

end

/-- What is written is read back, with any indentation and on one line. -/
theorem read_write (indent : Option Nat) {v : Data} (h : v.IsJson) :
    read (write indent v) = .ok v := by
  obtain ⟨t, ht, hvalue⟩ := exists_tree indent 0 v h
  refine (read_eq_ok_iff _ _).2 ⟨⟨⟨[], rfl⟩, t, ⟨[], rfl⟩⟩, ?_, hvalue⟩
  rw [write, String.toList_ofList, ← ht]
  simp [Document.source]

end Json

end Courier
