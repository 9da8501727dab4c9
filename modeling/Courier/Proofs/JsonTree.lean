import Courier.Proofs.Basic
import Courier.Proofs.JsonLiteral
import Mathlib.Data.List.TakeWhile

/-!
# JSON texts as trees

A JSON text as a tree that keeps everything written in it: the white space, the spelling of each
number and the escapes of each string. Every tree is the tree of a text that is read, and every text
that is read has one (`read_eq_ok_iff`).

The white space is written by a function, since a text whose line breaks are made plain differs from
the text only there.
-/

namespace Courier.Json

open Numeral (isDigit)

/-! ## Trees -/

/-- White space between tokens. -/
abbrev Gap := { cs : List Char // cs.all isSpace = true }

/-- The name of a member up to its colon and the white space behind it. -/
structure Name where
  pieces : List Piece
  before : Gap
  behind : Gap

mutual

/-- A value. -/
inductive Tree where
  | literal (l : Literal)
  | text (pieces : List Piece)
  | emptyList (gap : Gap)
  | list (gap : Gap) (items : Items)
  | emptyMap (gap : Gap)
  | map (gap : Gap) (members : Members)

/-- Items with the white space around them, up to the closing bracket. -/
inductive Items where
  | last (v : Tree) (before : Gap)
  | more (v : Tree) (before behind : Gap) (rest : Items)

/-- Members with the white space around them, up to the closing brace. -/
inductive Members where
  | last (name : Name) (v : Tree) (before : Gap)
  | more (name : Name) (v : Tree) (before behind : Gap) (rest : Members)

end

/-- A whole text. -/
structure Document where
  before : Gap
  root : Tree
  behind : Gap

section Source

variable (write : List Char → List Char)

/-- How a name is written. -/
def Name.source (n : Name) : List Char :=
  stringSource n.pieces ++ write n.before ++ ':' :: write n.behind

mutual

/-- How a value is written. -/
def Tree.source : Tree → List Char
  | .literal l => l.source
  | .text ps => stringSource ps
  | .emptyList gap => '[' :: write gap ++ [']']
  | .list gap items => '[' :: write gap ++ items.source
  | .emptyMap gap => '\x7b' :: write gap ++ ['\x7d']
  | .map gap members => '\x7b' :: write gap ++ members.source

/-- How items are written. -/
def Items.source : Items → List Char
  | .last v before => v.source ++ write before ++ [']']
  | .more v before behind rest =>
    v.source ++ write before ++ ',' :: write behind ++ rest.source

/-- How members are written. -/
def Members.source : Members → List Char
  | .last name v before => name.source write ++ v.source ++ write before ++ ['\x7d']
  | .more name v before behind rest =>
    name.source write ++ v.source ++ write before ++ ',' :: write behind ++ rest.source

end

/-- How a text is written. -/
def Document.source (d : Document) : List Char :=
  write d.before ++ d.root.source write ++ write d.behind

end Source

/-- Entries with others added one after another. -/
def insertAll (es more : List (Data × Data)) : List (Data × Data) :=
  more.foldl (fun es e => Data.insertEntry es e.1 e.2) es

mutual

/-- The value that is written. -/
def Tree.value : Tree → Data
  | .literal l => l.value
  | .text ps => pieceValue ps
  | .emptyList _ => .list []
  | .list _ items => .list items.values
  | .emptyMap _ => .map []
  | .map _ members => .map (insertAll [] members.entries)

/-- The values of items. -/
def Items.values : Items → List Data
  | .last v _ => [v.value]
  | .more v _ _ rest => v.value :: rest.values

/-- The names and values of members, a name perhaps more than once. -/
def Members.entries : Members → List (Data × Data)
  | .last name v _ => [(pieceValue name.pieces, v.value)]
  | .more name v _ _ rest => (pieceValue name.pieces, v.value) :: rest.entries

end

/-! ## White space -/

/-- White space is skipped up to a token. -/
theorem skipSpace_gap (gap : Gap) {c : Char} (hc : isSpace c = false) (r : List Char) :
    skipSpace (gap ++ c :: r) = c :: r := by
  have hgap : ∀ d ∈ gap.1, isSpace d = true := List.all_eq_true.1 gap.2
  rw [skipSpace, List.dropWhile_append_of_pos hgap, List.dropWhile_cons_of_neg (by simp [hc])]

/-- What is skipped is white space. -/
theorem exists_gap (cs : List Char) : ∃ gap : Gap, cs = gap ++ skipSpace cs :=
  ⟨⟨cs.takeWhile isSpace, List.all_takeWhile⟩, List.takeWhile_append_dropWhile.symm⟩

/-- A literal may end before white space and a comma or a closing bracket. -/
theorem ends_gap (gap : Gap) {c : Char} (hc : c ∈ [',', ']', '\x7d']) (r : List Char) :
    Ends (gap ++ c :: r) := by
  obtain ⟨gap, hgap⟩ := gap
  intro d hd
  cases gap with
  | nil =>
    cases hd
    exact .inr hc
  | cons e gap =>
    cases hd
    exact .inl (List.all_eq_true.1 hgap _ List.mem_cons_self)

/-- A value begins with no white space and no closing bracket. -/
theorem Tree.exists_head (write : List Char → List Char) (t : Tree) :
    ∃ c u, t.source write = c :: u ∧ isSpace c = false ∧ c ≠ ']' := by
  cases t with
  | literal l =>
    obtain ⟨c, u, hl, hc⟩ := l.exists_head
    refine ⟨c, u, hl, ?_, ?_⟩
    · rw [Bool.eq_false_iff]
      intro hspace
      simp only [isSpace, Bool.or_eq_true, beq_iff_eq, or_assoc] at hspace
      obtain rfl | rfl | rfl | rfl := hspace <;> cases hc
    · rintro rfl
      cases hc
  | text ps => exact ⟨'"', _, rfl, rfl, by decide⟩
  | emptyList gap => exact ⟨'[', _, rfl, rfl, by decide⟩
  | list gap items => exact ⟨'[', _, rfl, rfl, by decide⟩
  | emptyMap gap => exact ⟨'\x7b', _, rfl, rfl, by decide⟩
  | map gap members => exact ⟨'\x7b', _, rfl, rfl, by decide⟩

/-- Items begin like a value. -/
theorem Items.exists_head (write : List Char → List Char) (is : Items) :
    ∃ c u, is.source write = c :: u ∧ isSpace c = false ∧ c ≠ ']' := by
  cases is with
  | last v before =>
    obtain ⟨c, u, hv, hc⟩ := v.exists_head write
    exact ⟨c, _, by rw [Items.source, hv]; rfl, hc⟩
  | more v before behind rest =>
    obtain ⟨c, u, hv, hc⟩ := v.exists_head write
    exact ⟨c, _, by rw [Items.source, hv]; rfl, hc⟩

/-- Members begin with a quote. -/
theorem Members.exists_head (write : List Char → List Char) (ms : Members) :
    ∃ u, ms.source write = '"' :: u := by
  cases ms with
  | last name v before => exact ⟨_, rfl⟩
  | more name v before behind rest => exact ⟨_, rfl⟩

/-! ## Trees are read -/

mutual

/-- The text of a tree is read as its value. -/
theorem value_source (t : Tree) (fuel : Nat) {r : List Char} (hr : Ends r)
    (hfuel : (t.source id).length ≤ fuel) :
    value fuel (t.source id ++ r) = .ok (t.value, r) := by
  obtain ⟨c, u, hsource, -⟩ := t.exists_head id
  obtain ⟨fuel, rfl⟩ : ∃ n, fuel = n + 1 := by
    rw [hsource, List.length_cons] at hfuel
    exact ⟨fuel - 1, by omega⟩
  clear hsource
  cases t with
  | literal l => exact value_literal fuel l hr
  | text ps =>
    simp only [Tree.source, stringSource, List.cons_append, List.append_assoc, List.nil_append,
      value, stringBody_pieceSource, Tree.value]
  | emptyList gap =>
    simp only [Tree.source, List.cons_append, List.append_assoc, List.nil_append, id, value,
      skipSpace_gap gap (c := ']') rfl, Tree.value]
  | emptyMap gap =>
    simp only [Tree.source, List.cons_append, List.append_assoc, List.nil_append, id, value,
      skipSpace_gap gap (c := '\x7d') rfl, Tree.value]
  | list gap is =>
    obtain ⟨c, u, hsource, hspace, hclose⟩ := is.exists_head id
    have hread := items_source is fuel r (by
      simp only [Tree.source, List.length_cons, List.length_append] at hfuel
      omega)
    rw [hsource] at hread
    simp only [Tree.source, List.cons_append, List.append_assoc, id, value, hsource,
      skipSpace_gap gap hspace, Tree.value]
    split
    · rename_i heq
      exact (hclose (List.cons.inj heq).1).elim
    · rename_i heq
      exact hread
  | map gap ms =>
    obtain ⟨u, hsource⟩ := ms.exists_head id
    have hread := members_source ms fuel [] r (by
      simp only [Tree.source, List.length_cons, List.length_append] at hfuel
      omega)
    rw [hsource] at hread
    simp only [Tree.source, List.cons_append, List.append_assoc, id, value, hsource,
      skipSpace_gap gap (c := '"') rfl, Tree.value]
    exact hread

/-- The text of items is read as their values. -/
theorem items_source (is : Items) (fuel : Nat) (r : List Char)
    (hfuel : (is.source id).length ≤ fuel) :
    items fuel (is.source id ++ r) = .ok (.list is.values, r) := by
  cases is with
  | last v before =>
    simp only [Items.source, List.length_append, List.length_cons, List.length_nil, id] at hfuel
    obtain ⟨fuel, rfl⟩ : ∃ n, fuel = n + 1 := ⟨fuel - 1, by omega⟩
    have hv := value_source v fuel (ends_gap before (c := ']') (by decide) r) (by omega)
    simp only [Items.source, List.append_assoc, List.cons_append, List.nil_append, id, items, hv,
      bind, Except.bind, skipSpace_gap before (c := ']') rfl, Items.values]
  | more v before behind rest =>
    simp only [Items.source, List.length_append, List.length_cons, id] at hfuel
    obtain ⟨fuel, rfl⟩ : ∃ n, fuel = n + 1 := ⟨fuel - 1, by omega⟩
    have hv := value_source v fuel
      (ends_gap before (c := ',') (by decide) (behind ++ (rest.source id ++ r))) (by omega)
    have hrest := items_source rest fuel r (by omega)
    obtain ⟨c, u, hsource, hspace, -⟩ := rest.exists_head id
    rw [hsource] at hv hrest
    rw [List.cons_append] at hv hrest
    simp only [Items.source, List.append_assoc, List.cons_append, id, items, hv, bind, Except.bind,
      skipSpace_gap before (c := ',') rfl, hsource, skipSpace_gap behind hspace, hrest,
      Items.values]

/-- The text of members is read as their entries, added to those before them. -/
theorem members_source (ms : Members) (fuel : Nat) (es : List (Data × Data)) (r : List Char)
    (hfuel : (ms.source id).length ≤ fuel) :
    members fuel es (ms.source id ++ r) = .ok (.map (insertAll es ms.entries), r) := by
  cases ms with
  | last name v before =>
    simp only [Members.source, List.length_append, List.length_cons, List.length_nil, id] at hfuel
    obtain ⟨fuel, rfl⟩ : ∃ n, fuel = n + 1 := ⟨fuel - 1, by omega⟩
    have hv := value_source v fuel (ends_gap before (c := '\x7d') (by decide) r) (by omega)
    obtain ⟨c, u, hsource, hspace, -⟩ := v.exists_head id
    rw [hsource, List.cons_append] at hv
    simp only [Members.source, Name.source, stringSource, List.append_assoc, List.cons_append,
      List.nil_append, id, members, stringBody_pieceSource, bind, Except.bind,
      skipSpace_gap name.before (c := ':') rfl, hsource, skipSpace_gap name.behind hspace, hv,
      skipSpace_gap before (c := '\x7d') rfl, Members.entries, insertAll, List.foldl_cons,
      List.foldl_nil]
  | more name v before behind rest =>
    simp only [Members.source, List.length_append, List.length_cons, id] at hfuel
    obtain ⟨fuel, rfl⟩ : ∃ n, fuel = n + 1 := ⟨fuel - 1, by omega⟩
    have hv := value_source v fuel
      (ends_gap before (c := ',') (by decide) (behind ++ (rest.source id ++ r))) (by omega)
    have hrest := members_source rest fuel
      (Data.insertEntry es (pieceValue name.pieces) v.value) r (by omega)
    obtain ⟨c, u, hsource, hspace, -⟩ := v.exists_head id
    obtain ⟨w, hquote⟩ := rest.exists_head id
    rw [hsource, hquote] at hv
    rw [hquote] at hrest
    rw [List.cons_append, List.cons_append] at hv
    rw [List.cons_append] at hrest
    simp only [Members.source, Name.source, stringSource, List.append_assoc, List.cons_append,
      List.nil_append, id, members, stringBody_pieceSource, bind, Except.bind,
      skipSpace_gap name.before (c := ':') rfl, hsource, skipSpace_gap name.behind hspace, hv,
      skipSpace_gap before (c := ',') rfl, hquote, skipSpace_gap behind (c := '"') rfl, hrest,
      Members.entries, insertAll, List.foldl_cons]

end

/-! ## What is read has a tree -/

/-- With some fuel, what the three readers read has a tree. -/
structure HasTree (fuel : Nat) : Prop where
  value {cs r : List Char} {v : Data} :
    value fuel cs = .ok (v, r) → ∃ t : Tree, cs = t.source id ++ r ∧ t.value = v
  items {cs r : List Char} {v : Data} :
    items fuel cs = .ok (v, r) → ∃ is : Items, cs = is.source id ++ r ∧ .list is.values = v
  members {es : List (Data × Data)} {cs r : List Char} {v : Data} :
    members fuel es cs = .ok (v, r) →
      ∃ ms : Members, cs = ms.source id ++ r ∧ .map (insertAll es ms.entries) = v

section Step

variable {fuel : Nat} {cs r : List Char} {v : Data}

/-- White space up to a token that is found behind it. -/
theorem exists_gap_of_skipSpace {cs t : List Char} (h : skipSpace cs = t) :
    ∃ gap : Gap, cs = gap ++ t := by
  obtain ⟨gap, hgap⟩ := exists_gap cs
  exact ⟨gap, by rw [← h, ← hgap]⟩

/-- A value is a string, a literal or a collection. -/
theorem exists_tree_of_value (ih : HasTree fuel) (h : value (fuel + 1) cs = .ok (v, r)) :
    ∃ t : Tree, cs = t.source id ++ r ∧ t.value = v := by
  unfold value at h
  split at h
  · obtain ⟨ps, rfl, rfl⟩ := exists_pieces_of_stringBody h
    exact ⟨.text ps, by simp [Tree.source, stringSource], rfl⟩
  · rename_i t
    split at h
    · rename_i u hskip
      cases h
      obtain ⟨gap, rfl⟩ := exists_gap_of_skipSpace hskip
      exact ⟨.emptyList gap, by simp [Tree.source], rfl⟩
    · obtain ⟨gap, hgap⟩ := exists_gap t
      obtain ⟨is, his, rfl⟩ := ih.items h
      exact ⟨.list gap is, by rw [hgap, his]; simp [Tree.source], rfl⟩
  · rename_i t
    split at h
    · rename_i u hskip
      cases h
      obtain ⟨gap, rfl⟩ := exists_gap_of_skipSpace hskip
      exact ⟨.emptyMap gap, by simp [Tree.source], rfl⟩
    · obtain ⟨gap, hgap⟩ := exists_gap t
      obtain ⟨ms, hms, rfl⟩ := ih.members h
      exact ⟨.map gap ms, by rw [hgap, hms]; simp [Tree.source], rfl⟩
  · obtain ⟨l, rfl, rfl⟩ : ∃ l : Literal, cs = l.source ++ r ∧ l.value = v := by
      split at h
      · rename_i found hword
        cases h
        exact exists_literal_of_word? hword
      · exact exists_literal_of_number h
    exact ⟨.literal l, rfl, rfl⟩

/-- Items are a value, and others behind a comma. -/
theorem exists_tree_of_items (ih : HasTree fuel) (h : items (fuel + 1) cs = .ok (v, r)) :
    ∃ is : Items, cs = is.source id ++ r ∧ .list is.values = v := by
  unfold items at h
  obtain ⟨⟨first, afterFirst⟩, hfirst, h⟩ := bind_eq_ok_iff.1 h
  obtain ⟨t, rfl, rfl⟩ := ih.value hfirst
  simp only at h
  split at h
  · rename_i u hskip
    cases h
    obtain ⟨before, hbefore⟩ := exists_gap_of_skipSpace hskip
    rw [hbefore]
    exact ⟨.last t before, by simp [Items.source], rfl⟩
  · rename_i u hskip
    obtain ⟨before, hbefore⟩ := exists_gap_of_skipSpace hskip
    obtain ⟨behind, hbehind⟩ := exists_gap u
    obtain ⟨⟨others, w⟩, hothers, h⟩ := bind_eq_ok_iff.1 h
    obtain ⟨is, his, rfl⟩ := ih.items hothers
    cases h
    rw [hbefore, hbehind, his]
    exact ⟨.more t before behind is, by simp [Items.source], rfl⟩
  · cases h

/-- A member is a name and a value, and others come behind a comma. -/
theorem exists_tree_of_members (ih : HasTree fuel) {es : List (Data × Data)}
    (h : members (fuel + 1) es cs = .ok (v, r)) :
    ∃ ms : Members, cs = ms.source id ++ r ∧ .map (insertAll es ms.entries) = v := by
  unfold members at h
  split at h
  · obtain ⟨⟨name, afterName⟩, hname, h⟩ := bind_eq_ok_iff.1 h
    obtain ⟨ps, rfl, rfl⟩ := exists_pieces_of_stringBody hname
    simp only at h
    split at h
    · rename_i t hcolon
      obtain ⟨nameBefore, hnameBefore⟩ := exists_gap_of_skipSpace hcolon
      obtain ⟨nameBehind, hnameBehind⟩ := exists_gap t
      obtain ⟨⟨found, afterValue⟩, hfound, h⟩ := bind_eq_ok_iff.1 h
      obtain ⟨tree, htree, rfl⟩ := ih.value hfound
      simp only at h
      split at h
      · rename_i u hskip
        cases h
        obtain ⟨before, hbefore⟩ := exists_gap_of_skipSpace hskip
        rw [hnameBefore, hnameBehind, htree, hbefore]
        exact ⟨.last ⟨ps, nameBefore, nameBehind⟩ tree before,
          by simp [Members.source, Name.source, stringSource], rfl⟩
      · rename_i u hskip
        obtain ⟨before, hbefore⟩ := exists_gap_of_skipSpace hskip
        obtain ⟨behind, hbehind⟩ := exists_gap u
        obtain ⟨ms, hms, rfl⟩ := ih.members h
        rw [hnameBefore, hnameBehind, htree, hbefore, hbehind, hms]
        exact ⟨.more ⟨ps, nameBefore, nameBehind⟩ tree before behind ms,
          by simp [Members.source, Name.source, stringSource], rfl⟩
      · cases h
    · cases h
  · cases h

end Step

/-- Whatever the fuel is, what is read has a tree. -/
theorem hasTree (fuel : Nat) : HasTree fuel := by
  induction fuel with
  | zero => exact ⟨nofun, nofun, nofun⟩
  | succ fuel ih => exact ⟨exists_tree_of_value ih, exists_tree_of_items ih,
      exists_tree_of_members ih⟩

/-- A text is read as a value exactly if it is the text of a tree with that value. -/
theorem read_eq_ok_iff (s : String) (v : Data) :
    read s = .ok v ↔ ∃ d : Document, d.source id = s.toList ∧ d.root.value = v := by
  constructor
  · intro h
    unfold read at h
    simp only at h
    split at h
    · cases h
    · rename_i v' r hvalue
      split at h
      · rename_i hempty
        cases h
        obtain ⟨t, ht, rfl⟩ := (hasTree _).value hvalue
        obtain ⟨before, hbefore⟩ := exists_gap s.toList
        obtain ⟨behind, hbehind⟩ := exists_gap r
        rw [List.isEmpty_iff] at hempty
        refine ⟨⟨before, t, behind⟩, ?_, rfl⟩
        rw [hbefore, ht, hbehind, hempty]
        simp [Document.source]
      · cases h
  · rintro ⟨⟨before, t, behind⟩, hsource, rfl⟩
    obtain ⟨c, u, ht, hspace, -⟩ := t.exists_head id
    have hskip : skipSpace s.toList = t.source id ++ behind := by
      rw [← hsource, Document.source, ht, List.append_assoc, List.cons_append]
      exact skipSpace_gap before hspace _
    have hends : Ends behind := fun c hc =>
      .inl (List.all_eq_true.1 behind.2 c (List.mem_of_mem_head? hc))
    have hrest : skipSpace behind = [] :=
      List.dropWhile_eq_nil_iff.2 (List.all_eq_true.1 behind.2)
    have hvalue := value_source t (2 * (t.source id ++ behind).length + 2) hends (by
      rw [List.length_append]
      omega)
    unfold read
    simp only [hskip, hvalue, hrest, List.isEmpty_nil, if_true]

end Courier.Json
