import Courier.Proofs.FlowTokens
import Courier.Proofs.Template
import Courier.Proofs.TextCodes

/-!
# References in a JSON text

Where the texts of a value refer to no variable of the process, resolving leaves the value as it is
(`resolve_of_isSettled`). A JSON text in which no reference opens has such a value
(`Document.isSettled_value`), unless an escape stands for a character of the mark that opens one.
-/

namespace Courier

open Text (Marks Segment referenceNames segments)

/-! ## Values without references -/

mutual

/-- Whether no text in a value refers to a variable of the process or has half of a pair in it. Names
of entries do not count. -/
def Data.isSettled : Data → Bool
  | .text s => (referenceNames (segments Marks.dollar (s.toList.map Char.toNat))).isEmpty
  | .brokenText _ => false
  | .list xs => itemsAreSettled xs
  | .map es => entriesAreSettled es
  | _ => true

/-- The same for items. -/
def Data.itemsAreSettled : List Data → Bool
  | [] => true
  | x :: xs => x.isSettled && itemsAreSettled xs

/-- The same for the values of entries. -/
def Data.entriesAreSettled : List (Data × Data) → Bool
  | [] => true
  | (_, v) :: rest => v.isSettled && entriesAreSettled rest

end

namespace ProcessEnvironment

variable (env : ProcessEnvironment)

/-- Pieces without references stay. -/
theorem resolveSegments_of_plain {segs : List (Segment Nat)} (h : referenceNames segs = []) :
    env.resolveSegments segs = .ok (segs.flatMap (Segment.source Marks.dollar)) := by
  induction segs with
  | nil => rfl
  | cons seg segs ih =>
    cases seg with
    | plain c =>
      rw [resolveSegments, ih h]
      rfl
    | reference name => cases h

/-- A text without references stays. -/
theorem resolveText_of_plain {codes : List Nat}
    (h : referenceNames (segments Marks.dollar codes) = []) :
    env.resolveText codes = .ok (Data.ofCodes codes) := by
  rw [resolveText, resolveSegments_of_plain env h, Text.segments_source]
  rfl

mutual

/-- A value without references stays. -/
theorem resolve_of_isSettled (v : Data) (h : v.isSettled = true) : env.resolve v = .ok v := by
  cases v with
  | text s =>
    rw [resolve, resolveText_of_plain env (List.isEmpty_iff.1 h), Data.ofCodes_map_toNat,
      String.ofList_toList]
  | brokenText codes => cases h
  | list xs =>
    rw [resolve, resolveItems_of_isSettled xs h]
    rfl
  | map es =>
    rw [resolve, resolveEntries_of_isSettled es h]
    rfl
  | _ => rfl

/-- Items without references stay. -/
theorem resolveItems_of_isSettled (xs : List Data) (h : Data.itemsAreSettled xs = true) :
    env.resolveItems xs = .ok xs := by
  cases xs with
  | nil => rfl
  | cons x xs =>
    rw [Data.itemsAreSettled, Bool.and_eq_true] at h
    rw [resolveItems, resolve_of_isSettled x h.1, resolveItems_of_isSettled xs h.2]
    rfl

/-- Entries without references stay. -/
theorem resolveEntries_of_isSettled (es : List (Data × Data))
    (h : Data.entriesAreSettled es = true) : env.resolveEntries es = .ok es := by
  cases es with
  | nil => rfl
  | cons e es =>
    obtain ⟨k, v⟩ := e
    rw [Data.entriesAreSettled, Bool.and_eq_true] at h
    rw [resolveEntries, resolve_of_isSettled v h.1, resolveEntries_of_isSettled es h.2]
    rfl

end

end ProcessEnvironment

/-! ## Texts in which no reference opens -/

/-- Where no reference opens, there is none. -/
theorem referenceNames_segments_of_not_infix {codes : List Nat} (h : ¬ [0x24, 0x7B] <:+: codes) :
    referenceNames (segments Marks.dollar codes) = [] := by
  rw [Text.segments_eq_map_plain, referenceNames, List.filterMap_map, List.filterMap_eq_nil_iff]
  · exact fun _ _ => rfl
  · rintro before _ rfl ⟨name, rest, -, -, rfl⟩
    exact h ((List.prefix_append Marks.dollar.opening _).isInfix.trans
      (List.suffix_append before _).isInfix)

/-- The mark opens no reference in the code points of characters in which it does not stand. -/
theorem not_infix_map_toNat {cs : List Char} (h : ¬ ['$', '\x7b'] <:+: cs) :
    ¬ [0x24, 0x7B] <:+: cs.map Char.toNat := by
  intro hopen
  have hback := hopen.map Char.ofNat
  rw [Text.map_ofNat_map_toNat] at hback
  exact h hback

namespace Json

/-- Whether a part of a string is an escape for a character of the mark that opens a reference. -/
def Piece.hidesMark : Piece → Bool
  | p@(.code ..) => ['$', '\x7b'].contains (Char.ofNat p.codeUnit)
  | _ => false

/-- A character of the mark that is not hidden stands for itself. -/
theorem Piece.source_of_mark {p : Piece} (hp : p.hidesMark = false) {ch : Char}
    (hch : ch ∈ ['$', '\x7b']) (h : Char.ofNat p.codeUnit = ch) : p.source = [ch] := by
  subst h
  cases p with
  | plain c hc => rw [Piece.source, Piece.codeUnit, Char.ofNat_toNat]
  | short e he =>
    obtain ⟨n, hn⟩ := Option.isSome_iff_exists.1 he
    simp only [Piece.codeUnit, hn, Option.get_some] at hch
    unfold shortEscape? at hn
    split at hn <;> cases hn <;> exact absurd hch (by decide)
  | code a b c d hdigits =>
    simp only [Piece.hidesMark, List.contains_eq_mem, decide_eq_false_iff_not] at hp
    exact (hp hch).elim

/-- No reference opens in a string if none opens in how it is written. -/
theorem not_infix_codeUnit {ps : List Piece} (hps : ∀ p ∈ ps, p.hidesMark = false)
    (h : ¬ ['$', '\x7b'] <:+: pieceSource ps) :
    ¬ ['$', '\x7b'] <:+: (ps.map Piece.codeUnit).map Char.ofNat := by
  rintro ⟨before, behind, hsplit⟩
  rw [List.map_map, eq_comm, List.map_eq_append_iff] at hsplit
  obtain ⟨front, ps₂, rfl, hfront, -⟩ := hsplit
  obtain ⟨ps₁, marks, rfl, -, hmarks⟩ := List.map_eq_append_iff.1 hfront
  obtain ⟨p, rest, rfl, hp, hrest⟩ := List.map_eq_cons_iff.1 hmarks
  obtain ⟨q, rest, rfl, hq, hrest⟩ := List.map_eq_cons_iff.1 hrest
  obtain rfl := List.map_eq_nil_iff.1 hrest
  have hpsource : p.source = ['$'] := p.source_of_mark (hps p (by simp)) (by simp) hp
  have hqsource : q.source = ['\x7b'] := q.source_of_mark (hps q (by simp)) (by simp) hq
  refine h ⟨pieceSource ps₁, pieceSource ps₂, ?_⟩
  simp [pieceSource, hpsource, hqsource]

/-- A string in which no reference opens has a value without references. -/
theorem isSettled_pieceValue {ps : List Piece} (hsame : isSameText ps = true)
    (hps : ∀ p ∈ ps, p.hidesMark = false) (h : ¬ ['$', '\x7b'] <:+: pieceSource ps) :
    (pieceValue ps).isSettled = true := by
  rw [pieceValue_eq hsame, Data.ofCodes, any_isSurrogate_codeUnit hsame]
  show (referenceNames (segments Marks.dollar
    ((String.ofList ((ps.map Piece.codeUnit).map Char.ofNat)).toList.map Char.toNat))).isEmpty = true
  rw [String.toList_ofList,
    referenceNames_segments_of_not_infix (not_infix_map_toNat (not_infix_codeUnit hps h))]
  rfl

/-! ## Trees -/

mutual

/-- The strings in a value, without the names of members. -/
def Tree.texts : Tree → List (List Piece)
  | .literal _ => []
  | .text ps => [ps]
  | .emptyList _ => []
  | .list _ items => items.texts
  | .emptyMap _ => []
  | .map _ members => members.texts

/-- The strings in items. -/
def Items.texts : Items → List (List Piece)
  | .last v _ => v.texts
  | .more v _ _ rest => v.texts ++ rest.texts

/-- The strings in the values of members. -/
def Members.texts : Members → List (List Piece)
  | .last _ v _ => v.texts
  | .more _ v _ _ rest => v.texts ++ rest.texts

end

mutual

/-- The strings in a value are written in it, and are the same in both languages if the value
is. -/
theorem Tree.of_mem_texts (t : Tree) (ht : t.isSame = true) (write : List Char → List Char)
    {ps : List Piece} (hps : ps ∈ t.texts) :
    isSameText ps = true ∧ pieceSource ps <:+: t.source write := by
  cases t with
  | literal l => cases hps
  | text qs =>
    obtain rfl := List.mem_singleton.1 hps
    exact ⟨ht, ['"'], ['"'], rfl⟩
  | emptyList gap => cases hps
  | list gap is =>
    simp only [Tree.isSame, Bool.and_eq_true] at ht
    obtain ⟨hsame, hpart⟩ := is.of_mem_texts ht.2 write hps
    exact ⟨hsame, hpart.trans (List.suffix_append _ _).isInfix⟩
  | emptyMap gap => cases hps
  | map gap ms =>
    simp only [Tree.isSame, Bool.and_eq_true] at ht
    obtain ⟨hsame, hpart⟩ := ms.of_mem_texts ht.2 write hps
    exact ⟨hsame, hpart.trans (List.suffix_append _ _).isInfix⟩

/-- The same for items. -/
theorem Items.of_mem_texts (is : Items) (his : is.isSame = true) (write : List Char → List Char)
    {ps : List Piece} (hps : ps ∈ is.texts) :
    isSameText ps = true ∧ pieceSource ps <:+: is.source write := by
  cases is with
  | last v before =>
    simp only [Items.isSame, Bool.and_eq_true] at his
    obtain ⟨hsame, hpart⟩ := v.of_mem_texts his.1 write hps
    rw [Items.source, List.append_assoc]
    exact ⟨hsame, hpart.trans (List.prefix_append _ _).isInfix⟩
  | more v before behind rest =>
    simp only [Items.isSame, Bool.and_eq_true] at his
    obtain ⟨⟨⟨hv, -⟩, -⟩, hrest⟩ := his
    rw [Items.source]
    obtain hps | hps := List.mem_append.1 hps
    · obtain ⟨hsame, hpart⟩ := v.of_mem_texts hv write hps
      rw [List.append_assoc, List.append_assoc]
      exact ⟨hsame, hpart.trans (List.prefix_append _ _).isInfix⟩
    · obtain ⟨hsame, hpart⟩ := rest.of_mem_texts hrest write hps
      exact ⟨hsame, hpart.trans (List.suffix_append _ _).isInfix⟩

/-- The same for members. -/
theorem Members.of_mem_texts (ms : Members) (hms : ms.isSame = true)
    (write : List Char → List Char) {ps : List Piece} (hps : ps ∈ ms.texts) :
    isSameText ps = true ∧ pieceSource ps <:+: ms.source write := by
  cases ms with
  | last name v before =>
    simp only [Members.isSame, Bool.and_eq_true] at hms
    obtain ⟨hsame, hpart⟩ := v.of_mem_texts hms.1.2 write hps
    rw [Members.source, List.append_assoc, List.append_assoc]
    exact ⟨hsame, hpart.trans ((List.prefix_append _ _).isInfix.trans
      (List.suffix_append _ _).isInfix)⟩
  | more name v before behind rest =>
    simp only [Members.isSame, Bool.and_eq_true] at hms
    obtain ⟨⟨⟨⟨-, hv⟩, -⟩, -⟩, hrest⟩ := hms
    rw [Members.source]
    obtain hps | hps := List.mem_append.1 hps
    · obtain ⟨hsame, hpart⟩ := v.of_mem_texts hv write hps
      rw [List.append_assoc, List.append_assoc, List.append_assoc]
      exact ⟨hsame, hpart.trans ((List.prefix_append _ _).isInfix.trans
        (List.suffix_append _ _).isInfix)⟩
    · obtain ⟨hsame, hpart⟩ := rest.of_mem_texts hrest write hps
      exact ⟨hsame, hpart.trans (List.suffix_append _ _).isInfix⟩

end

/-- Literals are no texts. -/
theorem Literal.isSettled_value (l : Literal) : l.value.isSettled = true := by
  cases l with
  | word w v h =>
    have hall : ∀ e ∈ words, e.2.isSettled = true := by
      decide
    exact hall _ h
  | integer negative digits h hsize => rfl
  | double negative digits fraction e h hfraction hdouble => rfl

/-- Entries without references are added to such. -/
theorem entriesAreSettled_insertEntry {es : List (Data × Data)} {k v : Data}
    (hes : Data.entriesAreSettled es = true) (hv : v.isSettled = true) :
    Data.entriesAreSettled (Data.insertEntry es k v) = true := by
  induction es with
  | nil => rw [Data.insertEntry, Data.entriesAreSettled, hv]; rfl
  | cons e es ih =>
    obtain ⟨k', v'⟩ := e
    rw [Data.entriesAreSettled, Bool.and_eq_true] at hes
    rw [Data.insertEntry]
    split
    · rw [Data.entriesAreSettled, hv, hes.2]
      rfl
    · rw [Data.entriesAreSettled, hes.1, ih hes.2]
      rfl

/-- The same for many entries. -/
theorem entriesAreSettled_insertAll {es more : List (Data × Data)}
    (hes : Data.entriesAreSettled es = true) (hmore : Data.entriesAreSettled more = true) :
    Data.entriesAreSettled (insertAll es more) = true := by
  induction more generalizing es with
  | nil => exact hes
  | cons e more ih =>
    obtain ⟨k, v⟩ := e
    rw [Data.entriesAreSettled, Bool.and_eq_true] at hmore
    exact ih (entriesAreSettled_insertEntry hes hmore.1) hmore.2

mutual

/-- A value has no references if its texts have none. -/
theorem Tree.isSettled_value (t : Tree) (h : ∀ ps ∈ t.texts, (pieceValue ps).isSettled = true) :
    t.value.isSettled = true := by
  cases t with
  | literal l => exact l.isSettled_value
  | text ps => exact h ps List.mem_cons_self
  | emptyList gap => rfl
  | list gap is => exact is.areSettled_values h
  | emptyMap gap => rfl
  | map gap ms => exact entriesAreSettled_insertAll rfl (ms.areSettled_entries h)

/-- The same for items. -/
theorem Items.areSettled_values (is : Items)
    (h : ∀ ps ∈ is.texts, (pieceValue ps).isSettled = true) :
    Data.itemsAreSettled is.values = true := by
  cases is with
  | last v before =>
    rw [Items.values, Data.itemsAreSettled, v.isSettled_value h]
    rfl
  | more v before behind rest =>
    have hv := v.isSettled_value fun ps hps => h ps (List.mem_append_left _ hps)
    have hrest := rest.areSettled_values fun ps hps => h ps (List.mem_append_right _ hps)
    rw [Items.values, Data.itemsAreSettled, hv, hrest]
    rfl

/-- The same for members. -/
theorem Members.areSettled_entries (ms : Members)
    (h : ∀ ps ∈ ms.texts, (pieceValue ps).isSettled = true) :
    Data.entriesAreSettled ms.entries = true := by
  cases ms with
  | last name v before =>
    rw [Members.entries, Data.entriesAreSettled, v.isSettled_value h]
    rfl
  | more name v before behind rest =>
    have hv := v.isSettled_value fun ps hps => h ps (List.mem_append_left _ hps)
    have hrest := rest.areSettled_entries fun ps hps => h ps (List.mem_append_right _ hps)
    rw [Members.entries, Data.entriesAreSettled, hv, hrest]
    rfl

end

/-- A text in which no reference opens has a value without references, unless an escape hides the
mark. -/
theorem Document.isSettled_value {d : Document} (hd : d.isSame = true)
    (hmarks : ∀ ps ∈ d.root.texts, ∀ p ∈ ps, p.hidesMark = false)
    (h : ¬ ['$', '\x7b'] <:+: d.source id) : d.root.value.isSettled = true := by
  simp only [Document.isSame, Bool.and_eq_true] at hd
  refine d.root.isSettled_value fun ps hps => ?_
  obtain ⟨hsame, hpart⟩ := d.root.of_mem_texts hd.1.1.2 id hps
  refine isSettled_pieceValue hsame (hmarks ps hps) fun hopen => h ?_
  rw [Document.source]
  exact (hopen.trans hpart).trans ((List.suffix_append _ _).isInfix.trans
    (List.prefix_append _ _).isInfix)

end Json

end Courier
