import Courier.Proofs.Charset
import Courier.Proofs.JsonLiteral
import Courier.Proofs.YamlCursor
import Courier.Yaml.Scalar

/-!
# JSON strings as quoted scalars

A JSON string is a quoted scalar of YAML, and the code points of the scalar are the code units of
the string (`readsPieces`), unless a raw line break in it is folded: next line always is, and
a separator loses the spaces around it, or ends the document before a mark. Escapes in pairs are
joined in JSON only, so a string with neither has the same text in both (`pieceValue_eq`).
-/

namespace Courier.Json

open Yaml (Cursor isBreak)

/-- Whether the parts of a string, after its opening quote, are the same text in both languages. -/
def isSameText : List Piece → Bool
  | [] => true
  | .plain c _ :: rest =>
    let next := pieceSource rest ++ ['"']
    c != '\x85' && (c != ' ' || !next.head?.any isBreak) &&
      (!isBreak c || (next.head? != some ' ' && !(Cursor.start next).atDocumentMark)) &&
      isSameText rest
  | .short _ _ :: rest => isSameText rest
  | p@(.code ..) :: rest => !Text.isSurrogate p.codeUnit && isSameText rest

end Courier.Json

namespace Courier.Yaml

open Json (Piece pieceSource isSameText)

/-- A break in a quoted scalar and what follows it, after more breaks. -/
def foldFrom (fuel : Nat) (text : List Nat) (first breaks : List Char) (most : Nat) (c : Cursor) :
    Except Error (List Nat × Cursor) := do
  let (breaks, c) ← quotedBreaks most breaks c
  quotedFrom true fuel ((codes (foldBreaks first breaks)).reverse ++ text) c

section Step

variable {fuel : Nat} {text : List Nat} {c : Cursor} {r : List Char}

/-- A quote ends the scalar. -/
theorem quotedFrom_quote (h : c.rest = '"' :: r) :
    quotedFrom true (fuel + 1) text c = .ok (text.reverse, c.step) := by
  simp [quotedFrom, Cursor.peek_zero h]

/-- A character that is neither blank nor a mark stands for itself. -/
theorem quotedFrom_plain {ch : Char} (h : c.rest = ch :: r) (hquote : ch ≠ '"')
    (hslash : ch ≠ '\\') (hblank : atBlank (some ch) = false) :
    quotedFrom true (fuel + 1) text c = quotedFrom true fuel (ch.toNat :: text) c.step := by
  simp [quotedFrom, Cursor.peek_zero h, hquote, hslash, hblank]

/-- An escape is read behind its backslash. -/
theorem quotedFrom_escape (h : c.rest = '\\' :: r) :
    quotedFrom true (fuel + 1) text c =
      (readEscape c.step).bind fun found =>
        quotedFrom true fuel (found.1.reverse ++ text) found.2 := by
  simp [quotedFrom, Cursor.peek_zero h, bind]

/-- Spaces that no break follows stand for themselves. -/
theorem quotedFrom_spaces {n : Nat} {ch : Char} (h : c.rest = List.replicate (n + 1) ' ' ++ ch :: r)
    (hblank : atBlank (some ch) = false) :
    quotedFrom true (fuel + 1) text c =
      quotedFrom true fuel (List.replicate (n + 1) 0x20 ++ text) (c.forward (n + 1)) := by
  simp only [atBlank, Bool.or_eq_false_iff] at hblank
  obtain ⟨⟨hbreak, hspace⟩, htab⟩ := hblank
  have hafter : (c.forward (n + 1)).rest = ch :: r := by
    simpa using Cursor.rest_forward h
  have hblanks : c.rest.takeWhile (fun d => d == ' ' || d == '\t') =
      List.replicate (n + 1) ' ' := by
    rw [h, List.takeWhile_append_of_pos (by simp), List.takeWhile_cons_of_neg (by simp [*]),
      List.append_nil]
  rw [List.replicate_succ, List.cons_append] at h
  rw [quotedFrom]
  simp only [Cursor.peek_zero h, atBlank, hblanks]
  simp [hafter, Cursor.peek_zero hafter, atBreak, hbreak, codes, List.map_replicate]

/-- A break is folded. -/
theorem quotedFrom_break {ch : Char} (h : c.rest = ch :: r) (hbreak : isBreak ch = true)
    (hne : ch ≠ '\x85') :
    quotedFrom true (fuel + 1) text c = foldFrom fuel text [ch] [] (r.length + 1) c.step := by
  have hmark : ch ≠ '"' ∧ ch ≠ '\\' ∧ ch ≠ ' ' ∧ ch ≠ '\t' := by
    refine ⟨?_, ?_, ?_, ?_⟩ <;> rintro rfl <;> cases hbreak
  obtain ⟨hquote, hslash, hspace, htab⟩ := hmark
  have hblanks : c.rest.takeWhile (fun d => d == ' ' || d == '\t') = [] := by
    rw [h, List.takeWhile_cons_of_neg (by simp [hspace, htab])]
  rw [quotedFrom, foldFrom]
  simp only [Cursor.peek_zero h, hblanks, List.length_nil, Cursor.forward, Cursor.takeBreak]
  simp [hquote, hslash, hbreak, hne, atBlank, atBreak, h, Cursor.rest_step h]

/-- Another break is folded with those before it. -/
theorem foldFrom_break {most : Nat} {first breaks : List Char} {ch : Char} (h : c.rest = ch :: r)
    (hbreak : isBreak ch = true) (hne : ch ≠ '\x85') (hmark : c.atDocumentMark = false) :
    foldFrom fuel text first breaks (most + 1) c =
      foldFrom fuel text first (breaks ++ [ch]) most c.step := by
  have hskip : c.skip (fun d => d == ' ' || d == '\t') = c := by
    refine Cursor.skip_eq_forward (show c.rest = [] ++ _ from h) (by simp) ?_
    rintro d ⟨⟩
    simp only [Bool.or_eq_false_iff, beq_eq_false_iff_ne]
    constructor <;> rintro rfl <;> cases hbreak
  unfold foldFrom
  rw [quotedBreaks]
  simp [hmark, hskip, Cursor.peek_zero h, h, atBreak, hbreak, Cursor.takeBreak, hne]

/-- The scalar goes on behind its breaks. -/
theorem foldFrom_text {most : Nat} {ch next : Char} {breaks : List Char} (h : c.rest = next :: r)
    (hblank : atBlank (some next) = false) (hch : ch ≠ '\n') (hmark : c.atDocumentMark = false) :
    foldFrom fuel text [ch] breaks (most + 1) c =
      quotedFrom true fuel ((codes (ch :: breaks)).reverse ++ text) c := by
  simp only [atBlank, Bool.or_eq_false_iff] at hblank
  obtain ⟨⟨hbreak, hspace⟩, htab⟩ := hblank
  have hskip : c.skip (fun d => d == ' ' || d == '\t') = c := by
    refine Cursor.skip_eq_forward (show c.rest = [] ++ _ from h) (by simp) ?_
    rintro d ⟨⟩
    rw [hspace, htab]
    rfl
  have hfold : foldBreaks [ch] breaks = ch :: breaks := if_pos (by simp [hch])
  unfold foldFrom
  rw [quotedBreaks]
  simp [hmark, hskip, Cursor.peek_zero h, h, atBreak, hbreak, hfold, bind, Except.bind]

/-- A letter that is an escape of JSON is one of YAML. -/
theorem escape?_of_shortEscape? {e : Char} {n : Nat} (h : Json.shortEscape? e = some n) :
    escape? e = some n := by
  unfold Json.shortEscape? at h
  split at h <;> first | (cases h; rfl) | cases h

/-- An escape by a letter is one code point. -/
theorem readEscape_short {e : Char} {n : Nat} (hn : Json.shortEscape? e = some n)
    (h : c.rest = e :: r) : readEscape c = .ok ([n], c.step) := by
  unfold readEscape
  simp only [Cursor.peek_zero h, escape?_of_shortEscape? hn]

/-- A hexadecimal digit is below sixteen. -/
theorem hexDigit?_lt {ch : Char} {n : Nat} (h : Text.hexDigit? ch = some n) : n < 16 := by
  unfold Text.hexDigit? at h
  simp only [Char.le_def, UInt32.le_iff_toNat_le] at h
  split at h
  · rename_i hd
    cases h
    have hhigh : ch.toNat ≤ 57 := hd.2
    omega
  · split at h
    · rename_i hd
      cases h
      have hhigh : ch.toNat ≤ 102 := hd.2
      omega
    · split at h
      · rename_i hd
        cases h
        have hhigh : ch.toNat ≤ 70 := hd.2
        omega
      · cases h

/-- An escape by four digits is one code point. -/
theorem readEscape_code {a b d e : Char} (h : c.rest = 'u' :: a :: b :: d :: e :: r)
    (hdigits : ([a, b, d, e].all fun x => (Text.hexDigit? x).isSome) = true) :
    readEscape c = .ok ([Text.hexValue [a, b, d, e]], c.forward 5) := by
  have hlow : Text.hexValue [a, b, d, e] < 0x10000 := by
    have hdigit : ∀ x, (Text.hexDigit? x).getD 0 < 16 := by
      intro x
      cases hx : Text.hexDigit? x with
      | none => exact Nat.zero_lt_succ 15
      | some n => exact hexDigit?_lt hx
    rw [Json.hexValue_four]
    have := hdigit a
    have := hdigit b
    have := hdigit d
    have := hdigit e
    omega
  have hletter : escape? 'u' = none := rfl
  have hsize : escapeDigits? 'u' = some 4 := rfl
  unfold readEscape
  simp only [Cursor.peek_zero h, hletter, hsize, h, List.drop_succ_cons, List.drop_zero,
    List.take_succ_cons, List.take_zero]
  rw [if_neg (by simp [hdigits]), if_neg (by omega), if_neg (by omega)]

end Step

/-- Whether a mark stands here does not show behind a closing quote. -/
theorem atDocumentMark_quote {c : Cursor} {cs r : List Char} (h : c.rest = cs ++ '"' :: r) :
    c.atDocumentMark = (Cursor.start (cs ++ ['"'])).atDocumentMark := by
  rcases cs with - | ⟨a, - | ⟨b, - | ⟨d, - | ⟨e, cs⟩⟩⟩⟩ <;>
    simp [Cursor.atDocumentMark, Cursor.atMark, Cursor.peek, Cursor.start, h, atBlank, isBreak]

/-- Every part is written with a character at least. -/
theorem length_le_pieceSource (ps : List Piece) : ps.length ≤ (pieceSource ps).length := by
  induction ps with
  | nil => exact Nat.le_refl 0
  | cons p ps ih =>
    rw [Json.pieceSource_cons, List.length_append, List.length_cons]
    have hp : 0 < p.source.length := by
      cases p <;> exact Nat.succ_pos _
    omega

/-- The parts of a string are read up to its closing quote, be it at once, behind some spaces, or
behind breaks that are folded. -/
structure ReadsPieces (r : List Char) (ps : List Piece) : Prop where
  here {fuel : Nat} {text : List Nat} {c : Cursor} :
    c.rest = pieceSource ps ++ '"' :: r → ps.length < fuel →
      quotedFrom true fuel text c =
        .ok (text.reverse ++ ps.map Piece.codeUnit, c.forward ((pieceSource ps).length + 1))
  spaces {n fuel : Nat} {text : List Nat} {c : Cursor} :
    c.rest = List.replicate (n + 1) ' ' ++ (pieceSource ps ++ '"' :: r) →
      (pieceSource ps ++ ['"']).head?.any isBreak = false → ps.length + 1 < fuel →
      quotedFrom true fuel text c =
        .ok (text.reverse ++ List.replicate (n + 1) 0x20 ++ ps.map Piece.codeUnit,
          c.forward (n + 1 + ((pieceSource ps).length + 1)))
  breaks {ch : Char} {breaks : List Char} {fuel most : Nat} {text : List Nat} {c : Cursor} :
    c.rest = pieceSource ps ++ '"' :: r → c.atDocumentMark = false →
      (pieceSource ps ++ ['"']).head? ≠ some ' ' → ch ≠ '\n' → ps.length < fuel →
      ps.length < most →
      foldFrom fuel text [ch] breaks most c =
        .ok (text.reverse ++ codes (ch :: breaks) ++ ps.map Piece.codeUnit,
          c.forward ((pieceSource ps).length + 1))

section Pieces

variable {r : List Char} {ps : List Piece}

/-- Spaces before what is no space are read, and then the parts. -/
theorem ReadsPieces.of_here {ch : Char} {t : List Char}
    (hhere : ∀ {fuel : Nat} {text : List Nat} {c : Cursor},
      c.rest = pieceSource ps ++ '"' :: r → ps.length < fuel →
        quotedFrom true fuel text c =
          .ok (text.reverse ++ ps.map Piece.codeUnit, c.forward ((pieceSource ps).length + 1)))
    (hhead : pieceSource ps ++ '"' :: r = ch :: t) (hblank : atBlank (some ch) = false) :
    ReadsPieces r ps where
  here := hhere
  spaces {n fuel text c} hrest _ hfuel := by
    obtain ⟨fuel, rfl⟩ : ∃ k, fuel = k + 1 := ⟨fuel - 1, by omega⟩
    have hafter : (c.forward (n + 1)).rest = pieceSource ps ++ '"' :: r := by
      simpa using Cursor.rest_forward hrest
    rw [hhead] at hrest
    rw [quotedFrom_spaces hrest hblank, hhere hafter (by omega), ← Cursor.forward_add]
    simp
  breaks {ch breaks fuel most text c} hrest hmark _ hch hfuel hmost := by
    obtain ⟨most, rfl⟩ : ∃ k, most = k + 1 := ⟨most - 1, by omega⟩
    rw [foldFrom_text (hrest.trans hhead) hblank hch hmark, hhere hrest hfuel]
    simp

/-- At the end of a string, its closing quote is read. -/
theorem readsPieces_nil (r : List Char) : ReadsPieces r [] :=
  .of_here (fun {fuel text c} hrest hfuel => by
    obtain ⟨fuel, rfl⟩ : ∃ k, fuel = k + 1 := ⟨fuel - 1, by omega⟩
    rw [quotedFrom_quote hrest]
    simp [pieceSource, Cursor.forward]) rfl rfl

/-- A part that is read as its code unit, and begins with no blank. -/
theorem ReadsPieces.cons (ih : ReadsPieces r ps) (p : Piece)
    (hstep : ∀ {fuel : Nat} {text : List Nat} {c : Cursor},
      c.rest = p.source ++ (pieceSource ps ++ '"' :: r) →
        quotedFrom true (fuel + 1) text c =
          quotedFrom true fuel (p.codeUnit :: text) (c.forward p.source.length))
    {ch : Char} {t : List Char} (hhead : p.source = ch :: t) (hblank : atBlank (some ch) = false) :
    ReadsPieces r (p :: ps) := by
  have hwhole : pieceSource (p :: ps) ++ '"' :: r = ch :: (t ++ (pieceSource ps ++ '"' :: r)) := by
    rw [Json.pieceSource_cons, hhead, List.append_assoc]
    rfl
  refine .of_here (fun {fuel text c} hrest hfuel => ?_) hwhole hblank
  rw [List.length_cons] at hfuel
  obtain ⟨fuel, rfl⟩ : ∃ k, fuel = k + 1 := ⟨fuel - 1, by omega⟩
  rw [Json.pieceSource_cons, List.append_assoc] at hrest
  rw [hstep hrest, ih.here (Cursor.rest_forward hrest) (by omega), ← Cursor.forward_add,
    Json.pieceSource_cons, List.length_append, Nat.add_assoc]
  simp

/-- A space is read with those around it. -/
theorem ReadsPieces.space (ih : ReadsPieces r ps) (h : 0x20 ≤ ' '.toNat ∧ ' ' ≠ '"' ∧ ' ' ≠ '\\')
    (hnext : (pieceSource ps ++ ['"']).head?.any isBreak = false) :
    ReadsPieces r (.plain ' ' h :: ps) where
  here {fuel text c} hrest hfuel := by
    rw [ih.spaces (n := 0) hrest hnext hfuel, Json.pieceSource_cons]
    exact congrArg Except.ok (Prod.ext (by simp [Piece.codeUnit]) (congrArg c.forward (by
      rw [List.length_append, Piece.source, List.length_singleton]
      omega)))
  spaces {n fuel text c} hrest _ hfuel := by
    have hsplit : List.replicate (n + 1) ' ' ++ (pieceSource (.plain ' ' h :: ps) ++ '"' :: r) =
        List.replicate (n + 1 + 1) ' ' ++ (pieceSource ps ++ '"' :: r) := by
      rw [List.replicate_succ' (n := n + 1), Json.pieceSource_cons]
      simp [Piece.source]
    rw [List.length_cons] at hfuel
    rw [ih.spaces (n := n + 1) (hrest.trans hsplit) hnext (by omega), Json.pieceSource_cons,
      List.replicate_succ' (n := n + 1)]
    exact congrArg Except.ok (Prod.ext (by simp [Piece.codeUnit]) (congrArg c.forward (by
      rw [List.length_append, Piece.source, List.length_singleton]
      omega)))
  breaks _ _ hspace := (hspace rfl).elim

/-- A separator is folded with those around it. -/
theorem ReadsPieces.separator (ih : ReadsPieces r ps) {ch : Char}
    (h : 0x20 ≤ ch.toNat ∧ ch ≠ '"' ∧ ch ≠ '\\') (hbreak : isBreak ch = true) (hne : ch ≠ '\x85')
    (hspace : (pieceSource ps ++ ['"']).head? ≠ some ' ')
    (hmark : (Cursor.start (pieceSource ps ++ ['"'])).atDocumentMark = false) :
    ReadsPieces r (.plain ch h :: ps) where
  here {fuel text c} hrest hfuel := by
    obtain ⟨fuel, rfl⟩ : ∃ k, fuel = k + 1 := ⟨fuel - 1, by omega⟩
    have hstep : c.step.rest = pieceSource ps ++ '"' :: r := Cursor.rest_step hrest
    have hline : ch ≠ '\n' := by
      rintro rfl
      exact absurd h.1 (by decide)
    rw [List.length_cons] at hfuel
    rw [quotedFrom_break hrest hbreak hne,
      ih.breaks hstep ((atDocumentMark_quote hstep).trans hmark) hspace hline (by omega) (by
        rw [List.append_eq, List.length_append]
        exact Nat.lt_succ_of_le (Nat.le_add_right_of_le (length_le_pieceSource ps)))]
    exact congrArg Except.ok (Prod.ext (by simp [codes, Piece.codeUnit]) rfl)
  spaces _ hnext := by
    cases hbreak.symm.trans hnext
  breaks {first breaks fuel most text c} hrest hhere _ hfirst hfuel hmost := by
    rw [List.length_cons] at hfuel hmost
    obtain ⟨most, rfl⟩ : ∃ k, most = k + 1 := ⟨most - 1, by omega⟩
    have hstep := Cursor.rest_step hrest
    rw [foldFrom_break hrest hbreak hne hhere,
      ih.breaks hstep ((atDocumentMark_quote hstep).trans hmark) hspace hfirst (by omega)
        (by omega)]
    exact congrArg Except.ok (Prod.ext (by simp [codes, Piece.codeUnit]) rfl)

end Pieces

/-- A string with the same text in both languages is read up to its closing quote. -/
theorem readsPieces (r : List Char) (ps : List Piece) (h : isSameText ps = true) :
    ReadsPieces r ps := by
  induction ps with
  | nil => exact readsPieces_nil r
  | cons p ps ih =>
    cases p with
    | plain ch hch =>
      simp only [isSameText, Bool.and_eq_true, Bool.or_eq_true, Bool.not_eq_true',
        bne_iff_ne] at h
      obtain ⟨⟨⟨hline, hspace⟩, hbreak⟩, hps⟩ := h
      by_cases hch' : isBreak ch = true
      · obtain ⟨hnext, hmark⟩ := hbreak.resolve_left (by simp [hch'])
        exact (ih hps).separator hch hch' hline hnext hmark
      by_cases heq : ch = ' '
      · subst heq
        exact (ih hps).space hch (hspace.resolve_left (by simp))
      · have hblank : atBlank (some ch) = false := by
          have htab : ch ≠ '\t' := by
            rintro rfl
            exact absurd hch.1 (by decide)
          simp [atBlank, hch', heq, htab]
        exact (ih hps).cons _ (fun hrest => quotedFrom_plain hrest hch.2.1 hch.2.2 hblank) rfl
          hblank
    | short e he =>
      obtain ⟨n, hn⟩ := Option.isSome_iff_exists.1 he
      refine (ih h).cons _ (fun {fuel text c} hrest => ?_) rfl rfl
      have hread := readEscape_short hn (Cursor.rest_step hrest)
      rw [quotedFrom_escape hrest, hread]
      simp only [Piece.codeUnit, hn]
      rfl
    | code a b d e hdigits =>
      simp only [isSameText, Bool.and_eq_true] at h
      refine (ih h.2).cons _ (fun {fuel text c} hrest => ?_) rfl rfl
      have hread := readEscape_code (Cursor.rest_step hrest) hdigits
      rw [quotedFrom_escape hrest, hread]
      rfl

end Courier.Yaml

namespace Courier.Json

/-- Without halves of pairs, nothing is joined. -/
theorem joinPairs_eq_self {us : List Nat} (h : us.any Text.isSurrogate = false) :
    joinPairs us = us := by
  fun_induction joinPairs us with
  | case1 => rfl
  | case2 => rfl
  | case3 a b us hpair _ =>
    have ha : Text.isSurrogate a = true := by
      simp only [Text.isHighSurrogate, Text.isLowSurrogate, Bool.and_eq_true,
        decide_eq_true_eq] at hpair
      simp only [Text.isSurrogate, Bool.and_eq_true, decide_eq_true_eq]
      omega
    rw [List.any_cons, ha] at h
    cases h
  | case4 a b us _ ih =>
    rw [List.any_cons, Bool.or_eq_false_iff] at h
    rw [ih h.2]

/-- A string with the same text in both languages has no halves of pairs. -/
theorem any_isSurrogate_codeUnit {ps : List Piece} (h : isSameText ps = true) :
    (ps.map Piece.codeUnit).any Text.isSurrogate = false := by
  induction ps with
  | nil => rfl
  | cons p ps ih =>
    rw [List.map_cons, List.any_cons, Bool.or_eq_false_iff]
    cases p with
    | plain c hc =>
      simp only [isSameText, Bool.and_eq_true] at h
      exact ⟨Text.isSurrogate_toNat c, ih h.2⟩
    | short e he =>
      refine ⟨?_, ih h⟩
      obtain ⟨n, hn⟩ := Option.isSome_iff_exists.1 he
      simp only [Piece.codeUnit, hn, Option.get_some]
      unfold shortEscape? at hn
      split at hn <;> first | (cases hn; rfl) | cases hn
    | code a b c d hdigits =>
      simp only [isSameText, Bool.and_eq_true, Bool.not_eq_true'] at h
      exact ⟨h.1, ih h.2⟩

/-- The value of such a string is the text of its code units. -/
theorem pieceValue_eq {ps : List Piece} (h : isSameText ps = true) :
    pieceValue ps = Data.ofCodes (ps.map Piece.codeUnit) := by
  rw [pieceValue, joinPairs_eq_self (any_isSurrogate_codeUnit h)]

end Courier.Json
