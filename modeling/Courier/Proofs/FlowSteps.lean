import Courier.Proofs.PlainScalar
import Courier.Proofs.QuotedText
import Courier.Yaml.Token

/-!
# Steps of scanning

What each token of a flow collection does to the state of scanning. What they need of it is kept by
all of them (`IsAt`): no block is open, and no place of a key has to become one. A key is
recognized at its colon, by the place that was kept of the string before it.
-/

namespace Courier.Json

/-- The token of a string. -/
def textToken (ps : List Piece) : Yaml.Token := .scalar (ps.map Piece.codeUnit) false

end Courier.Json

namespace Courier.Yaml.Scanner

open Json (Piece pieceSource stringSource isSameText textToken)

/-! ## States -/

/-- A state of scanning outside of blocks: what is left, the depth of flow collections, and the
tokens so far. -/
structure IsAt (s : Scanner) (rest : List Char) (flow : Nat) (ts : List Token) : Prop where
  rest : s.cursor.rest = rest
  flow : s.flow = flow
  tokens : s.tokens.toList = ts
  indent : s.indent = -1
  indents : s.indents = []
  places : ∀ p ∈ s.places, p.2.required = false

section Step

variable {s : Scanner} {gap r : List Char} {flow : Nat} {ts : List Token} {ch : Char}

/-- What a token begins with: neither white space nor a comment. -/
def isTokenHead (ch : Char) : Bool := !isBreak ch && !([' ', '#', '\ufeff'].contains ch)

/-- No token begins with a character that is skipped. -/
theorem isTokenHead_iff : isTokenHead ch = true ↔
    isBreak ch = false ∧ ch ≠ ' ' ∧ ch ≠ '#' ∧ ch ≠ '\ufeff' := by
  simp [isTokenHead]

/-- White space and a token behind it do not begin with a byte order mark. -/
theorem peek_gap (hgap : IsBlank gap) (hr : ∀ ch ∈ r.head?, isTokenHead ch = true) {c : Cursor}
    (h : c.rest = gap ++ r) : c.peek 0 ≠ some '\ufeff' := by
  have hpeek : c.peek 0 = (gap ++ r).head? := by
    rw [Cursor.peek, h, ← List.head?_eq_getElem?]
  rw [hpeek]
  intro hch
  cases gap with
  | nil => exact (isTokenHead_iff.1 (hr _ hch)).2.2.2 rfl
  | cons e gap => obtain rfl | rfl := hgap e List.mem_cons_self <;> cases hch

/-- Spaces are skipped up to what is none. -/
theorem skipSpaces_replicate {n : Nat} {c : Cursor} (h : c.rest = List.replicate n ' ' ++ r)
    (hr : r.head? ≠ some ' ') : c.skipSpaces = c.forward n := by
  have hskip := Cursor.skip_eq_forward (p := (· == ' ')) h (by simp) fun ch hch => by
    rw [beq_eq_false_iff_ne]
    rintro rfl
    exact hr hch
  rwa [List.length_replicate] at hskip

/-- Skipping stops at a token, and at the end. -/
theorem skipBlank_token {n : Nat} (h : s.cursor.rest = List.replicate n ' ' ++ r)
    (hr : ∀ ch ∈ r.head?, isTokenHead ch = true) (hmark : s.cursor.peek 0 ≠ some '\ufeff')
    (fuel : Nat) : skipBlank (fuel + 1) s = { s with cursor := s.cursor.forward n } := by
  have hspaces : s.cursor.skipSpaces = s.cursor.forward n :=
    skipSpaces_replicate h fun hch => (isTokenHead_iff.1 (hr _ hch)).2.1 rfl
  have hafter : (s.cursor.forward n).rest = r := by
    simpa using Cursor.rest_forward h
  rw [skipBlank]
  simp only [hmark, and_false, if_false, hspaces]
  cases r with
  | nil =>
    have hpeek : (s.cursor.forward n).peek 0 = none := by
      rw [Cursor.peek, hafter]
      rfl
    simp [Cursor.skipComment, hpeek]
  | cons ch r =>
    obtain ⟨hbreak, -, hcomment, -⟩ := isTokenHead_iff.1 (hr ch rfl)
    simp [Cursor.skipComment, Cursor.peek_zero hafter, hcomment, hbreak]

/-- Skipping goes on behind a line feed, where a key may begin outside of collections. -/
theorem skipBlank_break {n : Nat} (h : s.cursor.rest = List.replicate n ' ' ++ '\n' :: r)
    (hmark : s.cursor.peek 0 ≠ some '\ufeff') (fuel : Nat) :
    skipBlank (fuel + 1) s = skipBlank fuel { s with
      cursor := s.cursor.forward (n + 1)
      keyAllowed := s.keyAllowed || s.flow == 0 } := by
  have hspaces : s.cursor.skipSpaces = s.cursor.forward n := skipSpaces_replicate h (by simp)
  have hafter : (s.cursor.forward n).rest = '\n' :: r := by
    simpa using Cursor.rest_forward h
  have hcomment : (s.cursor.forward n).skipComment = s.cursor.forward n := by
    rw [Cursor.skipComment, Cursor.peek_zero hafter]
    rfl
  have hbreak : isBreak '\n' = true := rfl
  have hstep : s.cursor.forward (n + 1) = (s.cursor.forward n).step := Cursor.forward_add _ n 1
  rw [skipBlank, hstep]
  simp only [hmark, and_false, if_false, hspaces, hcomment, Cursor.peek_zero hafter, hbreak,
    if_true]

/-- White space before a token is skipped. A line break may allow a key. -/
theorem skipBlank_gap (hgap : IsBlank gap) (hr : ∀ ch ∈ r.head?, isTokenHead ch = true)
    (fuel : Nat) (hfuel : gap.length < fuel) (h : s.cursor.rest = gap ++ r) :
    ∃ allowed, (s.keyAllowed = true → allowed = true) ∧
      skipBlank fuel s =
        { s with cursor := s.cursor.forward gap.length, keyAllowed := allowed } := by
  induction fuel generalizing gap s with
  | zero => exact (Nat.not_lt_zero _ hfuel).elim
  | succ fuel ih =>
    have hmark := peek_gap hgap hr h
    obtain ⟨n, tail, rfl, rfl | ⟨more, rfl⟩⟩ := hgap.exists_spaces
    · rw [List.append_nil] at h ⊢
      rw [List.length_replicate]
      exact ⟨s.keyAllowed, id, skipBlank_token h hr hmark fuel⟩
    · have hmore : IsBlank more := fun x hx => hgap x (by simp [hx])
      rw [List.append_assoc] at h
      have hrest : (s.cursor.forward (n + 1)).rest = more ++ r := by
        rw [Cursor.forward_add]
        exact Cursor.rest_step (by simpa using Cursor.rest_forward h)
      have hlength : (List.replicate n ' ' ++ '\n' :: more).length = n + 1 + more.length := by
        rw [List.length_append, List.length_replicate, List.length_cons]
        omega
      obtain ⟨allowed, hallowed, hskip⟩ := ih (s := { s with
        cursor := s.cursor.forward (n + 1)
        keyAllowed := s.keyAllowed || s.flow == 0 }) hmore (by omega) hrest
      refine ⟨allowed, fun hkey => hallowed (by simp [hkey]), ?_⟩
      rw [skipBlank_break h hmark, hskip, hlength, Cursor.forward_add _ (n + 1)]

/-- Whether a place is on the same line and not too far away. -/
def isFresh (c : Cursor) (p : Nat × KeyPlace) : Bool :=
  !(p.2.line != c.line || decide (keyLimit + p.2.index < c.index))

/-- A place is kept over some characters on its line. -/
theorem isFresh_forward {cs : List Char} {c : Cursor} (h : c.rest = cs ++ r)
    (hline : ∀ d ∈ cs, isBreak d = false) (hlength : cs.length ≤ keyLimit) (flow n : Nat) :
    isFresh (c.forward cs.length) (flow, ⟨n, false, c.index, c.line, c.column⟩) = true := by
  have hindex : c.index + cs.length ≤ keyLimit + c.index := by omega
  rw [isFresh, Cursor.index_forward h, Cursor.line_forward h hline]
  simpa using hindex

/-- Places of keys that are too far away are forgotten where none is required. -/
theorem dropStale_eq (h : ∀ p ∈ s.places, p.2.required = false) :
    s.dropStale = .ok { s with places := s.places.filter (isFresh s.cursor) } := by
  have hnone : (s.places.any fun p =>
      (p.2.line != s.cursor.line || decide (keyLimit + p.2.index < s.cursor.index)) &&
        p.2.required) = false := by
    rw [Bool.eq_false_iff]
    intro hany
    obtain ⟨p, hp, hrequired⟩ := List.any_eq_true.1 hany
    rw [h p hp, Bool.and_false] at hrequired
    cases hrequired
  unfold dropStale
  simp only [hnone]
  rfl

/-- The place of a key is forgotten where none is required. -/
theorem dropPlace_eq (h : ∀ p ∈ s.places, p.2.required = false) :
    ∃ ps, (∀ p ∈ ps, p.2.required = false) ∧ s.dropPlace = .ok { s with places := ps } := by
  unfold dropPlace
  split
  · rename_i p hplace
    obtain ⟨q, hfind, rfl⟩ := Option.map_eq_some_iff.1 hplace
    rw [h q (List.mem_of_find?_eq_some hfind)]
    exact ⟨_, fun p hp => h p (List.mem_filter.1 hp).1, rfl⟩
  · exact ⟨s.places, h, rfl⟩

/-- The place of a key is remembered as one that is not required. -/
theorem savePlace_eq (hindent : s.indent = -1) (h : ∀ p ∈ s.places, p.2.required = false) :
    ∃ ps, (∀ p ∈ ps, p.2.required = false) ∧ s.savePlace = .ok { s with places := ps } ∧
      (s.keyAllowed = true → ps.head? = some (s.flow,
        ⟨s.tokens.size, false, s.cursor.index, s.cursor.line, s.cursor.column⟩)) := by
  have hcolumn : (s.flow == 0 && s.indent == (s.cursor.column : Int)) = false := by
    rw [hindent, Bool.and_eq_false_iff]
    right
    rw [beq_eq_false_iff_ne]
    omega
  unfold savePlace
  split
  · obtain ⟨ps, hps, hdrop⟩ := dropPlace_eq h
    simp only [hdrop, bind, Except.bind, hcolumn]
    exact ⟨_, List.forall_mem_cons.2 ⟨rfl, hps⟩, rfl, fun _ => rfl⟩
  · rename_i hkey
    exact ⟨s.places, h, rfl, fun h => (hkey h).elim⟩

/-- What comes next is scanned after the white space before it. The last place of a key is kept if
it is on the same line and not too far away. -/
theorem exists_ready (hgap : IsBlank gap) (hr : ∀ ch ∈ r.head?, isTokenHead ch = true)
    (h : s.IsAt (gap ++ r) flow ts) :
    ∃ s₁ : Scanner, s₁.IsAt r flow ts ∧ (s.keyAllowed = true → s₁.keyAllowed = true) ∧
      s₁.cursor = s.cursor.forward gap.length ∧
      (∀ p, s.places.head? = some p → isFresh s₁.cursor p = true → s₁.places.head? = some p) ∧
      ∀ fuel, scan (fuel + 1) s =
        r.head?.elim (s₁.dropPlace.map Scanner.tokens) fun ch => s₁.token ch >>= scan fuel := by
  obtain ⟨allowed, hallowed, hskip⟩ := skipBlank_gap hgap hr (s.cursor.rest.length + 1)
    (by rw [h.rest, List.length_append]; omega) h.rest
  have hrest := Cursor.rest_forward h.rest
  generalize hcursor : s.cursor.forward gap.length = c at hskip hrest
  have hstale := dropStale_eq (s := { s with cursor := c, keyAllowed := allowed }) h.places
  have hpeek : c.peek 0 = r.head? := by
    rw [Cursor.peek, hrest, ← List.head?_eq_getElem?]
  refine ⟨{ s with
    cursor := c
    keyAllowed := allowed
    places := s.places.filter (isFresh c) },
    ⟨hrest, h.flow, h.tokens, h.indent, h.indents, ?_⟩, hallowed, rfl, ?_, fun fuel => ?_⟩
  · exact fun p hp => h.places p (List.mem_filter.1 hp).1
  · intro p hp hfresh
    obtain ⟨ps, hps⟩ := List.head?_eq_some_iff.1 hp
    show (s.places.filter (isFresh c)).head? = some p
    rw [hps, List.filter_cons_of_pos hfresh, List.head?_cons]
  · rw [scan, hskip, hstale]
    simp only [bind, Except.bind, unwindTo, h.indents, unwind, ite_self, hpeek]
    cases r with
    | nil =>
      simp only [List.head?_nil, Option.elim_none]
      cases dropPlace _ <;> rfl
    | cons ch r => rfl

/-- At the end of a text, the tokens are there. -/
theorem scan_end (hgap : IsBlank gap) (h : s.IsAt gap 0 ts) (fuel : Nat) :
    scan (fuel + 1) s = .ok ts.toArray := by
  rw [← List.append_nil gap] at h
  obtain ⟨s₁, hs₁, -, -, -, hscan⟩ := exists_ready (r := []) hgap nofun h
  obtain ⟨ps, -, hdrop⟩ := dropPlace_eq hs₁.places
  rw [hscan, List.head?_nil, Option.elim_none, hdrop, ← hs₁.tokens, Array.toArray_toList]
  rfl

/-! ## Tokens -/

/-- An opening bracket goes one level deeper, where a key may begin. -/
theorem token_open {t : Token} (h : s.IsAt (ch :: r) flow ts)
    (hch : ch = '[' ∧ t = .flowSequenceStart ∨ ch = '\x7b' ∧ t = .flowMappingStart) :
    ∃ s', s.token ch = .ok s' ∧ s'.IsAt r (flow + 1) (ts ++ [t]) ∧ s'.keyAllowed = true := by
  obtain ⟨ps, hps, hsave, -⟩ := savePlace_eq h.indent h.places
  have hopen : s.token ch = s.openFlow t := by
    obtain ⟨rfl, rfl⟩ | ⟨rfl, rfl⟩ := hch <;>
      simp [token, Cursor.atMark, Cursor.peek_zero h.rest]
  have htoken : s.token ch = .ok { ({ s with places := ps } : Scanner).take 1 t with
      flow := s.flow + 1
      keyAllowed := true } := by
    rw [hopen, openFlow, hsave]
    rfl
  refine ⟨_, htoken, ⟨?_, ?_, ?_, h.indent, h.indents, hps⟩, rfl⟩
  · exact Cursor.rest_step h.rest
  · exact congrArg (· + 1) h.flow
  · simp [take, push, h.tokens]

/-- A closing bracket goes one level up. -/
theorem token_close {t : Token} (h : s.IsAt (ch :: r) (flow + 1) ts)
    (hch : ch = ']' ∧ t = .flowSequenceEnd ∨ ch = '\x7d' ∧ t = .flowMappingEnd) :
    ∃ s', s.token ch = .ok s' ∧ s'.IsAt r flow (ts ++ [t]) := by
  obtain ⟨ps, hps, hdrop⟩ := dropPlace_eq h.places
  have hclose : s.token ch = s.closeFlow t := by
    obtain ⟨rfl, rfl⟩ | ⟨rfl, rfl⟩ := hch <;>
      simp [token, Cursor.atMark, Cursor.peek_zero h.rest]
  have htoken : s.token ch = .ok { ({ s with places := ps } : Scanner).take 1 t with
      flow := s.flow - 1
      keyAllowed := false } := by
    rw [hclose, closeFlow, hdrop]
    rfl
  refine ⟨_, htoken, ⟨?_, ?_, ?_, h.indent, h.indents, hps⟩⟩
  · exact Cursor.rest_step h.rest
  · exact congrArg (· - 1) h.flow
  · simp [take, push, h.tokens]

/-- Behind a comma a key may begin. -/
theorem token_comma (h : s.IsAt (',' :: r) flow ts) :
    ∃ s', s.token ',' = .ok s' ∧ s'.IsAt r flow (ts ++ [.flowEntry]) ∧ s'.keyAllowed = true := by
  obtain ⟨ps, hps, hdrop⟩ := dropPlace_eq (s := { s with keyAllowed := true }) h.places
  have htoken : s.token ',' =
      .ok (({ s with keyAllowed := true, places := ps } : Scanner).take 1 .flowEntry) := by
    simp [token, Cursor.atMark, Cursor.peek_zero h.rest, hdrop]
  refine ⟨_, htoken, ⟨?_, h.flow, ?_, h.indent, h.indents, hps⟩, rfl⟩
  · exact Cursor.rest_step h.rest
  · simp [take, push, h.tokens]

/-- A string is one token, and its place is remembered where a key may begin. -/
theorem token_string (ps : List Piece) (hps : isSameText ps = true)
    (h : s.IsAt (stringSource ps ++ r) flow ts) :
    ∃ s', s.token '"' = .ok s' ∧ s'.IsAt r flow (ts ++ [textToken ps]) ∧
      s'.cursor = s.cursor.forward (stringSource ps).length ∧
      (s.keyAllowed = true → s'.places.head? = some (flow,
        ⟨ts.length, false, s.cursor.index, s.cursor.line, s.cursor.column⟩)) := by
  obtain ⟨places, hplaces, hsave, hhead⟩ := savePlace_eq h.indent h.places
  have hsource : stringSource ps ++ r = '"' :: (pieceSource ps ++ '"' :: r) := by
    simp [stringSource]
  have hrest := h.rest.trans hsource
  have hread : quotedFrom true (s.cursor.rest.length + 1) [] s.cursor.step = _ :=
    (readsPieces r ps hps).here (Cursor.rest_step hrest) (by
      have hshort := length_le_pieceSource ps
      rw [hrest, List.length_cons, List.length_append]
      omega)
  have hquoted : s.token '"' = s.quotedScalar true := by
    simp [token, Cursor.atMark, Cursor.peek_zero hrest]
  have hforward : s.cursor.forward (stringSource ps).length =
      s.cursor.step.forward ((pieceSource ps).length + 1) := by
    simp [stringSource, Cursor.forward]
  have htoken : s.token '"' = .ok { ({ s with places := places } : Scanner).push (textToken ps) with
      cursor := s.cursor.step.forward ((pieceSource ps).length + 1)
      keyAllowed := false } := by
    rw [hquoted, quotedScalar, keyToken, hsave]
    simp only [bind, Except.bind, hread]
    rfl
  refine ⟨_, htoken, ⟨?_, h.flow, ?_, h.indent, h.indents, hplaces⟩, hforward.symm, ?_⟩
  · rw [← hforward]
    exact Cursor.rest_forward h.rest
  · simp [push, h.tokens, textToken]
  · intro hkey
    rw [← h.flow, ← h.tokens, Array.length_toList]
    exact hhead hkey

/-- A literal that begins with a minus sign goes on with another character. -/
theorem exists_second (l : Json.Literal) {t : List Char} (h : l.source = '-' :: t) :
    ∃ e u, t = e :: u ∧ e ≠ '-' ∧ atBlank (some e) = false := by
  have hnumber : ∀ (negative : Bool) {digits : List Char} (u : List Char), Json.IsWhole digits →
      Json.signSource negative ++ (digits ++ u) = '-' :: t →
        ∃ e u, t = e :: u ∧ e ≠ '-' ∧ atBlank (some e) = false := by
    intro negative digits u hdigits heq
    obtain ⟨e, v, rfl⟩ := List.exists_cons_of_ne_nil hdigits.ne_nil
    have he := hdigits.all_digits e List.mem_cons_self
    cases negative with
    | false => exact (ne_of_isDigit he rfl (List.cons.inj heq).1).elim
    | true =>
      refine ⟨e, v ++ u, (List.cons.inj heq).2.symm, ne_of_isDigit he rfl, ?_⟩
      have hplain := isPlainChar_of_isNumberChar (c := e) (by rw [Json.isNumberChar, he]; rfl)
      simp only [isPlainChar, Bool.and_eq_true, Bool.not_eq_true'] at hplain
      exact hplain.1.1.1
  cases l with
  | word w v hw =>
    unfold Json.words at hw
    simp only [List.mem_cons, Prod.mk.injEq, List.not_mem_nil, or_false] at hw
    obtain ⟨rfl, rfl⟩ | ⟨rfl, rfl⟩ | ⟨rfl, rfl⟩ | ⟨rfl, rfl⟩ | ⟨rfl, rfl⟩ | ⟨rfl, rfl⟩ := hw
    case inr.inr.inr.inr.inr =>
      exact ⟨'I', _, (List.cons.inj h).2.symm, by decide, rfl⟩
    all_goals cases (List.cons.inj h).1
  | integer negative digits hdigits _ =>
    exact hnumber negative [] hdigits (by rw [List.append_nil]; exact h)
  | double negative digits fraction e hdigits _ _ =>
    refine hnumber negative (Json.fractionSource fraction ++ Json.exponentSource e) hdigits ?_
    rw [← h, Json.Literal.source]
    simp

/-- The first character of a literal. -/
theorem isLiteralHead_of_source (l : Json.Literal) {u : List Char} (h : l.source = ch :: u) :
    Json.isLiteralHead ch = true := by
  obtain ⟨c, t, hsource, hc⟩ := l.exists_head
  rw [h] at hsource
  rwa [(List.cons.inj hsource).1]

/-- A literal begins like a token. -/
theorem isTokenHead_source (l : Json.Literal) {u : List Char} (h : l.source = ch :: u) :
    isTokenHead ch = true := by
  have hplain := isPlainChar_source l ch (by rw [h]; exact List.mem_cons_self)
  have hmark : ch ≠ '\ufeff' := by
    rintro rfl
    cases isLiteralHead_of_source l h
  simp only [isPlainChar, atBlank, Bool.and_eq_true, Bool.not_eq_true', Bool.or_eq_false_iff,
    beq_eq_false_iff_ne, bne_iff_ne] at hplain
  simp [isTokenHead, hplain, hmark]

/-- A literal is scanned as a plain scalar. -/
theorem token_eq_plainScalar (l : Json.Literal) {u : List Char} (h : l.source = ch :: u)
    (hrest : s.cursor.rest = l.source ++ r) : s.token ch = s.plainScalar := by
  have hhead := isLiteralHead_of_source l h
  have hne : ∀ x, Json.isLiteralHead x = false → ch ≠ x := by
    rintro x hx rfl
    cases hhead.symm.trans hx
  have hmarks : "-?:,[]\x7b\x7d#&*!|>'\"%@\x60".toList = ['-', '?', ':', ',', '[', ']', '\x7b',
    '\x7d', '#', '&', '*', '!', '|', '>', '\'', '"', '%', '@', '\x60'] := rfl
  rw [h, List.cons_append] at hrest
  by_cases hminus : ch = '-'
  · subst hminus
    obtain ⟨e, v, rfl, he, hblank⟩ := exists_second l h
    have hpeek : s.cursor.peek 1 = some e := by
      rw [Cursor.peek, hrest]
      rfl
    simp [token, Cursor.atMark, Cursor.peek_zero hrest, hpeek, he, hblank, atPlain]
  · have hblank : atBlank (some ch) = false := by
      have hplain := isPlainChar_source l ch (by rw [h]; exact List.mem_cons_self)
      simp only [isPlainChar, Bool.and_eq_true, Bool.not_eq_true'] at hplain
      exact hplain.1.1.1
    simp [token, Cursor.atMark, Cursor.peek_zero hrest, hminus, hblank, atPlain, hmarks,
      hne '%' rfl, hne '.' rfl, hne '[' rfl, hne '\x7b' rfl, hne ']' rfl, hne '\x7d' rfl,
      hne ',' rfl, hne '?' rfl, hne ':' rfl, hne '*' rfl, hne '&' rfl, hne '!' rfl, hne '|' rfl,
      hne '>' rfl, hne '\'' rfl, hne '"' rfl, hne '#' rfl, hne '@' rfl, hne '\x60' rfl]

/-- A literal is one token, with the white space behind it. -/
theorem token_literal (l : Json.Literal) {t : List Char} (hsource : l.source = ch :: t) {d : Char}
    (hgap : IsBlank gap) (hd : isDelimiter d = true) (hflow : 0 < flow)
    (h : s.IsAt (l.source ++ (gap ++ d :: r)) flow ts) :
    ∃ s', s.token ch = .ok s' ∧ s'.IsAt (d :: r) flow (ts ++ [.scalar (codes l.source) true]) := by
  obtain ⟨places, hplaces, hsave, -⟩ := savePlace_eq h.indent h.places
  have hne : l.source ≠ [] := by
    rw [hsource]
    exact List.cons_ne_nil ch t
  obtain ⟨fuel, hfuel⟩ : ∃ n, s.cursor.rest.length + 1 = n + 2 := by
    rw [h.rest, hsource]
    exact ⟨_, rfl⟩
  obtain ⟨crossed, hread⟩ := plainFrom_source (isPlainChar_source l) hne hgap hd (s.indent + 1) fuel
    h.rest
  have hdeep : (s.flow != 0) = true := by
    rw [h.flow, bne_iff_ne]
    omega
  have htoken : s.token ch = .ok
      { ({ s with places := places } : Scanner).push (.scalar (codes l.source) true) with
        cursor := s.cursor.forward (l.source.length + gap.length)
        keyAllowed := crossed } := by
    rw [token_eq_plainScalar l hsource h.rest, plainScalar, hsave]
    simp only [bind, Except.bind, hdeep, hfuel, hread]
    rfl
  refine ⟨_, htoken, ⟨?_, h.flow, ?_, h.indent, h.indents, hplaces⟩⟩
  · rw [← List.length_append]
    exact Cursor.rest_forward (by rw [List.append_assoc]; exact h.rest)
  · simp [push, h.tokens]

/-- A token put in front of the last one. -/
theorem insertIdx_length_append (ts : List Token) (t u : Token) :
    (ts ++ [t]).insertIdx ts.length u = ts ++ [u, t] := by
  induction ts with
  | nil => rfl
  | cons first ts ih => exact congrArg (List.cons first) ih

/-- A colon makes a key of the token before it. -/
theorem token_colon {t : Token} {p : KeyPlace} (h : s.IsAt (':' :: r) flow (ts ++ [t]))
    (hflow : 0 < flow) (hp : s.places.head? = some (flow, p)) (htoken : p.token = ts.length) :
    ∃ s', s.token ':' = .ok s' ∧ s'.IsAt r flow (ts ++ [.key, t, .value]) := by
  have hdeep : s.flow ≠ 0 := by
    rw [h.flow]
    omega
  have hplace : s.place? = some p := by
    obtain ⟨ps, hps⟩ := List.head?_eq_some_iff.1 hp
    rw [place?, hps, h.flow, List.find?_cons_of_pos (by simp)]
    rfl
  have hvalue : s.token ':' = s.valueMark := by
    simp [token, Cursor.atMark, Cursor.peek_zero h.rest, hdeep]
  have hinsert : s.tokens.insertIdxIfInBounds p.token .key = (ts ++ [.key, t]).toArray := by
    have htokens : s.tokens = (ts ++ [t]).toArray := by
      rw [← h.tokens, Array.toArray_toList]
    rw [htokens, List.insertIdxIfInBounds_toArray, htoken, insertIdx_length_append]
  have hmark : s.token ':' = .ok (({ s with
      places := s.places.filter fun q => q.1 != s.flow
      tokens := s.tokens.insertIdxIfInBounds p.token .key
      keyAllowed := false } : Scanner).take 1 .value) := by
    rw [hvalue, valueMark, hplace]
    simp only [hdeep, if_false]
    rfl
  refine ⟨_, hmark, ⟨Cursor.rest_step h.rest, h.flow, ?_, h.indent, h.indents, ?_⟩⟩
  · simp [take, push, hinsert]
  · exact fun q hq => h.places q (List.mem_filter.1 hq).1

end Step

end Courier.Yaml.Scanner
