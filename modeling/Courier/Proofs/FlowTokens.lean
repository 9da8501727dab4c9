import Courier.Proofs.FlowSteps
import Courier.Proofs.LineBreaks
import Courier.Proofs.ScalarValue

/-!
# The tokens of a JSON text

A JSON text that YAML takes for the same has the tokens of its tree, one for each bracket, comma,
colon, string and literal, and one before each name. Scanning goes token by token (`Leads`), and
what each one needs of the state is kept by all of them (`IsAt`): no block is open, and no place of
a key has to become one.
-/

namespace Courier.Json

open Yaml (Token codes)

/-! ## Texts that are the same -/

/-- Whether white space is the same in both languages: it has no tabs. -/
def isSameGap (gap : Gap) : Bool := !gap.1.contains '\t'

/-- Whether a name is the same in both languages: it is on one line with its colon, which is not
too far from its beginning. -/
def Name.isSame (n : Name) : Bool :=
  isSameText n.pieces && (pieceSource n.pieces).all (fun c => !Yaml.isBreak c) &&
    n.before.1.all (· == ' ') &&
    decide ((stringSource n.pieces ++ n.before).length ≤ Yaml.keyLimit) && isSameGap n.behind

mutual

/-- Whether a value is written in a way that is the same in both languages. -/
def Tree.isSame : Tree → Bool
  | .literal l => l.isSame
  | .text ps => isSameText ps
  | .emptyList gap => isSameGap gap
  | .list gap items => isSameGap gap && items.isSame
  | .emptyMap gap => isSameGap gap
  | .map gap members => isSameGap gap && members.isSame

/-- The same for items. -/
def Items.isSame : Items → Bool
  | .last v before => v.isSame && isSameGap before
  | .more v before behind rest =>
    v.isSame && isSameGap before && isSameGap behind && rest.isSame

/-- The same for members. -/
def Members.isSame : Members → Bool
  | .last name v before => name.isSame && v.isSame && isSameGap before
  | .more name v before behind rest =>
    name.isSame && v.isSame && isSameGap before && isSameGap behind && rest.isSame

end

/-! ## Tokens -/

mutual

/-- The tokens of a value. -/
def Tree.tokens : Tree → List Token
  | .literal l => [.scalar (codes l.source) true]
  | .text ps => [textToken ps]
  | .emptyList _ => [.flowSequenceStart, .flowSequenceEnd]
  | .list _ items => .flowSequenceStart :: items.tokens
  | .emptyMap _ => [.flowMappingStart, .flowMappingEnd]
  | .map _ members => .flowMappingStart :: members.tokens

/-- The tokens of items up to the closing bracket. -/
def Items.tokens : Items → List Token
  | .last v _ => v.tokens ++ [.flowSequenceEnd]
  | .more v _ _ rest => v.tokens ++ .flowEntry :: rest.tokens

/-- The tokens of members up to the closing brace. -/
def Members.tokens : Members → List Token
  | .last name v _ => .key :: textToken name.pieces :: .value :: (v.tokens ++ [.flowMappingEnd])
  | .more name v _ _ rest =>
    .key :: textToken name.pieces :: .value :: (v.tokens ++ .flowEntry :: rest.tokens)

end

/-- White space that is the same in both languages is spaces and line feeds there. -/
theorem isBlank_gap (gap : Gap) (h : isSameGap gap = true) : Yaml.IsBlank (plainBreaks gap) :=
  isBlank_plainBreaks (List.all_eq_true.1 gap.2) (by simpa [isSameGap] using h)

end Courier.Json

namespace Courier.Yaml.Scanner

open Json (isBlank_gap Piece pieceSource stringSource isSameText textToken)

/-! ## Runs -/

/-- Scanning gets from one state to another, taking a character at least for each token. -/
def Leads (s s' : Scanner) : Prop :=
  ∃ k, s'.cursor.rest.length + k ≤ s.cursor.rest.length ∧ ∀ fuel, scan (fuel + k) s = scan fuel s'

/-- What leads to a state leads to where that leads. -/
theorem Leads.trans {s s' s'' : Scanner} (h : Leads s s') (h' : Leads s' s'') : Leads s s'' := by
  obtain ⟨k, hk, hscan⟩ := h
  obtain ⟨k', hk', hscan'⟩ := h'
  refine ⟨k' + k, by omega, fun fuel => ?_⟩
  rw [← Nat.add_assoc, hscan, hscan']

section Step

variable {s : Scanner} {gap r : List Char} {flow : Nat} {ts : List Token} {ch : Char}

/-- A state in which some white space is left before the rest. -/
def IsBefore (s : Scanner) (rest : List Char) (flow : Nat) (ts : List Token) : Prop :=
  ∃ gap, IsBlank gap ∧ s.IsAt (gap ++ rest) flow ts

/-- Right before the rest, there is no white space. -/
theorem IsAt.isBefore (hgap : IsBlank gap) (h : s.IsAt (gap ++ r) flow ts) :
    s.IsBefore r flow ts := ⟨gap, hgap, h⟩

/-- Scanning a token leads to the state after it. -/
theorem leads_of_token (hch : isTokenHead ch = true) (h : s.IsBefore (ch :: r) flow ts)
    {P : Scanner → Prop} {t : List Char}
    (htoken : ∀ s₁ : Scanner, s₁.IsAt (ch :: r) flow ts →
      (s.keyAllowed = true → s₁.keyAllowed = true) →
        ∃ s', s₁.token ch = .ok s' ∧ s'.cursor.rest = t ∧ P s')
    (hlength : t.length ≤ r.length) :
    ∃ s', Leads s s' ∧ P s' := by
  obtain ⟨gap, hgap, hat⟩ := h
  obtain ⟨s₁, hs₁, hkey, -, -, hscan⟩ :=
    exists_ready (r := ch :: r) hgap (by rintro d ⟨⟩; exact hch) hat
  obtain ⟨s', hs', hrest, hP⟩ := htoken s₁ hs₁ hkey
  refine ⟨s', ⟨1, ?_, fun fuel => ?_⟩, hP⟩
  · rw [hrest, hat.rest, List.length_append, List.length_cons]
    omega
  · rw [hscan, List.head?_cons, Option.elim_some, hs']
    rfl

/-- An opening bracket leads one level deeper. -/
theorem leads_open {t : Token} (h : s.IsBefore (ch :: r) flow ts)
    (hch : ch = '[' ∧ t = .flowSequenceStart ∨ ch = '\x7b' ∧ t = .flowMappingStart) :
    ∃ s', Leads s s' ∧ s'.IsAt r (flow + 1) (ts ++ [t]) ∧ s'.keyAllowed = true := by
  have hhead : isTokenHead ch = true := by
    obtain ⟨rfl, -⟩ | ⟨rfl, -⟩ := hch <;> rfl
  refine leads_of_token hhead h (fun s₁ hs₁ _ => ?_) (Nat.le_refl r.length)
  obtain ⟨s', hs', hat, hkey⟩ := token_open hs₁ hch
  exact ⟨s', hs', hat.rest, hat, hkey⟩

/-- A closing bracket leads one level up. -/
theorem leads_close {t : Token} (h : s.IsBefore (ch :: r) (flow + 1) ts)
    (hch : ch = ']' ∧ t = .flowSequenceEnd ∨ ch = '\x7d' ∧ t = .flowMappingEnd) :
    ∃ s', Leads s s' ∧ s'.IsAt r flow (ts ++ [t]) := by
  have hhead : isTokenHead ch = true := by
    obtain ⟨rfl, -⟩ | ⟨rfl, -⟩ := hch <;> rfl
  refine leads_of_token hhead h (fun s₁ hs₁ _ => ?_) (Nat.le_refl r.length)
  obtain ⟨s', hs', hat⟩ := token_close hs₁ hch
  exact ⟨s', hs', hat.rest, hat⟩

/-- A comma leads to where a key may begin. -/
theorem leads_comma (h : s.IsBefore (',' :: r) flow ts) :
    ∃ s', Leads s s' ∧ s'.IsAt r flow (ts ++ [.flowEntry]) ∧ s'.keyAllowed = true := by
  refine leads_of_token rfl h (fun s₁ hs₁ _ => ?_) (Nat.le_refl r.length)
  obtain ⟨s', hs', hat, hkey⟩ := token_comma hs₁
  exact ⟨s', hs', hat.rest, hat, hkey⟩

/-- A string leads behind its closing quote. -/
theorem leads_string (ps : List Piece) (hps : isSameText ps = true)
    (h : s.IsBefore (stringSource ps ++ r) flow ts) :
    ∃ s', Leads s s' ∧ s'.IsAt r flow (ts ++ [textToken ps]) ∧
      (s.keyAllowed = true → ∃ c : Cursor, c.rest = stringSource ps ++ r ∧
        s'.cursor = c.forward (stringSource ps).length ∧
        s'.places.head? = some (flow, ⟨ts.length, false, c.index, c.line, c.column⟩)) := by
  have hquote : s.IsBefore ('"' :: (pieceSource ps ++ ['"'] ++ r)) flow ts := h
  refine leads_of_token rfl hquote (t := r) (fun s₁ hs₁ hallowed => ?_) (by
    rw [List.length_append]
    omega)
  obtain ⟨s', hs', hat, hcursor, hplace⟩ := token_string ps hps hs₁
  exact ⟨s', hs', hat.rest, hat, fun hkey => ⟨s₁.cursor, hs₁.rest, hcursor, hplace (hallowed hkey)⟩⟩

/-- A literal leads behind the white space that follows it. -/
theorem leads_literal (l : Json.Literal) {d : Char} (hgap : IsBlank gap)
    (hd : isDelimiter d = true) (hflow : 0 < flow)
    (h : s.IsBefore (l.source ++ (gap ++ d :: r)) flow ts) :
    ∃ s', Leads s s' ∧ s'.IsAt (d :: r) flow (ts ++ [.scalar (codes l.source) true]) := by
  obtain ⟨c, t, hsource, -⟩ := l.exists_head
  rw [hsource, List.cons_append] at h
  refine leads_of_token (isTokenHead_source l hsource) h (t := d :: r) (fun s₁ hs₁ _ => ?_) (by
    rw [List.length_append, List.length_append]
    omega)
  rw [← List.cons_append, ← hsource] at hs₁
  obtain ⟨s', hs', hat⟩ := token_literal l hsource hgap hd hflow hs₁
  exact ⟨s', hs', hat.rest, hat⟩

/-- A string without breaks is on one line. -/
theorem isBreak_stringSource {ps : List Piece}
    (h : (pieceSource ps).all (fun c => !isBreak c) = true) :
    ∀ d ∈ stringSource ps, isBreak d = false := by
  intro d hd
  simp only [stringSource, List.cons_append, List.mem_cons, List.mem_append, List.not_mem_nil,
    or_false] at hd
  obtain rfl | hd | rfl := hd
  · rfl
  · simpa using List.all_eq_true.1 h d hd
  · rfl

/-- A name becomes a key at its colon. -/
theorem leads_name (n : Json.Name) (hn : n.isSame = true) (hflow : 0 < flow)
    (hkey : s.keyAllowed = true)
    (h : s.IsBefore (n.source Courier.plainBreaks ++ r) flow ts) :
    ∃ s', Leads s s' ∧ s'.IsBefore r flow (ts ++ [.key, textToken n.pieces, .value]) := by
  simp only [Json.Name.isSame, Bool.and_eq_true, decide_eq_true_eq] at hn
  obtain ⟨⟨⟨⟨hpieces, hline⟩, hspaces⟩, hlength⟩, hbehind⟩ := hn
  have hbefore : ∀ c ∈ n.before.1, c = ' ' := fun c hc => by
    simpa using List.all_eq_true.1 hspaces c hc
  have hreturn : '\r' ∉ n.before.1 := fun hc => absurd (hbefore _ hc) (by decide)
  have hsource : n.source Courier.plainBreaks ++ r =
      stringSource n.pieces ++ (n.before ++ ':' :: (Courier.plainBreaks n.behind ++ r)) := by
    have hplain := plainBreaks_append_of_not_mem hreturn []
    simp only [List.append_nil, Courier.plainBreaks] at hplain
    rw [Json.Name.source, hplain, List.append_assoc, List.append_assoc, List.cons_append]
  rw [hsource] at h
  obtain ⟨s₁, hlead, hat, hplace⟩ := leads_string n.pieces hpieces h
  obtain ⟨c, hc, hcursor, hhead⟩ := hplace hkey
  obtain ⟨s₂, hs₂, -, hcursor₂, hfresh, hscan⟩ :=
    exists_ready (r := ':' :: _) (fun c hc => .inl (hbefore c hc)) (by rintro d ⟨⟩; rfl) hat
  -- the place of the name is still fresh at the colon
  have hsplit : c.rest = (stringSource n.pieces ++ n.before) ++
      ':' :: (Courier.plainBreaks n.behind ++ r) := by
    rw [hc, List.append_assoc]
  have hforward : s₂.cursor = c.forward (stringSource n.pieces ++ n.before).length := by
    rw [hcursor₂, hcursor, List.length_append, Cursor.forward_add]
  have hbreak : ∀ d ∈ stringSource n.pieces ++ n.before, isBreak d = false := by
    intro d hd
    obtain hd | hd := List.mem_append.1 hd
    · exact isBreak_stringSource hline d hd
    · rw [hbefore d hd]
      rfl
  have hplace₂ := hfresh _ hhead (by
    rw [hforward]
    exact isFresh_forward hsplit hbreak hlength flow ts.length)
  obtain ⟨s', hs', hat'⟩ := token_colon hs₂ hflow hplace₂ rfl
  refine ⟨s', hlead.trans ⟨1, ?_, fun fuel => ?_⟩,
    hat'.isBefore (isBlank_gap n.behind hbehind)⟩
  · rw [hat'.rest, hat.rest]
    simp
  · rw [hscan, List.head?_cons, Option.elim_some, hs']
    rfl

end Step

/-- A collection without content is two tokens. -/
theorem leads_empty {s : Scanner} {opens closes : Char} {t u : Token} (gap : Json.Gap)
    {r : List Char} {flow : Nat} {ts : List Token} (hgap : Json.isSameGap gap = true)
    (hopens : opens = '[' ∧ t = .flowSequenceStart ∨ opens = '\x7b' ∧ t = .flowMappingStart)
    (hcloses : closes = ']' ∧ u = .flowSequenceEnd ∨ closes = '\x7d' ∧ u = .flowMappingEnd)
    (h : s.IsBefore (opens :: (Courier.plainBreaks gap ++ closes :: r)) flow ts) :
    ∃ s', Leads s s' ∧ s'.IsAt r flow (ts ++ [t, u]) := by
  obtain ⟨s₁, hlead₁, hat₁, -⟩ := leads_open h hopens
  obtain ⟨s₂, hlead₂, hat₂⟩ := leads_close (hat₁.isBefore (isBlank_gap gap hgap)) hcloses
  rw [List.append_assoc] at hat₂
  exact ⟨s₂, hlead₁.trans hlead₂, hat₂⟩

mutual

/-- A value leads to the delimiter behind it. -/
theorem leads_tree (v : Json.Tree) (hv : v.isSame = true) {s : Scanner} {gap r : List Char}
    {d : Char} {flow : Nat} {ts : List Token} (hgap : IsBlank gap) (hd : isDelimiter d = true)
    (hflow : 0 < flow)
    (h : s.IsBefore (v.source Courier.plainBreaks ++ (gap ++ d :: r)) flow ts) :
    ∃ s', Leads s s' ∧ s'.IsBefore (d :: r) flow (ts ++ v.tokens) := by
  cases v with
  | literal l =>
    obtain ⟨s₁, hlead, hat⟩ := leads_literal l hgap hd hflow h
    exact ⟨s₁, hlead, [], nofun, hat⟩
  | text ps =>
    obtain ⟨s₁, hlead, hat, -⟩ := leads_string ps hv h
    exact ⟨s₁, hlead, hat.isBefore hgap⟩
  | emptyList inner =>
    simp only [Json.Tree.source, List.cons_append, List.append_assoc, List.nil_append] at h
    obtain ⟨s₁, hlead, hat⟩ := leads_empty inner hv (.inl ⟨rfl, rfl⟩) (.inl ⟨rfl, rfl⟩) h
    exact ⟨s₁, hlead, hat.isBefore hgap⟩
  | emptyMap inner =>
    simp only [Json.Tree.source, List.cons_append, List.append_assoc, List.nil_append] at h
    obtain ⟨s₁, hlead, hat⟩ := leads_empty inner hv (.inr ⟨rfl, rfl⟩) (.inr ⟨rfl, rfl⟩) h
    exact ⟨s₁, hlead, hat.isBefore hgap⟩
  | list inner is =>
    simp only [Json.Tree.isSame, Bool.and_eq_true] at hv
    simp only [Json.Tree.source, List.cons_append, List.append_assoc] at h
    obtain ⟨s₁, hlead₁, hat₁, -⟩ := leads_open h (.inl ⟨rfl, rfl⟩)
    obtain ⟨s₂, hlead₂, hat₂⟩ := leads_items is hv.2 (hat₁.isBefore (isBlank_gap inner hv.1))
    rw [List.append_assoc] at hat₂
    exact ⟨s₂, hlead₁.trans hlead₂, hat₂.isBefore hgap⟩
  | map inner ms =>
    simp only [Json.Tree.isSame, Bool.and_eq_true] at hv
    simp only [Json.Tree.source, List.cons_append, List.append_assoc] at h
    obtain ⟨s₁, hlead₁, hat₁, hkey⟩ := leads_open h (.inr ⟨rfl, rfl⟩)
    obtain ⟨s₂, hlead₂, hat₂⟩ :=
      leads_members ms hv.2 hkey (hat₁.isBefore (isBlank_gap inner hv.1))
    rw [List.append_assoc] at hat₂
    exact ⟨s₂, hlead₁.trans hlead₂, hat₂.isBefore hgap⟩

/-- Items lead behind the closing bracket. -/
theorem leads_items (is : Json.Items) (his : is.isSame = true) {s : Scanner} {r : List Char}
    {flow : Nat} {ts : List Token}
    (h : s.IsBefore (is.source Courier.plainBreaks ++ r) (flow + 1) ts) :
    ∃ s', Leads s s' ∧ s'.IsAt r flow (ts ++ is.tokens) := by
  cases is with
  | last v before =>
    simp only [Json.Items.isSame, Bool.and_eq_true] at his
    simp only [Json.Items.source, List.append_assoc, List.cons_append, List.nil_append] at h
    obtain ⟨s₁, hlead₁, hat₁⟩ :=
      leads_tree v his.1 (isBlank_gap before his.2) rfl (Nat.succ_pos flow) h
    obtain ⟨s₂, hlead₂, hat₂⟩ := leads_close hat₁ (.inl ⟨rfl, rfl⟩)
    rw [List.append_assoc] at hat₂
    exact ⟨s₂, hlead₁.trans hlead₂, hat₂⟩
  | more v before behind rest =>
    simp only [Json.Items.isSame, Bool.and_eq_true] at his
    obtain ⟨⟨⟨hv, hbefore⟩, hbehind⟩, hrest⟩ := his
    simp only [Json.Items.source, List.append_assoc, List.cons_append] at h
    obtain ⟨s₁, hlead₁, hat₁⟩ :=
      leads_tree v hv (isBlank_gap before hbefore) rfl (Nat.succ_pos flow) h
    obtain ⟨s₂, hlead₂, hat₂, -⟩ := leads_comma hat₁
    obtain ⟨s₃, hlead₃, hat₃⟩ :=
      leads_items rest hrest (hat₂.isBefore (isBlank_gap behind hbehind))
    simp only [List.append_assoc, List.cons_append, List.nil_append] at hat₃
    exact ⟨s₃, hlead₁.trans (hlead₂.trans hlead₃), hat₃⟩

/-- Members lead behind the closing brace. -/
theorem leads_members (ms : Json.Members) (hms : ms.isSame = true) {s : Scanner} {r : List Char}
    {flow : Nat} {ts : List Token} (hkey : s.keyAllowed = true)
    (h : s.IsBefore (ms.source Courier.plainBreaks ++ r) (flow + 1) ts) :
    ∃ s', Leads s s' ∧ s'.IsAt r flow (ts ++ ms.tokens) := by
  cases ms with
  | last name v before =>
    simp only [Json.Members.isSame, Bool.and_eq_true] at hms
    obtain ⟨⟨hname, hv⟩, hbefore⟩ := hms
    simp only [Json.Members.source, List.append_assoc, List.cons_append, List.nil_append] at h
    obtain ⟨s₁, hlead₁, hat₁⟩ := leads_name name hname (Nat.succ_pos flow) hkey h
    obtain ⟨s₂, hlead₂, hat₂⟩ :=
      leads_tree v hv (isBlank_gap before hbefore) rfl (Nat.succ_pos flow) hat₁
    obtain ⟨s₃, hlead₃, hat₃⟩ := leads_close hat₂ (.inr ⟨rfl, rfl⟩)
    simp only [List.append_assoc, List.cons_append, List.nil_append] at hat₃
    exact ⟨s₃, hlead₁.trans (hlead₂.trans hlead₃), hat₃⟩
  | more name v before behind rest =>
    simp only [Json.Members.isSame, Bool.and_eq_true] at hms
    obtain ⟨⟨⟨⟨hname, hv⟩, hbefore⟩, hbehind⟩, hrest⟩ := hms
    simp only [Json.Members.source, List.append_assoc, List.cons_append] at h
    obtain ⟨s₁, hlead₁, hat₁⟩ := leads_name name hname (Nat.succ_pos flow) hkey h
    obtain ⟨s₂, hlead₂, hat₂⟩ :=
      leads_tree v hv (isBlank_gap before hbefore) rfl (Nat.succ_pos flow) hat₁
    obtain ⟨s₃, hlead₃, hat₃, hallowed⟩ := leads_comma hat₂
    obtain ⟨s₄, hlead₄, hat₄⟩ :=
      leads_members rest hrest hallowed (hat₃.isBefore (isBlank_gap behind hbehind))
    simp only [List.append_assoc, List.cons_append, List.nil_append] at hat₄
    exact ⟨s₄, hlead₁.trans (hlead₂.trans (hlead₃.trans hlead₄)), hat₄⟩

end

end Courier.Yaml.Scanner

namespace Courier.Json

open Yaml.Scanner

/-- Whether a text is written in a way that is the same in both languages. -/
def Document.isSame (d : Document) : Bool :=
  isSameGap d.before && d.root.isSame && isSameGap d.behind &&
    (d.source plainBreaks).all Yaml.isAllowed

/-- A literal is no mapping. -/
theorem Literal.value_ne_map (l : Literal) (es : List (Data × Data)) : l.value ≠ .map es := by
  cases l with
  | word w v h =>
    unfold words at h
    simp only [List.mem_cons, Prod.mk.injEq, List.not_mem_nil, or_false] at h
    obtain ⟨-, rfl⟩ | ⟨-, rfl⟩ | ⟨-, rfl⟩ | ⟨-, rfl⟩ | ⟨-, rfl⟩ | ⟨-, rfl⟩ := h <;> exact nofun
  | integer negative digits h hsize => exact nofun
  | double negative digits fraction e h hfraction hdouble => exact nofun

/-- A value that is a mapping is written between braces. -/
theorem exists_braces {t : Tree} {es : List (Data × Data)} (hmap : t.value = .map es) :
    (∃ gap, t = .emptyMap gap) ∨ ∃ gap ms, t = .map gap ms := by
  cases t with
  | literal l => exact (l.value_ne_map es hmap).elim
  | text ps =>
    simp only [Tree.value, pieceValue, Data.ofCodes] at hmap
    split at hmap <;> cases hmap
  | emptyList gap => cases hmap
  | list gap is => cases hmap
  | emptyMap gap => exact .inl ⟨gap, rfl⟩
  | map gap ms => exact .inr ⟨gap, ms, rfl⟩

/-- A mapping leads behind its closing brace, also where it is the whole text. -/
theorem leads_root {t : Tree} {es : List (Data × Data)} (hmap : t.value = .map es)
    (ht : t.isSame = true) {s : Yaml.Scanner} {r : List Char} {flow : Nat} {ts : List Yaml.Token}
    (h : s.IsBefore (t.source plainBreaks ++ r) flow ts) :
    ∃ s', Leads s s' ∧ s'.IsAt r flow (ts ++ t.tokens) := by
  obtain ⟨gap, rfl⟩ | ⟨gap, ms, rfl⟩ := exists_braces hmap
  · simp only [Tree.source, List.cons_append, List.append_assoc, List.nil_append] at h
    exact leads_empty gap ht (.inr ⟨rfl, rfl⟩) (.inr ⟨rfl, rfl⟩) h
  · simp only [Tree.isSame, Bool.and_eq_true] at ht
    simp only [Tree.source, List.cons_append, List.append_assoc] at h
    obtain ⟨s₁, hlead₁, hat₁, hkey⟩ := leads_open h (.inr ⟨rfl, rfl⟩)
    obtain ⟨s₂, hlead₂, hat₂⟩ := leads_members ms ht.2 hkey (hat₁.isBefore (isBlank_gap gap ht.1))
    rw [List.append_assoc] at hat₂
    exact ⟨s₂, hlead₁.trans hlead₂, hat₂⟩

/-- The tokens of a text whose value is a mapping. -/
theorem tokens_source {d : Document} {es : List (Data × Data)} (hmap : d.root.value = .map es)
    (hd : d.isSame = true) : Yaml.tokens (d.source plainBreaks) = .ok d.root.tokens := by
  simp only [Document.isSame, Bool.and_eq_true] at hd
  obtain ⟨⟨⟨hbefore, hroot⟩, hbehind⟩, -⟩ := hd
  have hstart : (Yaml.Scanner.start (d.source plainBreaks)).IsBefore
      (d.root.source plainBreaks ++ plainBreaks d.behind) 0 [] := by
    refine ⟨plainBreaks d.before, isBlank_gap d.before hbefore, ⟨?_, rfl, rfl, rfl, rfl, nofun⟩⟩
    rw [← List.append_assoc]
    rfl
  obtain ⟨s₁, ⟨k, hk, hscan⟩, hat⟩ := leads_root hmap hroot hstart
  rw [List.nil_append] at hat
  obtain ⟨fuel, hfuel⟩ : ∃ n, (d.source plainBreaks).length + 2 = n + 1 + k := by
    refine ⟨(d.source plainBreaks).length + 1 - k, ?_⟩
    have hlength : (Yaml.Scanner.start (d.source plainBreaks)).cursor.rest.length =
      (d.source plainBreaks).length := rfl
    omega
  unfold Yaml.tokens
  rw [hfuel, hscan, scan_end (isBlank_gap d.behind hbehind) hat]
  rfl

end Courier.Json
