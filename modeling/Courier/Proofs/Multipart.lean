import Mathlib.Data.List.TakeWhile
import Courier.Multipart
import Courier.Proofs.AsciiBytes
import Courier.Proofs.Header
import Courier.Proofs.Trimming

/-!
# Form data is read back

A receiver cuts a body at the delimiters and reads each part: the lines of its header, the
parameters of its disposition, and the content. From the body of some fields it reads those fields
in their order, each with its name as it is escaped and its value byte by byte (`decode_body`),
provided that the delimiter occurs in no value and in no escaped name.

The delimiter is two hyphens and the boundary, which has hexadecimal digits only. So it lacks the
quotes and line breaks that surround names and values, and occurs nowhere else than in one of them
(`not_infix_framed`). It lacks the line break in front of it as well, so an occurrence does not
begin in one part and end behind it (`splitAtMark_marked`, by induction on the parts).
-/

namespace Courier

open Text Text.Utf8

namespace Multipart

/-! ## The receiver -/

/-- A part as its receiver reads it: the parameters of its disposition, its content type and its
content. -/
structure Part where
  parameters : List (String × String)
  contentType : Option String
  content : List UInt8
  deriving DecidableEq, Repr

/-- The lines of a header, which an empty line ends, and what stands behind it. `line` is the line
so far, backwards. -/
def headerLines (line : List UInt8) : List UInt8 → Option (List (List UInt8) × List UInt8)
  | 13 :: 10 :: rest =>
    if line.isEmpty then some ([], rest)
    else (headerLines [] rest).map fun (lines, content) => (line.reverse :: lines, content)
  | b :: rest => headerLines (b :: line) rest
  | [] => none

/-- A line of a header: what stands before its first colon, and what stands behind that without
blanks around it. -/
def headerField? (line : List UInt8) : Option (String × String) :=
  (decode? line).map fun text =>
    (String.ofList (text.toList.takeWhile (· != ':')),
      String.ofList (trimWhile isAsciiBlank ((text.toList.dropWhile (· != ':')).drop 1)))

/-- The sections of a header's value between the semicolons outside quotes. `piece` is the section
so far, backwards. -/
def sections (quoted : Bool) (piece : List Char) : List Char → List (List Char)
  | [] => [piece.reverse]
  | c :: rest =>
    if c = ';' ∧ quoted = false then piece.reverse :: sections false [] rest
    else sections (if c = '"' then !quoted else quoted) (c :: piece) rest

/-- A value, which between quotes is taken as it stands. -/
def unquote : List Char → List Char
  | '"' :: rest => rest.takeWhile (· != '"')
  | cs => cs

/-- A parameter of a header's value. -/
def parameter (part : List Char) : String × String :=
  let cs := trimWhile isAsciiBlank part
  (String.ofList (cs.takeWhile (· != '=')),
    String.ofList (unquote ((cs.dropWhile (· != '=')).drop 1)))

/-- The parameters of a disposition, which has to be that of form data. -/
def disposition? (value : String) : Option (List (String × String)) :=
  match sections false [] value.toList with
  | kind :: parameters =>
    if kind = "form-data".toList then some (parameters.map parameter) else none
  | [] => none

/-- Reads a part. -/
def Part.read? (bytes : List UInt8) : Option Part := do
  let (lines, content) ← headerLines [] bytes
  let headers ← lines.mapM headerField?
  let parameters ← (Headers.get? headers "Content-Disposition").bind disposition?
  return ⟨parameters, Headers.get? headers "Content-Type", content⟩

/-- The parts of a body as a receiver reads them. -/
def decode (boundary body : List UInt8) : Option (List Part) :=
  (split boundary body).bind fun parts => parts.mapM Part.read?

/-- The part that a field is sent as: it has the escaped name and nothing else beside the value. -/
def fieldPart (field : String × String) : Part :=
  ⟨[("name", escapeName field.1)], none, encode field.2⟩

/-! ## Boundaries -/

/-- The hexadecimal digits, in lower case. -/
def hexDigits : List Char :=
  ['0', '1', '2', '3', '4', '5', '6', '7', '8', '9', 'a', 'b', 'c', 'd', 'e', 'f']

/-- Boundaries as the client draws them: hexadecimal digits, at least one. -/
def IsBoundary (b : String) : Prop := b ≠ "" ∧ ∀ c ∈ b.toList, c ∈ hexDigits

instance (b : String) : Decidable (IsBoundary b) :=
  decidable_of_iff (b ≠ "" ∧ (b.toList.all fun c => hexDigits.contains c) = true)
    (by simp [IsBoundary])

section Delimiter

variable {b : String}

/-- The delimiter of a boundary. -/
def delimiter (b : String) : List Char := "--".toList ++ b.toList

/-- A delimiter has hyphens and hexadecimal digits only. -/
theorem mem_delimiter (hb : IsBoundary b) {c : Char} (hc : c ∈ delimiter b) :
    c = '-' ∨ c ∈ hexDigits := by
  rcases List.mem_append.1 hc with hc | hc
  · left
    have hhyphens : ∀ c ∈ "--".toList, c = '-' := forall_mem_of_all (by decide)
    exact hhyphens c hc
  · exact .inr (hb.2 c hc)

/-- A delimiter is ASCII. -/
theorem delimiter_lt (hb : IsBoundary b) {c : Char} (hc : c ∈ delimiter b) : c.toNat < 0x80 := by
  have hdigits : ∀ d ∈ hexDigits, d.toNat < 0x80 := forall_mem_of_all (by decide)
  rcases mem_delimiter hb hc with rfl | hdigit
  · decide
  · exact hdigits c hdigit

/-- The bytes of a delimiter. -/
theorem encodeChars_delimiter (b : String) : encodeChars (delimiter b) = encode "--" ++ encode b :=
  encodeChars_append _ _

end Delimiter

/-! ## Cutting at a mark -/

section Mark

variable {mark piece xs rest : List UInt8} {c : UInt8}

/-- What is skipped is not looked at. -/
theorem splitAtMark_skip (xs : List UInt8) :
    splitAtMark mark piece xs.length (xs ++ rest) = splitAtMark mark piece 0 rest := by
  induction xs with
  | nil => rfl
  | cons x xs ih =>
    rw [List.length_cons, List.cons_append, splitAtMark]
    exact ih

/-- A mark ends a piece. -/
theorem splitAtMark_mark (hmark : mark ≠ []) :
    splitAtMark mark piece 0 (mark ++ rest) = piece.reverse :: splitAtMark mark [] 0 rest := by
  obtain ⟨b, bs, rfl⟩ := List.exists_cons_of_ne_nil hmark
  have hfound : (b :: bs).isPrefixOf (b :: (bs ++ rest)) = true :=
    List.isPrefixOf_iff_prefix.2 (List.prefix_append (b :: bs) rest)
  rw [List.cons_append, splitAtMark, if_pos hfound, List.length_cons, Nat.add_sub_cancel,
    splitAtMark_skip]

/-- Bytes among which no mark begins belong to the piece. -/
theorem splitAtMark_append (hfree : ∀ zs, zs <:+ xs → zs ≠ [] → ¬mark <+: zs ++ rest) :
    splitAtMark mark piece 0 (xs ++ rest) = splitAtMark mark (xs.reverse ++ piece) 0 rest := by
  induction xs generalizing piece with
  | nil => rfl
  | cons x xs ih =>
    have hhere : ¬mark.isPrefixOf (x :: (xs ++ rest)) = true := by
      rw [List.isPrefixOf_iff_prefix]
      exact hfree (x :: xs) List.suffix_rfl (List.cons_ne_nil x xs)
    have hlater : ∀ zs, zs <:+ xs → zs ≠ [] → ¬mark <+: zs ++ rest :=
      fun zs hzs => hfree zs (hzs.trans (List.suffix_cons x xs))
    rw [List.cons_append, splitAtMark, if_neg hhere, ih hlater, List.reverse_cons,
      List.append_assoc, List.singleton_append]

/-- No mark begins in bytes that lack it and end with one that it lacks. -/
theorem not_prefix_of_suffix (hc : c ∉ mark) (hnot : ¬mark <:+: xs ++ [c]) {zs : List UInt8}
    (hzs : zs <:+ xs ++ [c]) (hne : zs ≠ []) : ¬mark <+: zs ++ rest := by
  intro hbegins
  rcases List.suffix_concat_iff.1 hzs with rfl | ⟨ys, rfl, hys⟩
  · exact hne rfl
  · rw [List.append_assoc, List.singleton_append] at hbegins
    have hbefore : mark <+: ys := prefix_of_notMem hbegins hc
    exact hnot ((hbefore.isInfix.trans hys.isInfix).trans (List.prefix_append xs [c]).isInfix)

/-- Pieces that stand behind marks are cut out, if each lacks the mark and ends with a byte that the
mark lacks. -/
theorem splitAtMark_marked {tail : List UInt8} (hmark : mark ≠ []) (hc : c ∉ mark)
    (htail : ¬mark <:+: tail) (piece : List UInt8) (pieces : List (List UInt8))
    (hpieces : ∀ p ∈ pieces, ¬mark <:+: p ++ [c]) :
    splitAtMark mark piece 0 (pieces.flatMap (fun p => mark ++ (p ++ [c])) ++ (mark ++ tail)) =
      piece.reverse :: (pieces.map (· ++ [c]) ++ [tail]) := by
  induction pieces generalizing piece with
  | nil =>
    have hfree : ∀ zs, zs <:+ tail → zs ≠ [] → ¬mark <+: zs ++ [] := by
      intro zs hzs _ hbegins
      rw [List.append_nil] at hbegins
      exact htail (hbegins.isInfix.trans hzs.isInfix)
    have hlast : splitAtMark mark [] 0 (tail ++ []) = splitAtMark mark (tail.reverse ++ []) 0 [] :=
      splitAtMark_append hfree
    rw [List.append_nil, List.append_nil, splitAtMark, List.reverse_reverse] at hlast
    rw [List.flatMap_nil, List.nil_append, splitAtMark_mark hmark, hlast]
    rfl
  | cons p pieces ih =>
    have hthis : ¬mark <:+: p ++ [c] := hpieces p List.mem_cons_self
    have hlater : ∀ q ∈ pieces, ¬mark <:+: q ++ [c] :=
      fun q hq => hpieces q (List.mem_cons_of_mem p hq)
    rw [List.flatMap_cons, List.append_assoc, List.append_assoc, splitAtMark_mark hmark,
      splitAtMark_append fun zs => not_prefix_of_suffix hc hthis, ih _ hlater, List.append_nil,
      List.reverse_reverse]
    rfl

end Mark

/-! ## Cutting a body -/

section Cutting

/-- A part with the line breaks around it. -/
def framed (part : List UInt8) : List UInt8 := encode "\r\n" ++ part ++ encode "\r\n"

/-- A piece without the line breaks around it. -/
def unframe? (piece : List UInt8) : Option (List UInt8) :=
  if (encode "\r\n").isPrefixOf piece && (encode "\r\n").isSuffixOf (piece.drop 2) then
    some ((piece.drop 2).take (piece.length - 4))
  else none

/-- A part is what is between its line breaks. -/
theorem unframe?_framed (part : List UInt8) : unframe? (framed part) = some part := by
  have hbreak : encode "\r\n" = [13, 10] := by decide
  have hframed : framed part = 13 :: 10 :: (part ++ [13, 10]) := by
    rw [framed, hbreak]
    rfl
  have hlength : (framed part).length - 4 = part.length := by
    rw [hframed]
    simp
  have hdrop : (framed part).drop 2 = part ++ [13, 10] := by
    rw [hframed]
    rfl
  have hfront : (encode "\r\n").isPrefixOf (framed part) = true := by
    rw [List.isPrefixOf_iff_prefix, framed, List.append_assoc]
    exact List.prefix_append _ _
  have hback : (encode "\r\n").isSuffixOf ((framed part).drop 2) = true := by
    rw [List.isSuffixOf_iff_suffix, hdrop, hbreak]
    exact List.suffix_append _ _
  rw [unframe?, hfront, hback, hlength, hdrop, List.take_left]
  rfl

/-- A body is cut into the parts that it is made of, if none of them has the mark, not even together
with the line breaks around it. -/
theorem split_framed {boundary : List UInt8} {parts : List (List UInt8)}
    (hbreak : (10 : UInt8) ∉ encode "--" ++ boundary)
    (htail : ¬encode "--" ++ boundary <:+: encode "--\r\n")
    (hparts : ∀ p ∈ parts, ¬encode "--" ++ boundary <:+: framed p) :
    split boundary (parts.flatMap (fun p => encode "--" ++ boundary ++ framed p) ++
      (encode "--" ++ boundary ++ encode "--\r\n")) = some parts := by
  have hframed : ∀ p, framed p = encode "\r\n" ++ p ++ [13] ++ [10] := by
    intro p
    have hbytes : encode "\r\n" = [13] ++ [10] := by decide
    rw [framed, List.append_assoc _ [13], ← hbytes]
  have hmark : encode "--" ++ boundary ≠ [] :=
    List.append_ne_nil_of_left_ne_nil (by decide) boundary
  -- the pieces are nothing before the first delimiter, then the parts, then the closing hyphens
  have hpieces : splitAtMark (encode "--" ++ boundary) [] 0
      (parts.flatMap (fun p => encode "--" ++ boundary ++ framed p) ++
        (encode "--" ++ boundary ++ encode "--\r\n")) =
      [] :: (parts.map framed ++ [encode "--\r\n"]) := by
    have hcut := splitAtMark_marked hmark hbreak htail []
      (parts.map fun p => encode "\r\n" ++ p ++ [13]) (by
        intro q hq
        obtain ⟨p, hp, rfl⟩ := List.mem_map.1 hq
        rw [← hframed]
        exact hparts p hp)
    rw [List.flatMap_map, List.map_map] at hcut
    simp only [← hframed, Function.comp_def] at hcut
    exact hcut
  have hlast : ([] :: (parts.map framed ++ [encode "--\r\n"])).getLast? =
      some (encode "--\r\n") := by
    rw [← List.cons_append, List.getLast?_concat]
  unfold split
  simp only
  rw [hpieces, hlast, List.head?_cons]
  simp only [if_true, List.drop_succ_cons, List.drop_zero, List.dropLast_concat]
  have hread : (parts.map framed).mapM unframe? = some (parts.map id) :=
    mapM_map_eq_some fun p _ => unframe?_framed p
  rw [List.map_id] at hread
  exact hread

end Cutting

/-! ## Fields in a body -/

section Fields

variable {b : String} {field : String × String}

/-- The header of a field with its value. -/
def partContent (field : String × String) : List UInt8 :=
  encode (partHeader field.1) ++ encode field.2

/-- The characters that end a name or a line. -/
def isFraming (c : Char) : Bool := c = '"' || c = '\r' || c = '\n'

/-- An escaped name does not end itself or its line. -/
theorem notMem_escapeName {name : String} {c : Char} (hframing : isFraming c = true) :
    c ∉ (escapeName name).toList := by
  intro hc
  rw [escapeName, String.toList_ofList, List.mem_flatMap] at hc
  obtain ⟨d, -, hc⟩ := hc
  rw [← Bool.not_eq_false] at hframing
  apply hframing
  have hquote : ∀ c ∈ ['%', '2', '2'], isFraming c = false := forall_mem_of_all (by decide)
  have hbackslash : ∀ c ∈ ['\\', '\\'], isFraming c = false := forall_mem_of_all (by decide)
  have hcontrol : ∀ n < 0x20,
      ((percentByte (UInt8.ofNat n)).all fun c => decide (isFraming c = false)) = true := by decide
  unfold nameChar at hc
  split_ifs at hc with hd hd' hd''
  · exact hquote c hc
  · exact hbackslash c hc
  · exact forall_mem_of_all (hcontrol d.toNat hd''.1) c hc
  · -- a character that stays is neither the quote nor a control character
    obtain rfl := List.mem_singleton.1 hc
    have hreturn : c ≠ '\r' := by
      rintro rfl
      exact hd'' (by decide)
    have hfeed : c ≠ '\n' := by
      rintro rfl
      exact hd'' (by decide)
    simp [isFraming, hd, hreturn, hfeed]

/-- The delimiter has no character that ends a name or a line. -/
theorem notMem_delimiter_of_isFraming (hb : IsBoundary b) {c : Char} (hc : isFraming c = true) :
    c ∉ delimiter b := by
  intro hmem
  have hdigits : ∀ d ∈ hexDigits, isFraming d = false := forall_mem_of_all (by decide)
  rcases mem_delimiter hb hmem with rfl | hdigit
  · exact absurd hc (by decide)
  · rw [hdigits c hdigit] at hc
    cases hc

/-- The delimiter is not in a text without two hyphens. -/
theorem not_isInfix_of_hyphens {cs : List Char} (h : ¬"--".toList <:+: cs) : ¬delimiter b <:+: cs :=
  fun hmem => h ((List.prefix_append "--".toList b.toList).isInfix.trans hmem)

/-- The delimiter is not in a field with its header and line breaks, if it is neither in the escaped
name nor in the value. -/
theorem not_infix_framed (hb : IsBoundary b)
    (hname : ¬delimiter b <:+: (escapeName field.1).toList)
    (hvalue : ¬delimiter b <:+: field.2.toList) :
    ¬encode "--" ++ encode b <:+: framed (partContent field) := by
  intro h
  have hchars : framed (partContent field) = encodeChars
      ("\r\nContent-Disposition: form-data; name=".toList ++ '"' :: ((escapeName field.1).toList ++
        '"' :: ("\r\n\r".toList ++ '\n' :: (field.2.toList ++ '\r' :: "\n".toList)))) := by
    have hheader : (partHeader field.1).toList = "Content-Disposition: form-data; name=\"".toList ++
        ((escapeName field.1).toList ++ "\"\r\n\r\n".toList) := by
      unfold partHeader
      rw [String.toList_append, String.toList_append, List.append_assoc]
    have hopening : "\r\n".toList ++ "Content-Disposition: form-data; name=\"".toList =
        "\r\nContent-Disposition: form-data; name=".toList ++ ['"'] := by decide +kernel
    have hclosing : "\"\r\n\r\n".toList = '"' :: ("\r\n\r".toList ++ ['\n']) := by decide +kernel
    have hbreak : "\r\n".toList = '\r' :: "\n".toList := by decide +kernel
    unfold framed partContent encode
    rw [hheader, ← encodeChars_append, ← encodeChars_append, ← encodeChars_append,
      ← List.append_assoc, ← List.append_assoc, hopening, hclosing, hbreak]
    simp only [List.append_assoc, List.cons_append, List.nil_append]
  rw [← encodeChars_delimiter, hchars] at h
  have hfound := isInfix_of_encodeChars (fun c hc => delimiter_lt hb hc) h
  -- the quotes and line breaks are not in the delimiter, so it is in what they divide
  have hquote : '"' ∉ delimiter b := notMem_delimiter_of_isFraming hb (by decide)
  have hfeed : '\n' ∉ delimiter b := notMem_delimiter_of_isFraming hb (by decide)
  have hreturn : '\r' ∉ delimiter b := notMem_delimiter_of_isFraming hb (by decide)
  rcases infix_or_infix_of_notMem hfound hquote with hfront | hfound
  · exact not_isInfix_of_hyphens (by decide +kernel) hfront
  rcases infix_or_infix_of_notMem hfound hquote with hin | hfound
  · exact hname hin
  rcases infix_or_infix_of_notMem hfound hfeed with hbreak | hfound
  · exact not_isInfix_of_hyphens (by decide) hbreak
  rcases infix_or_infix_of_notMem hfound hreturn with hin | hend
  · exact hvalue hin
  · exact not_isInfix_of_hyphens (by decide) hend

/-- The delimiter is not in what follows it at the end. -/
theorem not_infix_closing (hb : IsBoundary b) :
    ¬encode "--" ++ encode b <:+: encode "--\r\n" := by
  intro h
  rw [← encodeChars_delimiter] at h
  have hfound : delimiter b <:+: "--\r\n".toList :=
    isInfix_of_encodeChars (fun c hc => delimiter_lt hb hc) h
  -- a boundary has a digit, and there is none
  obtain ⟨c, hc⟩ := List.exists_mem_of_ne_nil b.toList (mt String.toList_eq_nil_iff.1 hb.1)
  have hdigit : c ∈ hexDigits := hb.2 c hc
  have hmem : c ∈ "--\r\n".toList := hfound.subset (List.mem_append_right _ hc)
  have hnone : ∀ c ∈ hexDigits, c ∉ "--\r\n".toList := forall_mem_of_all (by decide)
  exact hnone c hdigit hmem

/-- The line feed is not in the delimiter. -/
theorem feed_notMem_delimiter (hb : IsBoundary b) : (10 : UInt8) ∉ encode "--" ++ encode b := by
  have hfeed : (10 : UInt8) = UInt8.ofNat '\n'.toNat := by decide
  rw [← encodeChars_delimiter, hfeed, mem_encodeChars_iff (by decide)]
  exact notMem_delimiter_of_isFraming hb (by decide)

/-- The body of fields is cut into the fields. -/
theorem split_body (hb : IsBoundary b) {fields : List (String × String)}
    (hname : ∀ f ∈ fields, ¬delimiter b <:+: (escapeName f.1).toList)
    (hvalue : ∀ f ∈ fields, ¬delimiter b <:+: f.2.toList) :
    split (encode b) (body (encode b) fields) = some (fields.map partContent) := by
  have hbody : body (encode b) fields =
      (fields.map partContent).flatMap (fun p => encode "--" ++ encode b ++ framed p) ++
        (encode "--" ++ encode b ++ encode "--\r\n") := by
    rw [List.flatMap_map]
    unfold body partBytes framed partContent
    simp only [List.append_assoc]
  rw [hbody]
  refine split_framed (feed_notMem_delimiter hb) (not_infix_closing hb) fun p hp => ?_
  obtain ⟨f, hf, rfl⟩ := List.mem_map.1 hp
  exact not_infix_framed hb (hname f hf) (hvalue f hf)

end Fields

/-! ## Reading a part -/

section Reading

/-- What stands before the first of a character. -/
theorem takeWhile_ne_append {c : Char} {xs : List Char} (h : c ∉ xs) (ys : List Char) :
    (xs ++ c :: ys).takeWhile (· != c) = xs ∧ (xs ++ c :: ys).dropWhile (· != c) = c :: ys := by
  have hpass : ∀ d ∈ xs, (d != c) = true := by
    intro d hd
    rw [bne_iff_ne]
    rintro rfl
    exact h hd
  constructor
  · rw [List.takeWhile_append_of_pos hpass, List.takeWhile_cons_of_neg (by simp), List.append_nil]
  · rw [List.dropWhile_append_of_pos hpass, List.dropWhile_cons_of_neg (by simp)]

/-- A line of a header goes up to its line break. -/
theorem headerLines_append {line xs rest : List UInt8} (hxs : 13 ∉ xs) :
    headerLines line (xs ++ rest) = headerLines (xs.reverse ++ line) rest := by
  induction xs generalizing line with
  | nil => rfl
  | cons x xs ih =>
    rw [List.mem_cons, not_or] at hxs
    rw [List.cons_append, headerLines, ih hxs.2, List.reverse_cons, List.append_assoc,
      List.singleton_append]
    intro _ hx _
    exact hxs.1 hx.symm

/-- A header of one line. -/
theorem headerLines_single {line content : List UInt8} (hline : 13 ∉ line) (hne : line ≠ []) :
    headerLines [] (line ++ (encode "\r\n\r\n" ++ content)) = some ([line], content) := by
  have hbreaks : encode "\r\n\r\n" = [13, 10, 13, 10] := by decide
  have hempty : line.reverse.isEmpty = false := by
    rw [List.isEmpty_reverse, List.isEmpty_eq_false_iff]
    exact hne
  rw [headerLines_append hline, hbreaks, List.append_nil]
  show headerLines line.reverse (13 :: 10 :: 13 :: 10 :: content) = some ([line], content)
  rw [headerLines, hempty, headerLines]
  simp

/-- Characters that are neither quotes nor, outside quotes, semicolons belong to the section. -/
theorem sections_append {quoted : Bool} {piece xs rest : List Char} (hquote : '"' ∉ xs)
    (hsemicolon : quoted = false → ';' ∉ xs) :
    sections quoted piece (xs ++ rest) = sections quoted (xs.reverse ++ piece) rest := by
  induction xs generalizing piece with
  | nil => rfl
  | cons x xs ih =>
    rw [List.mem_cons, not_or] at hquote
    have hcut : ¬(x = ';' ∧ quoted = false) := by
      rintro ⟨rfl, hopen⟩
      exact hsemicolon hopen List.mem_cons_self
    have hlater : quoted = false → ';' ∉ xs :=
      fun hopen hmem => hsemicolon hopen (List.mem_cons_of_mem x hmem)
    have hx : x ≠ '"' := fun h => hquote.1 h.symm
    rw [List.cons_append, sections, if_neg hcut, if_neg hx, ih hquote.2 hlater, List.reverse_cons,
      List.append_assoc, List.singleton_append]

/-- A name between quotes is read as it stands. -/
theorem disposition?_name {cs : List Char} (hcs : '"' ∉ cs) :
    disposition? (String.ofList ("form-data; name=\"".toList ++ cs ++ ['"'])) =
      some [("name", String.ofList cs)] := by
  have hchars : "form-data; name=\"".toList ++ cs ++ ['"'] =
      "form-data".toList ++ ';' :: (" name=".toList ++ '"' :: (cs ++ ['"'])) := by
    simp
  have hsections : sections false [] (String.ofList
      ("form-data; name=\"".toList ++ cs ++ ['"'])).toList =
      ["form-data".toList, " name=\"".toList ++ cs ++ ['"']] := by
    rw [String.toList_ofList, hchars, sections_append (by decide) (fun _ => by decide)]
    rw [sections, if_pos ⟨rfl, rfl⟩, sections_append (by decide) (fun _ => by decide)]
    rw [sections, if_neg (by simp), if_pos rfl, Bool.not_false,
      sections_append hcs (fun h => absurd h (by decide)), sections, if_neg (by simp), sections]
    simp
  have hparameter : parameter (" name=\"".toList ++ cs ++ ['"']) = ("name", String.ofList cs) := by
    have htrim : trimWhile isAsciiBlank (" name=\"".toList ++ cs ++ ['"']) =
        "name".toList ++ '=' :: ('"' :: (cs ++ ['"'])) := by
      have hlast : ("name".toList ++ '=' :: ('"' :: (cs ++ ['"']))).getLast? = some '"' := by
        have hend : "name".toList ++ '=' :: ('"' :: (cs ++ ['"'])) =
            "name=\"".toList ++ cs ++ ['"'] := by simp
        rw [hend, List.getLast?_concat]
      have hbetween := trimWhile_between isAsciiBlank [' ']
        ("name".toList ++ '=' :: ('"' :: (cs ++ ['"']))) [] (forall_mem_of_all (by decide))
        (by simp) (by simp [isAsciiBlank]) (by rw [hlast]; simp [isAsciiBlank])
      simpa using hbetween
    have hequals : '=' ∉ "name".toList := by decide
    obtain ⟨htake, hdrop⟩ := takeWhile_ne_append hequals ('"' :: (cs ++ ['"']))
    have hunquote : unquote ('"' :: (cs ++ ['"'])) = cs := (takeWhile_ne_append hcs []).1
    rw [parameter, htrim, htake, hdrop, List.drop_succ_cons, List.drop_zero, hunquote,
      String.ofList_toList]
  unfold disposition?
  rw [hsections]
  simp only [if_true, List.map_cons, List.map_nil, hparameter]

/-- The value of the header of a field. -/
def dispositionText (name : String) : String :=
  String.ofList ("form-data; name=\"".toList ++ (escapeName name).toList ++ ['"'])

/-- The characters of that value. -/
theorem toList_dispositionText (name : String) : (dispositionText name).toList =
    "form-data; name=\"".toList ++ (escapeName name).toList ++ ['"'] :=
  String.toList_ofList

/-- The line that is the header of a field. -/
def dispositionLine (name : String) : List Char :=
  "Content-Disposition".toList ++ ':' :: ([' '] ++ (dispositionText name).toList)

/-- The header of a field is one line. -/
theorem toList_partHeader (name : String) :
    (partHeader name).toList = dispositionLine name ++ "\r\n\r\n".toList := by
  have hopening : "Content-Disposition: form-data; name=\"".toList =
      "Content-Disposition".toList ++ ':' :: ([' '] ++ "form-data; name=\"".toList) := by
    decide +kernel
  have hclosing : "\"\r\n\r\n".toList = '"' :: "\r\n\r\n".toList := by decide +kernel
  unfold partHeader dispositionLine
  rw [String.toList_append, String.toList_append, toList_dispositionText, hopening, hclosing]
  simp only [List.append_assoc, List.cons_append, List.nil_append]

/-- The header of a field has no line break inside. -/
theorem return_notMem_dispositionLine (name : String) :
    (13 : UInt8) ∉ encodeChars (dispositionLine name) := by
  have hreturn : (13 : UInt8) = UInt8.ofNat '\r'.toNat := by decide
  have hname : '\r' ∉ (escapeName name).toList := notMem_escapeName (by decide)
  have hopening : '\r' ∉ "Content-Disposition: form-data; name=\"".toList := by decide +kernel
  have hline : dispositionLine name =
      "Content-Disposition: form-data; name=\"".toList ++ ((escapeName name).toList ++ ['"']) := by
    have hchars : "Content-Disposition: form-data; name=\"".toList =
        "Content-Disposition".toList ++ ':' :: ([' '] ++ "form-data; name=\"".toList) := by
      decide +kernel
    unfold dispositionLine
    rw [hchars, toList_dispositionText]
    simp only [List.append_assoc, List.cons_append, List.nil_append]
  rw [hreturn, mem_encodeChars_iff (by decide), hline, List.mem_append, List.mem_append]
  rintro (hmem | hmem | hmem)
  · exact hopening hmem
  · exact hname hmem
  · exact absurd hmem (by decide)

/-- A line with a name and a value. -/
theorem headerField?_line {name : List Char} {value : String} (hname : ':' ∉ name)
    (hhead : ∀ c ∈ value.toList.head?, isAsciiBlank c = false)
    (hlast : ∀ c ∈ value.toList.getLast?, isAsciiBlank c = false) :
    headerField? (encodeChars (name ++ ':' :: ([' '] ++ value.toList))) =
      some (String.ofList name, value) := by
  have hchars : (String.ofList (name ++ ':' :: ([' '] ++ value.toList))).toList =
      name ++ ':' :: ([' '] ++ value.toList) := String.toList_ofList
  have hdecode : decode? (encodeChars (name ++ ':' :: ([' '] ++ value.toList))) =
      some (String.ofList (name ++ ':' :: ([' '] ++ value.toList))) := by
    have htext := decode?_encode (String.ofList (name ++ ':' :: ([' '] ++ value.toList)))
    rw [encode, hchars] at htext
    exact htext
  have htrim : trimWhile isAsciiBlank ([' '] ++ value.toList) = value.toList := by
    have hbetween := trimWhile_between isAsciiBlank [' '] value.toList []
      (forall_mem_of_all (by decide)) (by simp) hhead hlast
    rw [List.append_nil] at hbetween
    exact hbetween
  obtain ⟨htake, hdrop⟩ := takeWhile_ne_append hname ([' '] ++ value.toList)
  rw [headerField?, hdecode, Option.map_some, hchars, htake, hdrop, List.drop_succ_cons,
    List.drop_zero, htrim, String.ofList_toList]

/-- The header of a field is a disposition. -/
theorem headerField?_dispositionLine (name : String) :
    headerField? (encodeChars (dispositionLine name)) =
      some ("Content-Disposition", dispositionText name) := by
  have hcolon : ':' ∉ "Content-Disposition".toList := by decide +kernel
  have hhead : ∀ c ∈ (dispositionText name).toList.head?, isAsciiBlank c = false := by
    have hfirst : (dispositionText name).toList.head? = some 'f' := by
      rw [toList_dispositionText]
      rfl
    rw [hfirst]
    simp [isAsciiBlank]
  have hlast : ∀ c ∈ (dispositionText name).toList.getLast?, isAsciiBlank c = false := by
    rw [toList_dispositionText, List.getLast?_concat]
    simp [isAsciiBlank]
  have hread := headerField?_line hcolon hhead hlast
  rw [String.ofList_toList] at hread
  exact hread

/-- A field is read back from its part. -/
theorem read?_partContent (field : String × String) :
    Part.read? (partContent field) = some (fieldPart field) := by
  have hne : encodeChars (dispositionLine field.1) ≠ [] := by
    intro hempty
    have hfirst : encodeChars (dispositionLine field.1) = encode "Content-Disposition" ++
        encodeChars (':' :: ([' '] ++ (dispositionText field.1).toList)) := encodeChars_append _ _
    rw [hfirst] at hempty
    exact absurd (List.append_eq_nil_iff.1 hempty).1 (by decide +kernel)
  have hcontent : partContent field =
      encodeChars (dispositionLine field.1) ++ (encode "\r\n\r\n" ++ encode field.2) := by
    rw [partContent, encode, toList_partHeader, encodeChars_append, List.append_assoc]
    rfl
  have hlines : headerLines [] (partContent field) =
      some ([encodeChars (dispositionLine field.1)], encode field.2) := by
    rw [hcontent]
    exact headerLines_single (return_notMem_dispositionLine field.1) hne
  have hheaders : [encodeChars (dispositionLine field.1)].mapM headerField? =
      some [("Content-Disposition", dispositionText field.1)] := by
    rw [List.mapM_cons, headerField?_dispositionLine]
    rfl
  have hquote : '"' ∉ (escapeName field.1).toList := notMem_escapeName (by decide)
  have hdisposition : disposition? (dispositionText field.1) =
      some [("name", escapeName field.1)] := by
    have hread := disposition?_name hquote
    rw [String.ofList_toList] at hread
    exact hread
  have hsame := Headers.sameName_self "Content-Disposition"
  have hother : ¬Headers.sameName "Content-Disposition" "Content-Type" = true := by decide +kernel
  have hvalue : Headers.get? [("Content-Disposition", dispositionText field.1)]
      "Content-Disposition" = some (dispositionText field.1) := by
    have hfields : Headers.fields [("Content-Disposition", dispositionText field.1)]
        "Content-Disposition" = [("Content-Disposition", dispositionText field.1)] := by
      rw [Headers.fields_cons, if_pos hsame]
      rfl
    exact Headers.get?_of_fields hfields
  have htype : Headers.get? [("Content-Disposition", dispositionText field.1)]
      "Content-Type" = none := by
    apply Headers.get?_of_fields_nil
    rw [Headers.fields_cons, if_neg hother]
    rfl
  unfold Part.read?
  rw [hlines]
  simp only [Option.bind_eq_bind, Option.bind_some, hheaders, hvalue, htype, hdisposition]
  rfl

end Reading

/-- The body of fields is read back as the fields, in their order. -/
theorem decode_body {b : String} (hb : IsBoundary b) {fields : List (String × String)}
    (hname : ∀ f ∈ fields, ¬delimiter b <:+: (escapeName f.1).toList)
    (hvalue : ∀ f ∈ fields, ¬delimiter b <:+: f.2.toList) :
    decode (encode b) (body (encode b) fields) = some (fields.map fieldPart) := by
  rw [decode, split_body hb hname hvalue, Option.bind_some]
  exact mapM_map_eq_some fun f _ => read?_partContent f

end Multipart

end Courier
