import Courier.Payload
import Courier.Proofs.CodeSet
import Courier.Proofs.Lower
import Courier.Proofs.Multipart

/-!
# The boundary that a content type announces

The parameters of a content type by their grammar, in which a semicolon between quotes divides
nothing and a backslash between quotes takes the character behind it, and the way in which the
client looks for a boundary, which cuts at every semicolon and takes quotes off the ends. The two
agree if neither a semicolon nor a backslash is between quotes (`boundaryOf?_of_announces`). The
content type that the client writes itself announces its boundary and no other
(`announces_multipartType_iff`).

The client finds a section by its beginning, after trimming. For a section of the grammar this is
its name with the equals sign, because a name has none (`prefix_boundary_iff`).
-/

namespace Courier.Multipart

open Text

/-! ## The grammar -/

/-- What is written between quotes for a value. -/
inductive Escapes : List Char → List Char → Prop
  | nil : Escapes [] []
  | plain {c : Char} {written value : List Char} (hquote : c ≠ '"') (hbackslash : c ≠ '\\')
      (h : Escapes written value) : Escapes (c :: written) (c :: value)
  | escaped {c : Char} {written value : List Char} (h : Escapes written value) :
      Escapes ('\\' :: c :: written) (c :: value)

/-- Whether a character may stand outside quotes. -/
def isBare (c : Char) : Bool :=
  c != ';' && c != '"' && c != '\\' && !isAsciiBlank c

/-- What is written for a value: itself, or something between quotes. -/
inductive Writes : List Char → List Char → Prop
  | bare {value : List Char} (h : ∀ c ∈ value, isBare c = true) : Writes value value
  | quoted {written value : List Char} (h : Escapes written value) :
      Writes ('"' :: (written ++ ['"'])) value

/-- Whether characters are the name of a parameter. -/
def IsName (name : List Char) : Prop :=
  name ≠ [] ∧ ∀ c ∈ name, isBare c = true ∧ c ≠ '='

/-- What is written behind a semicolon: nothing, or a parameter with its name and its value. There
may be blanks around it. -/
inductive IsSection : List Char → Option (List Char × List Char) → Prop
  | empty {gap : List Char} (h : ∀ c ∈ gap, isAsciiBlank c = true) : IsSection gap none
  | parameter {left name written value right : List Char}
      (hleft : ∀ c ∈ left, isAsciiBlank c = true) (hright : ∀ c ∈ right, isAsciiBlank c = true)
      (hname : IsName name) (hwritten : Writes written value) :
      IsSection (left ++ (name ++ '=' :: written) ++ right) (some (name, value))

/-- A section of a content type: its text, and the parameter that it has. -/
abbrev Section := List Char × Option (List Char × List Char)

/-- Whether a parameter is a boundary, in any case of letters. -/
def isBoundaryName (name : List Char) : Bool :=
  name.map lowerAsciiChar == "boundary".toList

/-- The boundary among the parameters of sections, the first if there are more. -/
def boundaryIn (sections : List Section) : Option (List Char) :=
  ((sections.filterMap Prod.snd).find? fun p => isBoundaryName p.1).map Prod.snd

/-- A content type that begins as that of form data does and announces a boundary in one of its
sections. -/
def Announces (type : String) (sections : List Section) (b : String) : Prop :=
  (∃ rest, ';' ∉ rest ∧ type.toList =
    "multipart/form-data".toList ++ rest ++ sections.flatMap fun s => ';' :: s.1) ∧
    (∀ s ∈ sections, IsSection s.1 s.2) ∧ boundaryIn sections = some b.toList

/-- Neither a semicolon nor a backslash is in a section, not even between quotes. -/
def IsPlainSection (s : Section) : Prop := ';' ∉ s.1 ∧ '\\' ∉ s.1

/-! ## How the client looks for it -/

section Client

variable {name written value : List Char}

/-- A value without a backslash is what is left of it without the quotes at its ends. -/
theorem Writes.trim (h : Writes written value) (hplain : '\\' ∉ written) :
    trimWhile (· == '"') written = value := by
  cases h with
  | bare hbare =>
    have hquote : ∀ c ∈ written, (c == '"') = false := by
      intro c hc
      have hthis := hbare c hc
      rw [beq_eq_false_iff_ne]
      rintro rfl
      exact absurd hthis (by decide)
    have hbetween := trimWhile_between (· == '"') [] written [] (by simp) (by simp)
      (fun c hc => hquote c (List.mem_of_mem_head? hc))
      (fun c hc => hquote c (List.mem_of_getLast? hc))
    simpa using hbetween
  | @quoted written value hescapes =>
    have hsame : written = value ∧ '"' ∉ value := by
      have hinside : '\\' ∉ written :=
        fun hmem => hplain (List.mem_cons_of_mem _ (List.mem_append_left _ hmem))
      clear hplain
      induction hescapes with
      | nil => simp
      | @plain c written value hquote _ _ ih =>
        rw [List.mem_cons, not_or] at hinside
        obtain ⟨rfl, hnone⟩ := ih hinside.2
        exact ⟨rfl, by simp [hnone, Ne.symm hquote]⟩
      | escaped _ _ => exact absurd List.mem_cons_self hinside
    obtain ⟨rfl, hnone⟩ := hsame
    have hquote : ∀ c ∈ written, (c == '"') = false := by
      intro c hc
      rw [beq_eq_false_iff_ne]
      rintro rfl
      exact hnone hc
    exact trimWhile_between (· == '"') ['"'] written ['"'] (by simp) (by simp)
      (fun c hc => hquote c (List.mem_of_mem_head? hc))
      (fun c hc => hquote c (List.mem_of_getLast? hc))

/-- What is written for a value does not end with a blank. -/
theorem Writes.getLast_not_blank (h : Writes written value) :
    ∀ c ∈ written.getLast?, isAsciiBlank c = false := by
  intro c hc
  cases h with
  | bare hbare =>
    have hthis := hbare c (List.mem_of_getLast? hc)
    simp only [isBare, Bool.and_eq_true, Bool.not_eq_true'] at hthis
    exact hthis.2
  | quoted _ =>
    rw [← List.cons_append, List.getLast?_concat] at hc
    cases hc
    decide

/-- A parameter is what is left of its section without the blanks at its ends. -/
theorem trimWhile_parameter {left right : List Char}
    (hleft : ∀ c ∈ left, isAsciiBlank c = true) (hright : ∀ c ∈ right, isAsciiBlank c = true)
    (hname : IsName name) (hwritten : Writes written value) :
    trimWhile isAsciiBlank (left ++ (name ++ '=' :: written) ++ right) =
      name ++ '=' :: written := by
  apply trimWhile_between isAsciiBlank left _ right hleft hright
  · intro c hc
    obtain ⟨hne, hchars⟩ := hname
    obtain ⟨d, name, rfl⟩ := List.exists_cons_of_ne_nil hne
    have hfirst : d = c := Option.some.inj hc
    have hthis := (hchars d List.mem_cons_self).1
    simp only [isBare, Bool.and_eq_true, Bool.not_eq_true'] at hthis
    rw [← hfirst]
    exact hthis.2
  · intro c hc
    rw [List.getLast?_append_of_ne_nil _ (List.cons_ne_nil _ _)] at hc
    cases written with
    | nil =>
      have hequals : '=' = c := Option.some.inj hc
      rw [← hequals]
      decide
    | cons d written =>
      rw [List.getLast?_cons_cons] at hc
      exact hwritten.getLast_not_blank c hc

/-- The client's mark begins a parameter exactly if the parameter is a boundary. -/
theorem prefix_boundary_iff (hname : IsName name) :
    "boundary=".toList.isPrefixOf
        (lowerAscii (String.ofList (name ++ '=' :: written))).toList = isBoundaryName name := by
  have hmark : "boundary=".toList = "boundary".toList ++ ['='] := by decide +kernel
  have hlower : (lowerAscii (String.ofList (name ++ '=' :: written))).toList =
      name.map lowerAsciiChar ++ '=' :: written.map lowerAsciiChar := by
    rw [toList_lowerAscii, String.toList_ofList, List.map_append]
    rfl
  -- there is no equals sign in a name, and lower case does not make one
  have hequals : '=' ∉ name.map lowerAsciiChar := by
    intro hmem
    obtain ⟨c, hc, himage⟩ := List.mem_map.1 hmem
    have hne : c ≠ '=' := (hname.2 c hc).2
    unfold lowerAsciiChar at himage
    split at himage
    · rename_i hletter
      have hnumber : (Char.ofNat (c.toNat + 32)).toNat = c.toNat + 32 ∨
          (Char.ofNat (c.toNat + 32)).toNat = 0 := toNat_ofNat _
      have hletter : 0x41 ≤ c.toNat ∧ c.toNat ≤ 0x5A := hletter
      have hsign : (Char.ofNat (c.toNat + 32)).toNat = 0x3D := by
        rw [himage]
        rfl
      omega
    · exact hne himage
  have hnone : '=' ∉ "boundary".toList := by decide
  obtain ⟨htake, -⟩ := takeWhile_ne_append hequals (written.map lowerAsciiChar)
  rw [hlower, hmark, Bool.eq_iff_iff, List.isPrefixOf_iff_prefix, isBoundaryName, beq_iff_eq]
  constructor
  · rintro ⟨t, ht⟩
    rw [List.append_assoc, List.singleton_append] at ht
    have hsplit := (takeWhile_ne_append hnone t).1
    rw [ht, htake] at hsplit
    exact hsplit
  · intro hsame
    rw [hsame]
    exact ⟨written.map lowerAsciiChar, by simp⟩

end Client

/-- What the client looks for in a section. -/
def isMarked (cs : List Char) : Bool :=
  "boundary=".toList.isPrefixOf (lowerAscii (String.ofList cs)).toList

/-- What the client reads behind its mark. -/
def markedValue (cs : List Char) : List Char :=
  trimWhile (· == '"') (cs.drop "boundary=".toList.length)

/-- The client finds the boundary among sections, if there is no backslash in them. -/
theorem find?_isMarked (sections : List Section) (hsections : ∀ s ∈ sections, IsSection s.1 s.2)
    (hplain : ∀ s ∈ sections, '\\' ∉ s.1) :
    ((sections.map fun s => trimWhile isAsciiBlank s.1).find? isMarked).map markedValue =
      boundaryIn sections := by
  induction sections with
  | nil => rfl
  | cons s sections ih =>
    obtain ⟨text, parameter?⟩ := s
    have hthis : IsSection text parameter? := hsections _ List.mem_cons_self
    have hbackslash : '\\' ∉ text := hplain _ List.mem_cons_self
    have hlater := ih (fun s hs => hsections s (List.mem_cons_of_mem _ hs))
      (fun s hs => hplain s (List.mem_cons_of_mem _ hs))
    unfold boundaryIn at hlater ⊢
    rw [List.map_cons, List.find?_cons]
    cases hthis with
    | empty hgap =>
      have htrim : trimWhile isAsciiBlank text = [] := by
        have hbetween := trimWhile_between isAsciiBlank text [] [] hgap (by simp) (by simp)
          (by simp)
        simpa using hbetween
      have hunmarked : isMarked [] = false := by decide
      rw [htrim, hunmarked, hlater]
      rfl
    | @parameter left name written value right hleft hright hname hwritten =>
      have hmarked : isMarked (name ++ '=' :: written) = isBoundaryName name :=
        prefix_boundary_iff hname
      have hlisted : List.filterMap Prod.snd
          ((left ++ (name ++ '=' :: written) ++ right, some (name, value)) :: sections) =
          (name, value) :: sections.filterMap Prod.snd := List.filterMap_cons_some rfl
      rw [trimWhile_parameter hleft hright hname hwritten, hmarked, hlisted, List.find?_cons]
      cases hboundary : isBoundaryName name with
      | false => exact hlater
      | true =>
        -- the name is as long as the mark without its equals sign
        have hlength : name.length = "boundary".toList.length := by
          rw [isBoundaryName, beq_iff_eq] at hboundary
          rw [← hboundary, List.length_map]
        have hdrop : (name ++ '=' :: written).drop "boundary=".toList.length = written := by
          have hmark : "boundary=".toList.length = name.length + 1 := by
            rw [hlength]
            decide +kernel
          rw [hmark, ← List.drop_drop, List.drop_left]
          rfl
        have hvalue : trimWhile (· == '"') written = value :=
          hwritten.trim fun hmem => hbackslash (by simp [hmem])
        show some (markedValue (name ++ '=' :: written)) = some value
        rw [markedValue, hdrop, hvalue]

/-- Sections without semicolons are what stands between the semicolons. -/
theorem splitAtAll_sections {front : List Char} (hfront : ';' ∉ front) (sections : List Section)
    (hplain : ∀ s ∈ sections, ';' ∉ s.1) :
    splitAtAll (· == ';') (front ++ sections.flatMap fun s => ';' :: s.1) =
      front :: sections.map Prod.fst := by
  have hpass : ∀ {cs : List Char}, ';' ∉ cs → ∀ c ∈ cs, (c == ';') = false := by
    intro cs hcs c hc
    rw [beq_eq_false_iff_ne]
    rintro rfl
    exact hcs hc
  rw [splitAtAll_eq_splitOnP]
  induction sections generalizing front with
  | nil =>
    rw [List.flatMap_nil, List.append_nil]
    exact List.splitOnP_eq_singleton (hpass hfront)
  | cons s sections ih =>
    have hthis : ';' ∉ s.1 := hplain s List.mem_cons_self
    have hlater := ih hthis fun s hs => hplain s (List.mem_cons_of_mem _ hs)
    rw [List.flatMap_cons, List.cons_append,
      List.splitOnP_append_cons_of_forall_mem (hpass hfront) ';' (by decide), hlater]
    rfl

/-- The type itself is not a boundary. -/
theorem isMarked_type (rest : List Char) :
    isMarked (trimWhile isAsciiBlank ("multipart/form-data".toList ++ rest)) = false := by
  obtain ⟨cs, hcs⟩ : ∃ cs, trimWhile isAsciiBlank ("multipart/form-data".toList ++ rest) =
      'm' :: cs := by
    have hchars : "multipart/form-data".toList ++ rest =
        'm' :: ("ultipart/form-data".toList ++ rest) := rfl
    generalize "ultipart/form-data".toList ++ rest = tail at hchars
    rw [hchars, trimWhile, dropEndWhile, List.dropWhile_cons_of_neg (by decide), List.reverse_cons,
      List.dropWhile_append]
    split
    · exact ⟨[], rfl⟩
    · exact ⟨_, by rw [List.reverse_append]; rfl⟩
  have hlower : (lowerAscii (String.ofList ('m' :: cs))).toList =
      'm' :: cs.map lowerAsciiChar := by
    rw [toList_lowerAscii, String.toList_ofList]
    rfl
  rw [hcs, isMarked, hlower]
  rfl

/-- The client finds the boundary that a content type announces, if neither a semicolon nor a
backslash is between quotes. -/
theorem boundaryOf?_of_announces {type b : String} {sections : List Section}
    (h : Announces type sections b) (hplain : ∀ s ∈ sections, IsPlainSection s) :
    boundaryOf? type = some b := by
  obtain ⟨⟨rest, hrest, htype⟩, hsections, hboundary⟩ := h
  have hform : "multipart/form-data".toList.isPrefixOf type.toList = true := by
    rw [List.isPrefixOf_iff_prefix, htype, List.append_assoc]
    exact List.prefix_append _ _
  have hdivided : type.toList.contains ';' = true := by
    cases sections with
    | nil => cases hboundary
    | cons s sections =>
      rw [List.contains_iff_mem, htype]
      simp
  have hfront : ';' ∉ "multipart/form-data".toList ++ rest := by
    rw [List.mem_append, not_or]
    exact ⟨by decide +kernel, hrest⟩
  have hcut : splitAtAll (· == ';') type.toList =
      ("multipart/form-data".toList ++ rest) :: sections.map Prod.fst := by
    rw [htype]
    exact splitAtAll_sections hfront sections fun s hs => (hplain s hs).1
  have hfind := find?_isMarked sections hsections fun s hs => (hplain s hs).2
  have hclient : boundaryOf? type =
      (((splitAtAll (· == ';') type.toList).map (trimWhile isAsciiBlank)).find? isMarked).map
        fun s => String.ofList (markedValue s) := by
    unfold boundaryOf?
    simp only
    rw [hform, hdivided]
    rfl
  have hmap : ((sections.map fun s => trimWhile isAsciiBlank s.1).find? isMarked).map
      (fun s => String.ofList (markedValue s)) = some b := by
    have hnamed := congrArg (Option.map String.ofList) (hfind.trans hboundary)
    rw [Option.map_map, Option.map_some, String.ofList_toList] at hnamed
    exact hnamed
  rw [hclient, hcut, List.map_cons, List.find?_cons, isMarked_type, List.map_map]
  exact hmap

/-! ## The client's own content type -/

section Own

variable {b : String}

/-- The characters of the client's own content type. -/
theorem toList_multipartType (b : String) : (Payload.multipartType b).toList =
    "multipart/form-data; boundary=".toList ++ b.toList := by
  unfold Payload.multipartType
  exact String.toList_append

/-- A boundary needs no quotes. -/
theorem IsBoundary.isBare (hb : IsBoundary b) : ∀ c ∈ b.toList, isBare c = true := by
  have hdigits : ∀ d ∈ hexDigits, Multipart.isBare d = true := forall_mem_of_all (by decide)
  exact fun c hc => hdigits c (hb.2 c hc)

/-- The content type that is made for a boundary announces it, if it needs no quotes. -/
theorem announces_multipartType (hb : ∀ c ∈ b.toList, isBare c = true) :
    Announces (Payload.multipartType b)
      [(" boundary=".toList ++ b.toList, some ("boundary".toList, b.toList))] b := by
  have hname : IsName "boundary".toList := ⟨by decide, forall_mem_of_all (by decide)⟩
  have hchars : " boundary=".toList ++ b.toList =
      [' '] ++ ("boundary".toList ++ '=' :: b.toList) ++ [] := by
    rw [List.append_nil]
    rfl
  refine ⟨⟨[], List.not_mem_nil, ?_⟩, ?_, ?_⟩
  · have hopening : "multipart/form-data; boundary=".toList =
        "multipart/form-data".toList ++ ';' :: " boundary=".toList := by decide +kernel
    rw [toList_multipartType, hopening]
    simp only [List.append_nil, List.flatMap_cons, List.flatMap_nil, List.append_assoc,
      List.cons_append]
  · intro s hs
    obtain rfl := List.mem_singleton.1 hs
    show IsSection (" boundary=".toList ++ b.toList) _
    rw [hchars]
    exact .parameter (forall_mem_of_all (by decide)) (by simp) hname (.bare hb)
  · have hsame : isBoundaryName "boundary".toList = true := by decide
    show ((List.find? (fun p : List Char × List Char => isBoundaryName p.1)
      [("boundary".toList, b.toList)]).map Prod.snd) = some b.toList
    rw [List.find?_cons, hsame]
    rfl

/-- In a content type with one semicolon and no backslash, neither is between quotes. -/
theorem isPlainSection_of_count {type : String} {sections : List Section}
    (h : Announces type sections b) (hone : type.toList.count ';' = 1)
    (hbackslash : '\\' ∉ type.toList) : ∀ s ∈ sections, IsPlainSection s := by
  intro s hs
  obtain ⟨⟨rest, -, htype⟩, -, -⟩ := h
  obtain ⟨before, behind, rfl⟩ := List.append_of_mem hs
  rw [List.flatMap_append, List.flatMap_cons] at htype
  constructor
  · rw [htype] at hone
    simp only [List.count_append, List.count_cons_self, List.cons_append] at hone
    have hzero : s.1.count ';' = 0 := by omega
    exact List.count_eq_zero.1 hzero
  · intro hmem
    apply hbackslash
    rw [htype]
    simp [hmem]

/-- Neither a semicolon nor a backslash is in the sections of the client's own content type. -/
theorem isPlainSection_multipartType (hb : IsBoundary b) {sections : List Section} {other : String}
    (h : Announces (Payload.multipartType b) sections other) :
    ∀ s ∈ sections, IsPlainSection s := by
  have hopening : "multipart/form-data; boundary=".toList.count ';' = 1 ∧
      '\\' ∉ "multipart/form-data; boundary=".toList := by decide +kernel
  have hdigits : ∀ d ∈ hexDigits, d ≠ ';' ∧ d ≠ '\\' := forall_mem_of_all (by decide)
  have hnone : b.toList.count ';' = 0 :=
    List.count_eq_zero.2 fun hmem => (hdigits _ (hb.2 _ hmem)).1 rfl
  apply isPlainSection_of_count h
  · rw [toList_multipartType, List.count_append, hnone, hopening.1]
  · rw [toList_multipartType, List.mem_append, not_or]
    exact ⟨hopening.2, fun hmem => (hdigits _ (hb.2 _ hmem)).2 rfl⟩

/-- The client finds its boundary in its own content type. -/
theorem boundaryOf?_multipartType (hb : IsBoundary b) :
    boundaryOf? (Payload.multipartType b) = some b :=
  boundaryOf?_of_announces (announces_multipartType hb.isBare)
    (isPlainSection_multipartType hb (announces_multipartType hb.isBare))

/-- The client's own content type announces its boundary and no other. -/
theorem announces_multipartType_iff (hb : IsBoundary b) {other : String} :
    (∃ sections, Announces (Payload.multipartType b) sections other) ↔ other = b := by
  constructor
  · rintro ⟨sections, h⟩
    have hread := boundaryOf?_of_announces h (isPlainSection_multipartType hb h)
    rw [boundaryOf?_multipartType hb] at hread
    exact (Option.some.inj hread).symm
  · rintro rfl
    exact ⟨_, announces_multipartType hb.isBare⟩

end Own

end Courier.Multipart
