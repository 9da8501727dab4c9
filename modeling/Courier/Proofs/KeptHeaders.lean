import Courier.Exchange.Execute
import Courier.Evaluation.Subject
import Courier.Proofs.Basic
import Courier.Proofs.Deadline
import Courier.Proofs.Lower
import Courier.Proofs.TextCodes
import Courier.Proofs.Utf8
import Mathlib.Data.List.Nodup

/-!
# The headers that are kept

Of the header fields of a reply, those whose value is text are kept under their names in lower case.
The names come in the order of their first such fields, each once (`names_keepAll`), and each has
the value of the last such field, whatever comes behind that without being text (`mem_keepAll_iff`).
Both are inductions on the fields from their end: keeping one more field leaves the names in their
places (`names_keep`) and changes the value of its own name only (`mem_keep_iff`).

An assertion on a header looks for its name in lower case as well. The names that are kept were put
in lower case as bytes, one character a byte, and lower case of such a text is not changed by
repeating it (`lower_keptName`), so that both come to the same names (`toResponse_keeps_readable`).
-/

namespace Courier

namespace Text

/-! ## Lower case below U+0100 -/

/-- A code point below U+0100 is that of a character. -/
theorem toNat_ofNat_latin {n : Nat} (h : n < 0x100) : (Char.ofNat n).toNat = n := by
  have hvalid : n.isValidChar := .inl (by omega)
  rw [Char.ofNat, dif_pos hvalid]
  rfl

/-- Below U+0100 the image of a code point is there too, and it is its own image. -/
theorem lowerCode_lowerCode {n : Nat} (h : n < 0x100) :
    lowerCode n < 0x100 ∧ lowerCode (lowerCode n) = lowerCode n := by
  have himage : lowerCode n = n ∨ lowerCode n = n + 32 ∧
      (0x41 ≤ n ∧ n ≤ 0x5A ∨ 0xC0 ≤ n ∧ n ≤ 0xDE ∧ n ≠ 0xD7) := by
    unfold lowerCode
    rw [if_pos h]
    split
    · rename_i hletter
      exact .inr ⟨rfl, hletter⟩
    · exact .inl rfl
  rcases himage with hsame | ⟨hmoved, hletter⟩
  · rw [hsame]
    exact ⟨h, hsame⟩
  · -- the image of a capital letter is no capital letter
    have hsmall : n + 32 < 0x100 := by omega
    have hfixed : lowerCode (n + 32) = n + 32 := by
      unfold lowerCode
      rw [if_pos hsmall, if_neg (by omega)]
    rw [hmoved]
    exact ⟨hsmall, hfixed⟩

/-- Below U+0100 the lower case of a text is that of its characters, wherever they stand. -/
theorem lowerFrom_of_lt {cs : List Char} (h : ∀ c ∈ cs, c.toNat < 0x100) (before : List Char) :
    lowerFrom before cs = cs.map fun c => Char.ofNat (lowerCode c.toNat) := by
  induction cs generalizing before with
  | nil => rfl
  | cons c cs ih =>
    have hc := h c List.mem_cons_self
    -- neither a sigma nor the dotted capital I is below U+0100
    rw [lowerFrom, if_neg (by omega), if_neg (by omega), ih fun d hd => h d (.tail c hd)]
    rfl

/-- Below U+0100 lower case is not changed by repeating it. -/
theorem lower_lower_of_lt {s : String} (h : ∀ c ∈ s.toList, c.toNat < 0x100) :
    lower (lower s) = lower s := by
  have hcode : ∀ c ∈ s.toList,
      (Char.ofNat (lowerCode c.toNat)).toNat = lowerCode c.toNat := fun c hc =>
    toNat_ofNat_latin (lowerCode_lowerCode (h c hc)).1
  have hlower : ∀ c ∈ (lower s).toList, c.toNat < 0x100 := by
    intro d hd
    rw [lower, String.toList_ofList, lowerFrom_of_lt h] at hd
    obtain ⟨c, hc, rfl⟩ := List.mem_map.1 hd
    rw [hcode c hc]
    exact (lowerCode_lowerCode (h c hc)).1
  have hagain : lowerFrom [] (lower s).toList = lowerFrom [] s.toList := by
    rw [lowerFrom_of_lt hlower, lower, String.toList_ofList, lowerFrom_of_lt h, List.map_map]
    refine List.map_congr_left fun c hc => ?_
    rw [Function.comp_apply, hcode c hc, (lowerCode_lowerCode (h c hc)).2]
  exact congrArg String.ofList hagain

end Text

namespace Reply

/-- A header field on the wire: the bytes of its name and of its value. -/
abbrev Field := List UInt8 × List UInt8

/-- The name under which a field is kept. -/
def keptName (f : Field) : String :=
  Text.lower (latinText f.1)

/-- Keeps a field, if its value is text, behind others that are kept. -/
def keep (kept : List (String × String)) (f : Field) : List (String × String) :=
  match Text.Utf8.decode? f.2 with
  | none => kept
  | some value =>
    if kept.any fun h => h.1 == keptName f then
      kept.map fun h => if h.1 == keptName f then (keptName f, value) else h
    else kept ++ [(keptName f, value)]

/-- Keeps all fields. -/
def keepAll (fields : List Field) : List (String × String) :=
  fields.foldl keep []

/-- The names of the fields whose values are text. -/
def readableNames (fields : List Field) : List String :=
  fields.filterMap fun f => (Text.Utf8.decode? f.2).map fun _ => keptName f

/-- The last of some fields that has a name and a value that is text, and the text. What comes
behind it is of another name, or it is not text. -/
def IsLastReadable (fields : List Field) (name value : String) : Prop :=
  ∃ earlier f later, fields = earlier ++ f :: later ∧ keptName f = name ∧
    Text.Utf8.decode? f.2 = some value ∧
    ∀ g ∈ later, keptName g = name → Text.Utf8.decode? g.2 = none

/-- A name is not changed by putting it in lower case again. -/
theorem lower_keptName (f : Field) : Text.lower (keptName f) = keptName f := by
  refine Text.lower_lower_of_lt fun c hc => ?_
  rw [latinText, String.toList_ofList] at hc
  obtain ⟨b, -, rfl⟩ := List.mem_map.1 hc
  have hb : b.toNat < 0x100 := b.toNat_lt
  rw [Text.toNat_ofNat_latin hb]
  exact hb

/-! ## One more field -/

/-- One more field keeps the names in their places, and a new name comes last. -/
theorem names_keep (kept : List (String × String)) (f : Field) :
    (keep kept f).map Prod.fst =
      if Text.Utf8.decode? f.2 = none ∨ keptName f ∈ kept.map Prod.fst then kept.map Prod.fst
      else kept.map Prod.fst ++ [keptName f] := by
  have hany : (kept.any fun h => h.1 == keptName f) = true ↔ keptName f ∈ kept.map Prod.fst := by
    simp [List.mem_map]
  unfold keep
  cases hvalue : Text.Utf8.decode? f.2 with
  | none => simp
  | some value =>
    simp only [reduceCtorEq, false_or]
    by_cases hold : keptName f ∈ kept.map Prod.fst
    · -- the value changes where the name stands
      rw [if_pos (hany.2 hold), if_pos hold, List.map_map]
      refine List.map_congr_left fun h _ => ?_
      by_cases hname : h.1 = keptName f
      · simp [hname]
      · simp [hname]
    · rw [if_neg (mt hany.1 hold), if_neg hold, List.map_append]
      rfl

/-- One more field that is text changes what is kept under its name, and nothing else. -/
theorem mem_keep_iff {kept : List (String × String)} {f : Field} {text name value : String}
    (hvalue : Text.Utf8.decode? f.2 = some text) :
    (name, value) ∈ keep kept f ↔
      name = keptName f ∧ value = text ∨ name ≠ keptName f ∧ (name, value) ∈ kept := by
  unfold keep
  rw [hvalue]
  simp only
  split
  · rename_i hold
    obtain ⟨p, hp, hname⟩ := List.any_eq_true.1 hold
    rw [List.mem_map]
    constructor
    · rintro ⟨h, hmem, hh⟩
      by_cases hsame : h.1 = keptName f
      · rw [if_pos (by simpa using hsame)] at hh
        cases hh
        exact .inl ⟨rfl, rfl⟩
      · rw [if_neg (by simpa using hsame)] at hh
        subst hh
        exact .inr ⟨hsame, hmem⟩
    · rintro (⟨rfl, rfl⟩ | ⟨hne, hmem⟩)
      · exact ⟨p, hp, if_pos hname⟩
      · exact ⟨(name, value), hmem, if_neg (by simpa using hne)⟩
  · rename_i hnew
    rw [List.mem_append, List.mem_singleton, Prod.mk.injEq]
    constructor
    · rintro (hmem | hlast)
      · -- the name is not the new one, which was not there
        refine .inr ⟨fun hname => hnew ?_, hmem⟩
        exact List.any_eq_true.2 ⟨(name, value), hmem, by simpa using hname⟩
      · exact .inl hlast
    · rintro (hlast | ⟨-, hmem⟩)
      · exact .inr hlast
      · exact .inl hmem

/-- With one more field, the last one of a name that is text is that field or the last one
before. -/
theorem isLastReadable_append_singleton {fields : List Field} {f : Field} {name value : String} :
    IsLastReadable (fields ++ [f]) name value ↔
      keptName f = name ∧ Text.Utf8.decode? f.2 = some value ∨
        (keptName f = name → Text.Utf8.decode? f.2 = none) ∧ IsLastReadable fields name value := by
  constructor
  · rintro ⟨earlier, g, later, he, hname, hvalue, hlater⟩
    rcases List.eq_nil_or_concat later with rfl | ⟨later, last, rfl⟩
    · obtain ⟨-, rfl⟩ := List.append_singleton_inj.1 he
      exact .inl ⟨hname, hvalue⟩
    · rw [List.concat_eq_append, ← List.cons_append, ← List.append_assoc] at he
      obtain ⟨hfields, rfl⟩ := List.append_singleton_inj.1 he
      refine .inr ⟨hlater f (by simp), earlier, g, later, hfields, hname, hvalue, ?_⟩
      exact fun h hh => hlater h (by simp [hh])
  · rintro (⟨hname, hvalue⟩ | ⟨hlast, earlier, g, later, rfl, hname, hvalue, hlater⟩)
    · exact ⟨fields, f, [], rfl, hname, hvalue, by simp⟩
    · refine ⟨earlier, g, later ++ [f], by simp, hname, hvalue, ?_⟩
      intro h hh
      rcases List.mem_append.1 hh with hh | hh
      · exact hlater h hh
      · rw [List.mem_singleton.1 hh]
        exact hlast

/-! ## All fields -/

/-- The last of some fields is kept behind the others. -/
theorem keepAll_append_singleton (fields : List Field) (f : Field) :
    keepAll (fields ++ [f]) = keep (keepAll fields) f := by
  rw [keepAll, List.foldl_append]
  rfl

/-- The names that are kept come in the order of their first fields that are text, each once. -/
theorem names_keepAll (fields : List Field) :
    (keepAll fields).map Prod.fst = (readableNames fields).eraseDups := by
  induction fields using List.reverseRecOn with
  | nil => rfl
  | append_singleton fields f ih =>
    have hnames : readableNames (fields ++ [f]) =
        readableNames fields ++ ((Text.Utf8.decode? f.2).map fun _ => keptName f).toList := by
      rw [readableNames, List.filterMap_append]
      rfl
    rw [keepAll_append_singleton, names_keep, hnames, ih]
    cases Text.Utf8.decode? f.2 with
    | none => simp
    | some value =>
      simp only [reduceCtorEq, false_or, List.mem_eraseDups, Option.map_some, Option.toList_some]
      rw [eraseDups_append_singleton]

/-- What is kept under a name is the last of its values that is text. -/
theorem mem_keepAll_iff {fields : List Field} {name value : String} :
    (name, value) ∈ keepAll fields ↔ IsLastReadable fields name value := by
  induction fields using List.reverseRecOn with
  | nil => simp [keepAll, IsLastReadable]
  | append_singleton fields f ih =>
    rw [keepAll_append_singleton, isLastReadable_append_singleton, ← ih]
    cases hvalue : Text.Utf8.decode? f.2 with
    | none => simp [keep, hvalue]
    | some text =>
      rw [mem_keep_iff hvalue]
      constructor
      · rintro (⟨rfl, rfl⟩ | ⟨hne, hmem⟩)
        · exact .inl ⟨rfl, rfl⟩
        · exact .inr ⟨fun h => (hne h.symm).elim, hmem⟩
      · rintro (⟨rfl, htext⟩ | ⟨hother, hmem⟩)
        · exact .inl ⟨rfl, (Option.some.inj htext).symm⟩
        · -- the field has a value, so it has another name
          refine .inr ⟨fun h => ?_, hmem⟩
          cases hother h.symm

/-- A name is among those that are kept if a field of it is text. -/
theorem mem_readableNames_iff {fields : List Field} {name : String} :
    name ∈ readableNames fields ↔
      ∃ f ∈ fields, keptName f = name ∧ Text.Utf8.decode? f.2 ≠ none := by
  rw [readableNames, List.mem_filterMap]
  refine exists_congr fun f => and_congr_right fun _ => ?_
  cases Text.Utf8.decode? f.2 <;> simp

end Reply

/-! ## What assertions find -/

/-- A header is looked for under a text of characters. -/
theorem Response.header?_eq_some_iff_of_text {r : Response} {name : CodeText} {value : String} :
    r.header? name = some value ↔ ∃ n, name = CodeText.ofString n ∧
      ((r.headers.find? fun h => h.1 == Text.lower n).map Prod.snd) = some value := by
  unfold header?
  rw [Option.bind_eq_bind, Option.bind_eq_some_iff]
  simp only [CodeText.toString?_eq_some_iff]

/-- Among headers of different names, the one that is found is the one that is there. -/
theorem Response.header?_eq_some_iff {r : Response} (hd : (r.headers.map Prod.fst).Nodup)
    {name : CodeText} {value : String} :
    r.header? name = some value ↔
      ∃ n, name = CodeText.ofString n ∧ (Text.lower n, value) ∈ r.headers := by
  rw [header?_eq_some_iff_of_text]
  refine exists_congr fun n => and_congr_right fun _ => ?_
  rw [Option.map_eq_some_iff]
  constructor
  · rintro ⟨h, hfound, rfl⟩
    have hname : h.1 = Text.lower n := by simpa using List.find?_some hfound
    rw [← hname]
    exact List.mem_of_find?_eq_some hfound
  · intro hmem
    cases hfound : r.headers.find? fun h => h.1 == Text.lower n with
    | none => exact absurd (List.find?_eq_none.1 hfound _ hmem) (by simp)
    | some h =>
      -- both have the name, so they are the same header
      have hname : h.1 = Text.lower n := by simpa using List.find?_some hfound
      have hsame := List.inj_on_of_nodup_map hd (List.mem_of_find?_eq_some hfound) hmem hname
      exact ⟨h, rfl, congrArg Prod.snd hsame⟩

/-- A header is missing exactly if its name is. -/
theorem Response.header?_eq_none_iff {r : Response} {name : CodeText} :
    r.header? name = none ↔
      ∀ n, name = CodeText.ofString n → Text.lower n ∉ r.headers.map Prod.fst := by
  have hfind : ∀ n, ((r.headers.find? fun h => h.1 == Text.lower n).map Prod.snd) = none ↔
      Text.lower n ∉ r.headers.map Prod.fst := by
    intro n
    rw [Option.map_eq_none_iff, List.find?_eq_none, List.mem_map, not_exists]
    simp only [beq_iff_eq, not_and]
  simp only [← hfind, Option.eq_none_iff_forall_ne_some, ne_eq, header?_eq_some_iff_of_text,
    not_exists, not_and]
  constructor
  · exact fun h n hn value => h value n hn
  · exact fun h value n hn => h n hn value

namespace Reply

/-- Other header fields change nothing of a response but its headers. -/
theorem toResponse_of_fields {r : Reply} {codes : List Nat} {time : Int} {response : Response}
    (h : r.toResponse codes time = .ok response) (fields : List Field) :
    toResponse { r with fields := fields } codes time =
      .ok { response with headers := keepAll fields } := by
  unfold toResponse at h ⊢
  split at h
  · cases h
  · rename_i hpaired
    cases hstatus : Schema.inRange 0 (some Response.maxStatus) r.status with
    | refused issues =>
      rw [hstatus] at h
      cases h
    | accepted status =>
      rw [hstatus] at h
      rw [← Except.ok.inj h]
      -- the two sides differ in how the headers are written only
      simp only
      rfl

/-- What is kept of the header fields of a reply, and what assertions find there. A name is kept
exactly if a field of it has a value that is text, and its value is the last one that is, also where
a later one is not. The names are different, in lower case, and in the order of their first fields
that are text. So an assertion on a header, whatever the case of the name that it gives, finds that
value, and finds none exactly if no field of the name is text. And with any other fields there is a
response as well, which differs in its headers only. -/
theorem toResponse_keeps_readable {r : Reply} {codes : List Nat} {time : Int} {response : Response}
    (h : r.toResponse codes time = .ok response) :
    (∀ name, name ∈ response.headers.map Prod.fst ↔
        ∃ f ∈ r.fields, keptName f = name ∧ Text.Utf8.decode? f.2 ≠ none) ∧
      (∀ name value, (name, value) ∈ response.headers ↔ IsLastReadable r.fields name value) ∧
      (response.headers.map Prod.fst).Nodup ∧
      (∀ name ∈ response.headers.map Prod.fst, Text.lower name = name) ∧
      response.headers.map Prod.fst = (readableNames r.fields).eraseDups ∧
      (∀ (a : Assertion) (key : CodeText), a.subject = .header → a.key = some key →
        (∀ value, a.resolve response = .ok (some (.text value)) ↔
            ∃ name, key = CodeText.ofString name ∧
              IsLastReadable r.fields (Text.lower name) value) ∧
          (a.resolve response = .ok none ↔ ∀ name, key = CodeText.ofString name →
            ∀ f ∈ r.fields, keptName f = Text.lower name → Text.Utf8.decode? f.2 = none)) ∧
      ∀ fields, toResponse { r with fields := fields } codes time =
        .ok { response with headers := keepAll fields } := by
  obtain ⟨-, -, -, hheaders, -, -, -⟩ := toResponse_eq_ok h
  have hkept : response.headers = keepAll r.fields := hheaders
  have horder : response.headers.map Prod.fst = (readableNames r.fields).eraseDups := by
    rw [hkept, names_keepAll]
  have hmem : ∀ name, name ∈ response.headers.map Prod.fst ↔
      ∃ f ∈ r.fields, keptName f = name ∧ Text.Utf8.decode? f.2 ≠ none := by
    intro name
    rw [horder, List.mem_eraseDups, mem_readableNames_iff]
  have hlast : ∀ name value, (name, value) ∈ response.headers ↔
      IsLastReadable r.fields name value := by
    intro name value
    rw [hkept, mem_keepAll_iff]
  have hnodup : (response.headers.map Prod.fst).Nodup := by
    rw [horder]
    exact nodup_eraseDups _
  refine ⟨hmem, hlast, hnodup, ?_, horder, ?_, toResponse_of_fields h⟩
  · intro name hname
    obtain ⟨f, -, rfl, -⟩ := (hmem name).1 hname
    exact lower_keptName f
  · intro a key hsubject hkey
    have hresolve : a.resolve response = .ok ((response.header? key).map .text) := by
      unfold Assertion.resolve
      rw [hsubject, hkey]
      rfl
    constructor
    · intro value
      simp only [← hlast]
      rw [hresolve, ← Response.header?_eq_some_iff hnodup]
      cases response.header? key <;> simp
    · rw [hresolve, Except.ok.injEq, Option.map_eq_none_iff, Response.header?_eq_none_iff]
      simp only [hmem, not_exists, not_and, not_not]

/-- A reply with fields of one name in several spellings; the last of them is not text. -/
def repeatingReply : Reply :=
  ⟨200, [(Text.Utf8.encode "X-Tag", Text.Utf8.encode "first"), (Text.Utf8.encode "Via", [0x61]),
    (Text.Utf8.encode "x-tag", Text.Utf8.encode "é"), (Text.Utf8.encode "X-TAG", [0xFF])], [], none⟩

/-- An assertion on the header of a name. -/
def headerAssertion (name : String) : Assertion :=
  ⟨none, .header, some name, .exist, .null⟩

/-- `toResponse_keeps_readable` where the last field of a name is not text: the one before
counts. -/
theorem toResponse_keeps_readable_repeated :
    ∃ response, repeatingReply.toResponse [] 0 = .ok response ∧
      response.headers.map Prod.fst = ["x-tag", "via"] ∧
      (headerAssertion "X-Tag").resolve response = .ok (some (.text "é")) ∧
      (headerAssertion "Age").resolve response = .ok none := by
  have hkept : (repeatingReply.toResponse [] 0).toOption.any (fun _ => true) = true := by
    decide +kernel
  have hnames : readableNames repeatingReply.fields = ["x-tag", "via", "x-tag"] := by
    decide +kernel
  have hlower : Text.lower "X-Tag" = "x-tag" ∧ Text.lower "Age" = "age" := by
    decide +kernel
  obtain ⟨response, hresponse, -⟩ := exists_eq_ok_of_any hkept
  obtain ⟨-, -, -, -, horder, hfinds, -⟩ := toResponse_keeps_readable hresponse
  rw [hnames] at horder
  refine ⟨response, hresponse, horder.trans (by decide), ?_, ?_⟩
  · refine ((hfinds (headerAssertion "X-Tag") "X-Tag" rfl rfl).1 "é").2 ⟨"X-Tag", rfl, ?_⟩
    rw [hlower.1]
    -- the field of the name that comes behind is no text
    exact ⟨repeatingReply.fields.take 2, (Text.Utf8.encode "x-tag", Text.Utf8.encode "é"),
      [(Text.Utf8.encode "X-TAG", [0xFF])], rfl, by decide +kernel, by decide +kernel,
      by decide +kernel⟩
  · refine (hfinds (headerAssertion "Age") "Age" rfl rfl).2.2 fun name hname => ?_
    rw [← CodeText.ofString_inj.1 hname, hlower.2]
    decide +kernel

end Reply

end Courier
