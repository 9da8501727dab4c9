import Courier.Config
import Courier.Proofs.JsonTree
import Courier.Proofs.PlainScalar

/-!
# Line breaks of a JSON text

A file is read with its line breaks made plain. Of a JSON text that changes nothing but the white
space between tokens (`plainBreaks_source`): strings, numbers and words have no line breaks.
-/

namespace Courier

/-- A carriage return alone becomes a line feed. -/
theorem plainBreaks_return {r : List Char} (h : r.head? ≠ some '\n') :
    plainBreaks ('\r' :: r) = '\n' :: plainBreaks r :=
  plainBreaks.eq_2 r fun t ht => h (by rw [ht]; rfl)

/-- Other characters stay. -/
theorem plainBreaks_cons {c : Char} (h : c ≠ '\r') (r : List Char) :
    plainBreaks (c :: r) = c :: plainBreaks r :=
  plainBreaks.eq_3 c r (fun _ hc => (h hc).elim) h

/-- What begins with no line feed is not changed by what stands before it. -/
theorem plainBreaks_append (cs : List Char) {r : List Char} (hr : r.head? ≠ some '\n') :
    plainBreaks (cs ++ r) = plainBreaks cs ++ plainBreaks r := by
  fun_induction plainBreaks cs with
  | case1 cs ih => exact congrArg (List.cons '\n') ih
  | case2 cs hcs ih =>
    have hhead : (cs ++ r).head? ≠ some '\n' := by
      cases cs with
      | nil => exact hr
      | cons c cs =>
        intro hc
        exact hcs cs (by rw [Option.some.inj hc])
    exact (plainBreaks_return hhead).trans (congrArg (List.cons '\n') ih)
  | case3 c cs _ hc ih => exact (plainBreaks_cons hc _).trans (congrArg (List.cons c) ih)
  | case4 => rfl

/-- Where there are no carriage returns, nothing is made plain. -/
theorem plainBreaks_append_of_not_mem {cs : List Char} (h : '\r' ∉ cs) (r : List Char) :
    plainBreaks (cs ++ r) = cs ++ plainBreaks r := by
  induction cs with
  | nil => rfl
  | cons c cs ih =>
    rw [List.mem_cons, not_or] at h
    rw [List.cons_append, plainBreaks_cons (Ne.symm h.1), ih h.2, List.cons_append]

/-- White space without tabs is spaces and line feeds once line breaks are plain. -/
theorem isBlank_plainBreaks {cs : List Char} (hcs : ∀ c ∈ cs, Json.isSpace c = true)
    (htab : '\t' ∉ cs) : Yaml.IsBlank (plainBreaks cs) := by
  fun_induction plainBreaks cs with
  | case1 cs ih =>
    rw [List.forall_mem_cons, List.forall_mem_cons] at hcs
    exact List.forall_mem_cons.2 ⟨.inr rfl, ih hcs.2.2 fun hc => htab (by simp [hc])⟩
  | case2 cs _ ih =>
    rw [List.forall_mem_cons] at hcs
    exact List.forall_mem_cons.2 ⟨.inr rfl, ih hcs.2 fun hc => htab (by simp [hc])⟩
  | case3 c cs _ hc ih =>
    rw [List.forall_mem_cons] at hcs
    refine List.forall_mem_cons.2 ⟨?_, ih hcs.2 fun hc => htab (by simp [hc])⟩
    have hspace := hcs.1
    simp only [Json.isSpace, Bool.or_eq_true, beq_iff_eq, or_assoc] at hspace
    obtain h | rfl | h | h := hspace
    · exact .inl h
    · exact (htab List.mem_cons_self).elim
    · exact .inr h
    · exact (hc h).elim
  | case4 => exact List.forall_mem_nil _

namespace Json

/-- A string has no carriage returns. -/
theorem return_notMem_stringSource (ps : List Piece) : '\r' ∉ stringSource ps := by
  have hpiece : '\r' ∉ pieceSource ps := by
    intro h
    obtain ⟨p, -, hp⟩ := List.mem_flatMap.1 h
    cases p with
    | plain c hc =>
      obtain rfl := List.mem_singleton.1 hp
      exact absurd hc.1 (by decide)
    | short e he =>
      simp only [Piece.source, List.mem_cons, List.not_mem_nil, or_false] at hp
      obtain hp | rfl := hp
      · cases hp
      · cases he
    | code a b c d hdigits =>
      have hreturn : '\r' ∈ [a, b, c, d] := by
        simpa [Piece.source] using hp
      cases List.all_eq_true.1 hdigits '\r' hreturn
  simpa [stringSource] using hpiece

/-- A literal has no carriage returns. -/
theorem return_notMem_literal (l : Literal) : '\r' ∉ l.source := by
  cases l with
  | word w v h =>
    have hall : ∀ e ∈ words, '\r' ∉ e.1.toList := by
      decide
    exact hall _ h
  | integer negative digits h hsize =>
    intro hreturn
    cases isNumberChar_source (l := .integer negative digits h hsize) (by simp) _ hreturn
  | double negative digits fraction e h hfraction hdouble =>
    intro hreturn
    cases isNumberChar_source (l := .double negative digits fraction e h hfraction hdouble)
      (by simp) _ hreturn

/-- White space before a token is made plain by itself. -/
theorem plainBreaks_gap_cons (gap : Gap) {c : Char} (hc : isSpace c = false) (r : List Char) :
    plainBreaks (gap ++ c :: r) = plainBreaks gap ++ c :: plainBreaks r := by
  have hne : ∀ d, isSpace d = true → c ≠ d := by
    rintro d hd rfl
    cases hc.symm.trans hd
  rw [plainBreaks_append, plainBreaks_cons (hne '\r' rfl)]
  intro hhead
  exact hne '\n' rfl (Option.some.inj hhead)

/-- The breaks of a name are made plain in its white space. -/
theorem Name.plainBreaks_source (n : Name) {r : List Char} (hr : r.head? ≠ some '\n') :
    plainBreaks (n.source id ++ r) = n.source plainBreaks ++ plainBreaks r := by
  simp only [Name.source, List.append_assoc, List.cons_append, id]
  rw [plainBreaks_append_of_not_mem (return_notMem_stringSource n.pieces),
    plainBreaks_gap_cons n.before rfl, plainBreaks_append n.behind hr]

/-- What begins with a token begins with no line feed. -/
theorem head?_ne_of_isSpace {c : Char} (hc : isSpace c = false) {u r : List Char} :
    (c :: u ++ r).head? ≠ some '\n' := by
  intro h
  cases Option.some.inj h
  cases hc

/-- White space before what begins with a token is made plain by itself. -/
theorem plainBreaks_gap_append (gap : Gap) {cs : List Char}
    (hcs : ∃ c u, cs = c :: u ∧ isSpace c = false) (r : List Char) :
    plainBreaks (gap ++ (cs ++ r)) = plainBreaks gap ++ plainBreaks (cs ++ r) := by
  obtain ⟨c, u, rfl, hc⟩ := hcs
  exact plainBreaks_append gap (head?_ne_of_isSpace hc)

mutual

/-- The breaks of a value are made plain in its white space. -/
theorem Tree.plainBreaks_source (t : Tree) (r : List Char) :
    plainBreaks (t.source id ++ r) = t.source plainBreaks ++ plainBreaks r := by
  cases t with
  | literal l => exact plainBreaks_append_of_not_mem (return_notMem_literal l) r
  | text ps => exact plainBreaks_append_of_not_mem (return_notMem_stringSource ps) r
  | emptyList gap =>
    simp only [Tree.source, List.append_assoc, List.cons_append, List.nil_append, id]
    rw [plainBreaks_cons (by decide), plainBreaks_gap_cons gap rfl]
  | emptyMap gap =>
    simp only [Tree.source, List.append_assoc, List.cons_append, List.nil_append, id]
    rw [plainBreaks_cons (by decide), plainBreaks_gap_cons gap rfl]
  | list gap is =>
    obtain ⟨c, u, hsource, hc, -⟩ := is.exists_head id
    have his := is.plainBreaks_source r
    simp only [Tree.source, List.append_assoc, List.cons_append, id]
    rw [plainBreaks_cons (by decide), plainBreaks_gap_append gap ⟨c, u, hsource, hc⟩, his]
  | map gap ms =>
    obtain ⟨u, hsource⟩ := ms.exists_head id
    have hms := ms.plainBreaks_source r
    simp only [Tree.source, List.append_assoc, List.cons_append, id]
    rw [plainBreaks_cons (by decide), plainBreaks_gap_append gap ⟨'"', u, hsource, rfl⟩, hms]

/-- The breaks of items are made plain in their white space. -/
theorem Items.plainBreaks_source (is : Items) (r : List Char) :
    plainBreaks (is.source id ++ r) = is.source plainBreaks ++ plainBreaks r := by
  cases is with
  | last v before =>
    simp only [Items.source, List.append_assoc, List.cons_append, List.nil_append, id]
    rw [v.plainBreaks_source, plainBreaks_gap_cons before rfl]
  | more v before behind rest =>
    obtain ⟨c, u, hsource, hc, -⟩ := rest.exists_head id
    have hrest := rest.plainBreaks_source r
    simp only [Items.source, List.append_assoc, List.cons_append, id]
    rw [v.plainBreaks_source, plainBreaks_gap_cons before rfl,
      plainBreaks_gap_append behind ⟨c, u, hsource, hc⟩, hrest]

/-- The breaks of members are made plain in their white space. -/
theorem Members.plainBreaks_source (ms : Members) (r : List Char) :
    plainBreaks (ms.source id ++ r) = ms.source plainBreaks ++ plainBreaks r := by
  cases ms with
  | last name v before =>
    obtain ⟨c, u, hsource, hc, -⟩ := v.exists_head id
    simp only [Members.source, List.append_assoc, List.cons_append, List.nil_append, id]
    rw [name.plainBreaks_source (by rw [hsource]; exact head?_ne_of_isSpace hc),
      v.plainBreaks_source, plainBreaks_gap_cons before rfl]
  | more name v before behind rest =>
    obtain ⟨c, u, hsource, hc, -⟩ := v.exists_head id
    obtain ⟨w, hrest⟩ := rest.exists_head id
    have hmembers := rest.plainBreaks_source r
    simp only [Members.source, List.append_assoc, List.cons_append, id]
    rw [name.plainBreaks_source (by rw [hsource]; exact head?_ne_of_isSpace hc),
      v.plainBreaks_source, plainBreaks_gap_cons before rfl,
      plainBreaks_gap_append behind ⟨'"', w, hrest, rfl⟩, hmembers]

end

/-- The breaks of a text are made plain in its white space. -/
theorem Document.plainBreaks_source (d : Document) :
    plainBreaks (d.source id) = d.source plainBreaks := by
  obtain ⟨c, u, hsource, hc, -⟩ := d.root.exists_head id
  have hroot := d.root.plainBreaks_source d.behind
  simp only [Document.source, List.append_assoc, id]
  rw [plainBreaks_gap_append d.before ⟨c, u, hsource, hc⟩, hroot]

end Json

end Courier
