import Courier.Proofs.Basic
import Courier.Proofs.EncodingFault
import Courier.Proofs.Form
import Courier.Proofs.Url
import Mathlib.Data.List.Perm.Basic

/-!
# Query parameters

What stands behind the existing query of a URL after parameters were added is read back as the
active parameters, brought together by name (`decode_addedQuery`). Nothing is lost and nothing comes
twice, and the parameters of one name keep their order. The order between names is the order of
input exactly when repeats are adjacent already.

The proof goes bottom up. Grouping puts the pairs of the first name first and groups the others
(`groupByName_cons`), and every property of it is an induction along these lines
(`groupByName_induction`). The grouped pairs are written in characters that a query keeps
(`querySafe_appendedText`), and so is what stood there before, so that the new query is the old one
with the written pairs behind it, byte for byte (`query_of_addParams`).
-/

namespace Courier

/-- Whether entries of one name stand side by side: between two of them there is none of another
name. -/
def RepeatsAdjacent (pairs : List (CodeText × CodeText)) : Prop :=
  ∀ a x b y c, pairs = a ++ x :: (b ++ y :: c) → x.1 = y.1 → ∀ z ∈ b, z.1 = x.1

/-- A list of pairs whose repeats are adjacent begins with all pairs of the first name. -/
theorem RepeatsAdjacent.cons_iff {p : CodeText × CodeText} {pairs : List (CodeText × CodeText)} :
    RepeatsAdjacent (p :: pairs) ↔
      RepeatsAdjacent pairs ∧
        ∀ b y c, pairs = b ++ y :: c → y.1 = p.1 → ∀ z ∈ b, z.1 = p.1 := by
  constructor
  · intro h
    refine ⟨?_, ?_⟩
    · intro a x b y c he
      exact h (p :: a) x b y c (by rw [he]; rfl)
    · intro b y c he hy
      exact h [] p b y c (by rw [he]; rfl) hy.symm
  · rintro ⟨htail, hhead⟩ a x b y c he hxy
    cases a with
    | nil =>
      cases he
      exact hhead b y c rfl hxy.symm
    | cons q a =>
      cases he
      exact htail a x b y c rfl hxy

/-- Pairs of one name in front of pairs of other names do not change whether repeats are
adjacent. -/
theorem repeatsAdjacent_append (name : CodeText) {same others : List (CodeText × CodeText)}
    (hsame : ∀ q ∈ same, q.1 = name) (hothers : ∀ q ∈ others, q.1 ≠ name) :
    RepeatsAdjacent (same ++ others) ↔ RepeatsAdjacent others := by
  induction same with
  | nil => rfl
  | cons p same ih =>
    have hp := hsame p List.mem_cons_self
    have hsame' : ∀ q ∈ same, q.1 = name := fun q hq => hsame q (List.mem_cons_of_mem p hq)
    rw [List.cons_append, RepeatsAdjacent.cons_iff, ih hsame']
    refine ⟨fun h => h.1, fun h => ⟨h, ?_⟩⟩
    intro b y c he hy z hz
    -- a later pair of the name lies in `same`, and so does what stands before it
    rcases List.append_eq_append_iff.1 he with ⟨t, rfl, ht⟩ | ⟨t, rfl, ht⟩
    · have hmem : y ∈ others := by
        rw [ht]
        simp
      exact absurd (hy.trans hp) (hothers y hmem)
    · rw [hp]
      exact hsame' z (by simp [hz])

/-- If no pair of another name stands in front of a pair of the name, all pairs of the name come
first. -/
theorem filter_append_filter_of_adjacent {name : CodeText} {pairs : List (CodeText × CodeText)}
    (h : ∀ b y c, pairs = b ++ y :: c → y.1 = name → ∀ z ∈ b, z.1 = name) :
    (pairs.filter (fun q => q.1 == name) ++ pairs.filter fun q => !q.1 == name) = pairs := by
  induction pairs with
  | nil => rfl
  | cons p pairs ih =>
    by_cases hp : p.1 = name
    · have hrest := ih fun b y c he hy z hz =>
        h (p :: b) y c (by rw [he]; rfl) hy z (List.mem_cons_of_mem p hz)
      rw [List.filter_cons_of_pos (by simpa using hp), List.filter_cons_of_neg (by simpa using hp),
        List.cons_append, hrest]
    · -- after a pair of another name there is none of the name
      have hnone : ∀ q ∈ pairs, q.1 ≠ name := by
        intro q hq hname
        obtain ⟨b, c, rfl⟩ := List.append_of_mem hq
        exact hp (h (p :: b) q c rfl hname p List.mem_cons_self)
      rw [List.filter_eq_nil_iff.2 (by simpa [hp] using hnone), List.nil_append,
        List.filter_eq_self.2 (by simpa [hp] using hnone)]

namespace Target

/-- The pairs that share the name of the first come first, then the others are grouped. -/
theorem groupByName_cons (p : CodeText × CodeText) (pairs : List (CodeText × CodeText)) :
    groupByName (p :: pairs) =
      p :: (pairs.filter (fun q => q.1 == p.1) ++
        groupByName (pairs.filter fun q => !q.1 == p.1)) := by
  have hnames : ((pairs.map Prod.fst).filter fun n => !n == p.1) =
      (pairs.filter fun q => !q.1 == p.1).map Prod.fst := by
    rw [List.filter_map]
    rfl
  unfold groupByName
  rw [List.map_cons, List.eraseDups_cons, List.flatMap_cons, hnames,
    List.filter_cons_of_pos (by simp), List.cons_append]
  congr 2
  refine List.flatMap_congr fun name hname => ?_
  -- the names left are those of the other pairs, so the filters keep the same pairs
  obtain ⟨q, hq, rfl⟩ := List.mem_map.1 (List.mem_eraseDups.1 hname)
  have hne : q.1 ≠ p.1 := by simpa using (List.mem_filter.1 hq).2
  rw [List.filter_cons_of_neg (by simpa using Ne.symm hne), List.filter_filter]
  refine List.filter_congr fun r _ => ?_
  by_cases hr : r.1 = q.1
  · simp [hr, hne]
  · simp [hr]

/-- What holds of no pairs, and of pairs when it holds of those that do not share the name of the
first, holds of all lists of pairs. This is the order in which pairs are grouped. -/
@[elab_as_elim]
theorem groupByName_induction {motive : List (CodeText × CodeText) → Prop} (nil : motive [])
    (cons : ∀ p pairs, motive (pairs.filter fun q => !q.1 == p.1) → motive (p :: pairs))
    (pairs : List (CodeText × CodeText)) : motive pairs := by
  induction hn : pairs.length using Nat.strongRecOn generalizing pairs with
  | _ n ih =>
    cases pairs with
    | nil => exact nil
    | cons p pairs =>
      have hle := List.length_filter_le (fun q => !q.1 == p.1) pairs
      simp only [List.length_cons] at hn
      exact cons p pairs (ih _ (by omega) _ rfl)

/-- Grouping keeps all pairs, as often as they are there. -/
theorem perm_groupByName (pairs : List (CodeText × CodeText)) :
    (groupByName pairs).Perm pairs := by
  induction pairs using groupByName_induction with
  | nil => exact List.Perm.refl _
  | cons p pairs ih =>
    rw [groupByName_cons]
    refine List.Perm.cons p ?_
    exact (List.Perm.append_left _ ih).trans (List.filter_append_perm _ pairs)

/-- Grouping keeps the order of the pairs of a name. -/
theorem filter_groupByName (pairs : List (CodeText × CodeText)) (name : CodeText) :
    (groupByName pairs).filter (fun p => p.1 == name) = pairs.filter fun p => p.1 == name := by
  induction pairs using groupByName_induction with
  | nil => rfl
  | cons p pairs ih =>
    rw [groupByName_cons, List.filter_cons, List.filter_cons, List.filter_append, ih,
      List.filter_filter, List.filter_filter]
    by_cases hname : p.1 = name
    · subst hname
      simp
    · -- of another name there is nothing among the pairs that follow the first
      have hnone : (pairs.filter fun q => q.1 == name && q.1 == p.1) = [] := by
        refine List.filter_eq_nil_iff.2 fun q _ => ?_
        simp only [Bool.and_eq_true, beq_iff_eq, not_and]
        intro hq hq'
        exact hname (hq'.symm.trans hq)
      have hall : (pairs.filter fun q => q.1 == name && !q.1 == p.1) =
          pairs.filter fun q => q.1 == name := by
        refine List.filter_congr fun q _ => ?_
        by_cases hq : q.1 = name
        · simp [hq, Ne.symm hname]
        · simp [hq]
      rw [hnone, hall, List.nil_append]

/-- After grouping, repeats are adjacent. -/
theorem repeatsAdjacent_groupByName (pairs : List (CodeText × CodeText)) :
    RepeatsAdjacent (groupByName pairs) := by
  induction pairs using groupByName_induction with
  | nil =>
    intro a x b y c he
    simp [groupByName] at he
  | cons p pairs ih =>
    rw [groupByName_cons, ← List.cons_append, repeatsAdjacent_append p.1]
    · exact ih
    · intro q hq
      rcases List.mem_cons.1 hq with rfl | hq
      · rfl
      · simpa using (List.mem_filter.1 hq).2
    · intro q hq
      have hq := (perm_groupByName _).mem_iff.1 hq
      simpa using (List.mem_filter.1 hq).2

/-- Grouping changes nothing exactly when repeats are adjacent already. -/
theorem groupByName_eq_self_iff (pairs : List (CodeText × CodeText)) :
    groupByName pairs = pairs ↔ RepeatsAdjacent pairs := by
  constructor
  · intro h
    rw [← h]
    exact repeatsAdjacent_groupByName pairs
  · induction pairs using groupByName_induction with
    | nil => exact fun _ => rfl
    | cons p pairs ih =>
      intro h
      obtain ⟨htail, hhead⟩ := RepeatsAdjacent.cons_iff.1 h
      -- the pairs of the first name come first already, and the others are grouped already
      have hcut := filter_append_filter_of_adjacent hhead
      have hothers : RepeatsAdjacent (pairs.filter fun q => !q.1 == p.1) := by
        rw [← hcut, repeatsAdjacent_append p.1] at htail
        · exact htail
        · intro q hq
          simpa using (List.mem_filter.1 hq).2
        · intro q hq
          simpa using (List.mem_filter.1 hq).2
      rw [groupByName_cons, ih hothers, hcut]

/-! ## The query with parameters -/

/-- What is added is the pairs, grouped and written as a form: those of texts of characters. -/
theorem appendedText_eq_ok_iff {pairs : List (CodeText × CodeText)} {text : String} :
    appendedText pairs = .ok text ↔
      ∃ written : List (String × String), groupByName pairs = written.map CodeText.ofPair ∧
        text = String.ofList (Text.formEncode written) := by
  rw [appendedText, map_eq_ok_iff]
  simp only [CodeText.utf8Pairs_eq_ok_iff, eq_comm (b := text)]

/-- What is written for pairs has only characters that a query keeps. -/
theorem querySafe_formEncode (pairs : List (String × String)) :
    Url.QuerySafe (Text.formEncode pairs) := by
  have hkept : ∀ {d : Char}, d = '+' ∨ d = '%' ∨ Text.isUnreserved d = true →
      (Text.isUnreserved d || Url.isQuerySafe d) = true := by
    intro d hd
    rcases hd with rfl | rfl | hd
    · decide
    · decide
    · rw [hd, Bool.true_or]
  intro c hc
  rcases Text.eq_ampersand_or_mem_of_mem_formEncode hc with rfl | ⟨p, -, hp⟩
  · decide
  · rcases List.mem_append.1 hp with hp | hp
    · exact hkept (Text.mem_formText hp)
    · rcases List.mem_cons.1 hp with rfl | hp
      · decide
      · exact hkept (Text.mem_formText hp)

end Target

namespace Url

/-- What stands between the existing query and the parameters added to it. -/
def querySeparator (u : Url) : String :=
  if (u.query.getD "").isEmpty then "" else "&"

/-- What stands in the query of `v` behind the query of `u` and the separator. -/
def addedQuery (u v : Url) : List Char :=
  (v.query.getD "").toList.drop ((u.query.getD "").toList.length + u.querySeparator.toList.length)

end Url

namespace Target

/-- Without active parameters, the URL stays as it is. -/
theorem addParams_of_activePairs_eq_nil (u : Url) {params : List Entry}
    (h : activePairs params = []) : addParams u params = .ok u := by
  rw [addParams, h]
  rfl

/-- With active parameters, the existing query, a separator and the parameters are put into the
URL, unless a parameter has a surrogate. -/
theorem addParams_eq_withQuery (u : Url) {params : List Entry} (h : activePairs params ≠ []) :
    addParams u params =
      (appendedText (activePairs params)).mapError TargetError.unwritable >>= fun appended =>
        (u.withQuery (u.query.getD "" ++ u.querySeparator ++ appended)).mapError
          TargetError.unfitQuery := by
  unfold addParams
  rw [if_neg (by simpa using h)]
  cases appendedText (activePairs params) with
  | error fault => rfl
  | ok appended =>
    have hquery : (if (u.query.getD "").isEmpty then appended
        else u.query.getD "" ++ "&" ++ appended) =
        u.query.getD "" ++ u.querySeparator ++ appended := by
      unfold Url.querySeparator
      split
      · rename_i hempty
        rw [String.isEmpty_iff.1 hempty, String.empty_append, String.empty_append]
      · rfl
    simp only [hquery]
    change _ = (u.withQuery (u.query.getD "" ++ u.querySeparator ++ appended)).mapError
      TargetError.unfitQuery
    cases u.withQuery (u.query.getD "" ++ u.querySeparator ++ appended) with
    | ok v => rfl
    | error e => rfl

/-- Nothing in the new query needs an escape. -/
theorem querySafe_newQuery {t : CodeText} {u : Url} (hu : Target.parse t = .ok u)
    (pairs : List (String × String)) :
    Url.QuerySafe (u.query.getD "" ++ u.querySeparator ++
      String.ofList (Text.formEncode pairs)).toList := by
  have hold := Url.querySafe_of_ofParts (Url.ofParts_of_parse (parse_of_parse hu))
  have hnew := querySafe_formEncode pairs
  intro c hc
  rw [String.toList_append, String.toList_append, String.toList_ofList] at hc
  rcases List.mem_append.1 hc with hc | hc
  · rcases List.mem_append.1 hc with hc | hc
    · exact hold c hc
    · unfold Url.querySeparator at hc
      split at hc
      · cases hc
      · rw [List.mem_singleton.1 hc]
        decide
  · exact hnew c hc

/-- With active parameters, the new query is the existing one, a separator, and the parameters:
grouped and written as a form. -/
theorem query_of_addParams {t : CodeText} {u v : Url} {params : List Entry}
    (hu : Target.parse t = .ok u) (hv : addParams u params = .ok v)
    (hactive : activePairs params ≠ []) :
    ∃ written : List (String × String),
      groupByName (activePairs params) = written.map CodeText.ofPair ∧
      v.query = some (u.query.getD "" ++ u.querySeparator ++
        String.ofList (Text.formEncode written)) := by
  rw [addParams_eq_withQuery u hactive] at hv
  obtain ⟨appended, hwritten, hput⟩ := bind_eq_ok_iff.1 hv
  obtain ⟨written, hgroups, rfl⟩ := appendedText_eq_ok_iff.1 (mapError_eq_ok_iff.1 hwritten)
  exact ⟨written, hgroups,
    Url.query_of_withQuery (mapError_eq_ok_iff.1 hput) (querySafe_newQuery hu written)⟩

/-- What is added to the query is the active parameters, grouped and written as a form. -/
theorem addedQuery_of_addParams {t : CodeText} {u v : Url} {params : List Entry}
    (hu : Target.parse t = .ok u) (hv : addParams u params = .ok v) :
    ∃ written : List (String × String),
      groupByName (activePairs params) = written.map CodeText.ofPair ∧
      Url.addedQuery u v = Text.formEncode written := by
  by_cases hactive : activePairs params = []
  · rw [addParams_of_activePairs_eq_nil u hactive] at hv
    refine ⟨[], by rw [hactive]; rfl, ?_⟩
    rw [← Except.ok.inj hv, Url.addedQuery, List.drop_eq_nil_of_le (Nat.le_add_right _ _)]
    rfl
  · obtain ⟨written, hgroups, hquery⟩ := query_of_addParams hu hv hactive
    have hlength : (u.query.getD "" ++ u.querySeparator).toList.length =
        (u.query.getD "").toList.length + u.querySeparator.toList.length := by
      rw [String.toList_append, List.length_append]
    refine ⟨written, hgroups, ?_⟩
    rw [Url.addedQuery, hquery, Option.getD_some, String.toList_append, ← hlength, List.drop_left,
      String.toList_ofList]

/-- What adding parameters does to a URL that was read. The existing query stays byte for byte, and
what is added behind it is read back as the active parameters, grouped by name: every one of them as
often as it is active, those of one name in input order. All of them are in input order exactly when
between two of one name there is none of another. -/
theorem decode_addedQuery {t : CodeText} {u v : Url} {params : List Entry}
    (hu : Target.parse t = .ok u) (hv : addParams u params = .ok v) :
    (activePairs params = [] → v = u) ∧
      (activePairs params ≠ [] →
        v.query = some (u.query.getD "" ++ u.querySeparator ++ String.ofList (u.addedQuery v))) ∧
      (Text.formDecode? (u.addedQuery v)).map (List.map CodeText.ofPair) =
        some (groupByName (activePairs params)) ∧
      (groupByName (activePairs params)).Perm (activePairs params) ∧
      (∀ name, (groupByName (activePairs params)).filter (fun p => p.1 == name) =
        (activePairs params).filter fun p => p.1 == name) ∧
      ((Text.formDecode? (u.addedQuery v)).map (List.map CodeText.ofPair) =
          some (activePairs params) ↔
        RepeatsAdjacent (activePairs params)) := by
  obtain ⟨written, hgroups, hadded⟩ := addedQuery_of_addParams hu hv
  have hread : (Text.formDecode? (u.addedQuery v)).map (List.map CodeText.ofPair) =
      some (groupByName (activePairs params)) := by
    rw [hadded, Text.formDecode?_formEncode, hgroups]
    rfl
  refine ⟨?_, ?_, hread, perm_groupByName _, filter_groupByName _, ?_⟩
  · intro hnone
    rw [addParams_of_activePairs_eq_nil u hnone] at hv
    exact (Except.ok.inj hv).symm
  · intro hactive
    obtain ⟨written', hgroups', hquery⟩ := query_of_addParams hu hv hactive
    have hsame : written' = written :=
      List.map_injective_iff.2 CodeText.ofPair_injective (hgroups'.symm.trans hgroups)
    rw [hadded, hquery, hsame]
  · rw [hread, Option.some.injEq, groupByName_eq_self_iff]

/-- Parameters with repeats side by side, and some that are not active. -/
def tagParams : List Entry :=
  [⟨"", "tag", "a b", true⟩, ⟨"", "tag", "c&d=é", true⟩, ⟨"", "", "orphan", true⟩,
    ⟨"", "off", "x", false⟩, ⟨"", "page", "", true⟩]

/-- `decode_addedQuery` at a URL with a query: all active parameters are read back in order. -/
theorem decode_addedQuery_tags :
    ∃ u v, Target.parse "http://h.test/?flag" = .ok u ∧ addParams u tagParams = .ok v ∧
      (Text.formDecode? (u.addedQuery v)).map (List.map CodeText.ofPair) =
        some ([("tag", "a b"), ("tag", "c&d=é"), ("page", "")].map CodeText.ofPair) := by
  have hfound : (Target.parse "http://h.test/?flag").toOption.any
      (fun u => (addParams u tagParams).toOption.any fun _ => true) = true := by
    decide +kernel
  obtain ⟨u, hu, hadded⟩ := exists_eq_ok_of_any hfound
  obtain ⟨v, hv, -⟩ := exists_eq_ok_of_any hadded
  obtain ⟨-, -, hread, -, -, -⟩ := decode_addedQuery hu hv
  have hgroups : groupByName (activePairs tagParams) =
      [("tag", "a b"), ("tag", "c&d=é"), ("page", "")].map CodeText.ofPair := by
    decide +kernel
  exact ⟨u, v, hu, hv, hread.trans (congrArg some hgroups)⟩

/-- Parameters with another one between repeats. -/
def interleavedParams : List Entry :=
  [⟨"", "a", "1", true⟩, ⟨"", "b", "2", true⟩, ⟨"", "a", "3", true⟩]

/-- Parameters are not always read back in input order: here the repeat is moved to the first of its
name. -/
theorem decode_addedQuery_ne_activePairs :
    ∃ u v, Target.parse "http://h/" = .ok u ∧ addParams u interleavedParams = .ok v ∧
      v.query = some "a=1&a=3&b=2" ∧
      (Text.formDecode? (u.addedQuery v)).map (List.map CodeText.ofPair) ≠
        some (activePairs interleavedParams) := by
  have hfound : (Target.parse "http://h/").toOption.any
      (fun u => (addParams u interleavedParams).toOption.any fun v =>
        decide (v.query = some "a=1&a=3&b=2" ∧
          (Text.formDecode? (u.addedQuery v)).map (List.map CodeText.ofPair) ≠
            some (activePairs interleavedParams))) = true := by
    decide +kernel
  obtain ⟨u, hu, hadded⟩ := exists_eq_ok_of_any hfound
  obtain ⟨v, hv, hread⟩ := exists_eq_ok_of_any hadded
  exact ⟨u, v, hu, hv, of_decide_eq_true hread⟩

end Target

end Courier
