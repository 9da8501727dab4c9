import Courier.Command.CheckVars
import Courier.Command.Send
import Courier.Proofs.Basic
import Courier.Proofs.Substitution

/-!
# The check of variables reports what substitution leaves

`references_substitute_eq_missing` says of whole requests what `references_substitute` says of one
text, and what follows for the two commands. The texts that substitution rewrites are the texts in
which the check looks for references (`substitutedTexts_substitute`), and leaving out the names that
have a value commutes with listing each name once (`firstOccurrences_filter`).
-/

namespace Courier

open Command

/-! ## Listing each name once -/

/-- Names are listed by going on from those seen before. -/
theorem firstOccurrences_append_singleton (names : List CodeText) (n : CodeText) :
    firstOccurrences (names ++ [n]) =
      if (firstOccurrences names).contains n then firstOccurrences names
      else firstOccurrences names ++ [n] := by
  rw [firstOccurrences, List.foldl_append]
  rfl

/-- Listing each name once drops all but the first occurrence. -/
theorem firstOccurrences_eq_eraseDups (names : List CodeText) :
    firstOccurrences names = names.eraseDups := by
  induction names using List.reverseRecOn with
  | nil => rfl
  | append_singleton names n ih =>
    rw [firstOccurrences_append_singleton, eraseDups_append_singleton, ih]
    simp only [List.contains_eq_mem, List.mem_eraseDups, decide_eq_true_eq]

/-- The names that are listed are the names that there are. -/
theorem mem_firstOccurrences {names : List CodeText} {n : CodeText} :
    n ∈ firstOccurrences names ↔ n ∈ names := by
  rw [firstOccurrences_eq_eraseDups, List.mem_eraseDups]

/-- No name is listed twice. -/
theorem nodup_firstOccurrences (names : List CodeText) : (firstOccurrences names).Nodup := by
  rw [firstOccurrences_eq_eraseDups]
  exact nodup_eraseDups names

/-- Leaving out names commutes with listing each name once. -/
theorem firstOccurrences_filter (p : CodeText → Bool) (names : List CodeText) :
    firstOccurrences (names.filter p) = (firstOccurrences names).filter p := by
  induction names using List.reverseRecOn with
  | nil => rfl
  | append_singleton names n ih =>
    rw [List.filter_append, firstOccurrences_append_singleton]
    -- a name that is kept is new among the names that are kept if it is new among all
    by_cases hp : p n = true
    · rw [List.filter_cons_of_pos hp, List.filter_nil, firstOccurrences_append_singleton, ih]
      by_cases hn : n ∈ firstOccurrences names
      · simp [hn, hp]
      · simp [hn, hp]
    · rw [List.filter_cons_of_neg hp, List.filter_nil, List.append_nil, ih]
      split
      · rfl
      · simp [hp]

/-! ## Whole requests -/

namespace Request

/-- The texts in which references count are the texts that substitution rewrites. -/
theorem substitutedTexts_substitute (scope : Scope) (r : Request) :
    (r.substitute scope).substitutedTexts = r.substitutedTexts.map (Courier.substitute scope) := by
  have hentries : ∀ es : List Entry,
      (es.map (substituteEntry scope)).flatMap (fun e => [e.key, e.value]) =
        (es.flatMap fun e => [e.key, e.value]).map (Courier.substitute scope) := by
    intro es
    rw [List.flatMap_map, List.map_flatMap]
    rfl
  have hfields : ((r.body.formData.map fun fs => fs.map (substituteField scope)).getD []).map
      Entry.value = ((r.body.formData.getD []).map Entry.value).map (Courier.substitute scope) := by
    cases r.body.formData with
    | none => rfl
    | some fs =>
      simp only [Option.map_some, Option.getD_some, List.map_map]
      rfl
  have hcontent : (r.body.content.map (Courier.substitute scope)).toList =
      r.body.content.toList.map (Courier.substitute scope) := by
    cases r.body.content <;> rfl
  unfold substitutedTexts substitute
  simp only
  rw [← List.map_append, hentries, hfields, hcontent]
  simp only [List.map_append, List.map_cons, List.map_nil]

/-- After substitution of plain values a request refers to exactly the names that had no value. -/
theorem references_substitute (scope : Scope) (hv : PlainValues scope.entries) (r : Request) :
    (r.substitute scope).references =
      r.references.filter fun n => (Scope.lookup? scope.entries n).isNone := by
  rw [references, references, ← firstOccurrences_filter, substitutedTexts_substitute,
    List.flatMap_map, List.filter_flatMap]
  simp only [Courier.references_substitute scope hv]

/-- A request has no references exactly when none of its texts has. -/
theorem references_eq_nil_iff (r : Request) :
    r.references = [] ↔ ∀ text ∈ r.substitutedTexts, Courier.references text = [] := by
  rw [references, List.eq_nil_iff_forall_not_mem]
  simp only [mem_firstOccurrences]
  rw [← List.eq_nil_iff_forall_not_mem, List.flatMap_eq_nil_iff]

end Request

/-! ## The two commands -/

namespace Command

/-- `check-vars` ends with success exactly when no variable is missing: a request without references
has none that are missing. -/
theorem status_reportCheck (scope : Scope) (r : Request) (o : Outcome) :
    (o.reportCheck (r.checkVariables scope)).status = .ok 0 ↔
      (r.checkVariables scope).missing = [] := by
  unfold Outcome.reportCheck
  split
  · rename_i hnone
    have hnil : r.references = [] := by
      simpa [Request.checkVariables, checkReferences] using hnone
    simp [Outcome.exit, Request.checkVariables, checkReferences, hnil]
  · by_cases hvalid : (r.checkVariables scope).missing = []
    · simp [VariableCheck.isValid, hvalid, Outcome.exit]
    · simp [VariableCheck.isValid, hvalid, Outcome.fail, Outcome.exit]

/-- Where the inputs are loaded, `check-vars` reports the check of the request as it is written. -/
theorem runCheckVars_of_load {m : Machine} {s : Sources} {inputs : Inputs}
    (h : s.load m = .ok inputs) :
    runCheckVars m s = (Outcome.start m.files).reportCheck
      (inputs.file.request.checkVariables ⟨inputs.environment, []⟩) := by
  rw [runCheckVars, h]

/-- Where the inputs are loaded, `send` goes on with the request whose variables are resolved. -/
theorem runSend_of_load {m : Machine} {a : SendArguments} {inputs : Inputs} {t : Transport}
    (h : a.sources.load m = .ok inputs) (ht : a.transport m = .ok t) :
    runSend m a =
      ((Outcome.start m.files).reportIf a.verbose (announcement inputs.request t)).exchange m a
        inputs.file.assertions inputs.request t := by
  rw [runSend, h]
  simp only
  rw [ht]

/-- The request that `send` executes is the request of the file after substitution; without an
environment there is nothing that could be substituted. -/
theorem references_request (inputs : Inputs)
    (hv : PlainValues (Scope.entries ⟨inputs.environment, []⟩)) :
    inputs.request.references =
      (inputs.file.request.checkVariables ⟨inputs.environment, []⟩).missing := by
  rw [Inputs.request]
  cases he : inputs.environment with
  | none =>
    exact (List.filter_eq_self.2 fun n _ => rfl).symm
  | some e =>
    rw [he] at hv
    exact Request.references_substitute ⟨some e, []⟩ hv _

end Command

/-- The check and the substitution of variables agree on whole requests. If every variable in use
has a value that is not empty and has no brace, then the references of the request after
substitution are the names that the check finds missing, each once and in the order in which the
texts of the request first name them; and a second check finds all that is left missing. So
`check-vars` succeeds exactly when no text of the request that `send` executes has a reference. -/
theorem references_substitute_eq_missing (scope : Scope) (hv : PlainValues scope.entries)
    (r : Request) :
    (r.substitute scope).references = (r.checkVariables scope).missing ∧
      (r.checkVariables scope).missing =
        (r.substitutedTexts.flatMap references).eraseDups.filter
          (fun n => (Scope.lookup? scope.entries n).isNone) ∧
      (r.checkVariables scope).missing.Nodup ∧
      ((r.substitute scope).checkVariables scope).references =
        ((r.substitute scope).checkVariables scope).missing ∧
      ∀ (m : Machine) (s : Sources) (inputs : Inputs), s.load m = .ok inputs →
        inputs.file.request = r → scope = ⟨inputs.environment, []⟩ →
        ((runCheckVars m s).status = .ok 0 ↔
            ∀ text ∈ inputs.request.substitutedTexts, references text = []) ∧
          ∀ (a : SendArguments) (t : Transport), a.sources = s → a.transport m = .ok t →
            runSend m a =
              ((Outcome.start m.files).reportIf a.verbose
                (announcement inputs.request t)).exchange m a inputs.file.assertions
                  inputs.request t := by
  have hleft : (r.substitute scope).references = (r.checkVariables scope).missing :=
    Request.references_substitute scope hv r
  refine ⟨hleft, ?_, (nodup_firstOccurrences _).filter _, ?_, ?_⟩
  · rw [← firstOccurrences_eq_eraseDups]
    rfl
  · -- what is left has no value, so the second check takes nothing away
    have hagain : ∀ n ∈ (r.substitute scope).references,
        (Scope.lookup? scope.entries n).isNone = true := by
      intro n hn
      rw [hleft] at hn
      exact (List.mem_filter.1 hn).2
    exact (List.filter_eq_self.2 hagain).symm
  · rintro m s inputs hload rfl rfl
    refine ⟨?_, ?_⟩
    · rw [runCheckVars_of_load hload, status_reportCheck, ← references_request inputs hv,
        Request.references_eq_nil_iff]
    · rintro a t rfl ht
      exact runSend_of_load hload ht

/-- A machine with a request, the URL of which has stray and nested braces, and an environment. -/
def bracesMachine : Machine :=
  ⟨[], [(["request"], .file (Text.Utf8.encode
      ("\x7bmethod: GET, url: 'http://\x7b\x7bhost\x7d\x7d/" ++
        "\x7b\x7bb\x7d\x7b\x7b host \x7d\x7d\x7d/\x7b\x7b\x7bid\x7d\x7d'\x7d"))),
    (["environment"], .file (Text.Utf8.encode "variables: [\x7bkey: host, value: h.test\x7d]"))],
    ⟨[], "", 0⟩, []⟩

/-- `send` with the files of `bracesMachine`. -/
def bracesSend : SendArguments :=
  ⟨⟨.ofText "request", some (.ofText "environment")⟩, none, none, false, none, true, none, false⟩

/-- `references_substitute_eq_missing` at files that load. -/
theorem references_substitute_eq_missing_braces :
    ∃ inputs t, bracesSend.sources.load bracesMachine = .ok inputs ∧
      bracesSend.transport bracesMachine = .ok t ∧
      PlainValues (Scope.entries ⟨inputs.environment, []⟩) ∧
      (inputs.file.request.substitute ⟨inputs.environment, []⟩).references =
        (inputs.file.request.checkVariables ⟨inputs.environment, []⟩).missing ∧
      ((runCheckVars bracesMachine bracesSend.sources).status = .ok 0 ↔
        ∀ text ∈ inputs.request.substitutedTexts, references text = []) ∧
      runSend bracesMachine bracesSend =
        (Outcome.start bracesMachine.files).exchange bracesMachine bracesSend
          inputs.file.assertions inputs.request t := by
  have hplain : (bracesSend.sources.load bracesMachine).toOption.any
      (fun i => decide (PlainValues (Scope.entries ⟨i.environment, []⟩))) = true := by
    decide +kernel
  have ht : bracesSend.transport bracesMachine = .ok (bracesSend.choose Transport.standard) := rfl
  obtain ⟨inputs, hload, hvalues⟩ := exists_eq_ok_of_any hplain
  have hv : PlainValues (Scope.entries ⟨inputs.environment, []⟩) := of_decide_eq_true hvalues
  obtain ⟨hleft, -, -, -, hcommands⟩ :=
    references_substitute_eq_missing ⟨inputs.environment, []⟩ hv inputs.file.request
  obtain ⟨hcheck, hsend⟩ := hcommands _ _ inputs hload rfl rfl
  exact ⟨inputs, _, hload, ht, hv, hleft, hcheck, hsend _ _ rfl ht⟩

end Courier
