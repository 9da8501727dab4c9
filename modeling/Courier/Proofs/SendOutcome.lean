import Courier.Proofs.Evaluation
import Courier.Proofs.Loading
import Courier.Proofs.VariableCheck
import Courier.Proofs.WrittenFiles

/-!
# What sending leaves behind

The exit code, the standard output and the files after `send` say what happened
(`runSend_tells`). A run has one of three ends. It fails before there is a response, and then nothing
but the standard error is written (`runSend_of_fails`). It has a response that cannot be written. Or
the response is written to one place, and the exit code says whether the assertions pass
(`runSend_of_isAnswered`, `judge_cases`).

What is only said on request goes to the standard error and nowhere else. Each step of a run changes
the rest of the outcome by what it finds there, without a look at the standard error (`muted_deliver`
and its like), so that a run says more without doing anything else (`muted_runSend`).
-/

namespace Courier.Command

/-! ## Steps of an outcome -/

namespace Outcome

/-- An outcome with another standard error. -/
def saying (o : Outcome) (words : CodeText) : Outcome := { o with errorOutput := words }

/-- An outcome without its standard error. -/
def muted (o : Outcome) : Outcome := o.saying []

@[simp] theorem output_saying (o : Outcome) (words : CodeText) :
    (o.saying words).output = o.output := rfl

@[simp] theorem output_print (o : Outcome) (line : CodeText) :
    (o.print line).output = o.output ++ line ++ "\n" := rfl

/-- Lines that are reported stand behind what was said before. -/
theorem exists_foldl_report (o : Outcome) (lines : List CodeText) :
    ∃ words, lines.foldl report o = o.saying (o.errorOutput ++ words) := by
  induction lines generalizing o with
  | nil => exact ⟨[], by rw [List.append_nil]; rfl⟩
  | cons line rest ih =>
    obtain ⟨words, hwords⟩ := ih (o.report line)
    refine ⟨line ++ "\n" ++ words, ?_⟩
    rw [List.foldl_cons, hwords, ← List.append_assoc, ← List.append_assoc]
    rfl

/-- So do lines for the standard error, whether or not they are asked for. -/
theorem exists_reportIf (o : Outcome) (wanted : Bool) (lines : List CodeText) :
    ∃ words, o.reportIf wanted lines = o.saying (o.errorOutput ++ words) := by
  cases wanted with
  | true => exact o.exists_foldl_report lines
  | false => exact ⟨[], by rw [List.append_nil]; rfl⟩

/-! ## What is only said on request -/

/-- Reported lines are not heard. -/
theorem muted_reportIf (o : Outcome) (wanted : Bool) (lines : List CodeText) :
    (o.reportIf wanted lines).muted = o.muted := by
  obtain ⟨words, hwords⟩ := o.exists_reportIf wanted lines
  rw [hwords]
  rfl

/-- Assertions are checked whatever was said. -/
theorem muted_judge (assertions : List Assertion) (r : Response) (o : Outcome) :
    (o.judge assertions r).muted = (o.muted.judge assertions r).muted := by
  unfold judge
  split
  · rfl
  · split
    · rfl
    · rfl

/-- A written response is judged alike with and without the line about it. -/
theorem muted_conclude (a : SendArguments) (assertions : List Assertion) (r : Response)
    (o : Outcome) : (o.conclude a assertions r).muted = (o.muted.judge assertions r).muted := by
  unfold conclude
  rw [muted_judge, muted_reportIf]

/-- A response is delivered whatever was said. -/
theorem muted_deliver (a : SendArguments) (verbose : Bool) (assertions : List Assertion)
    (r : Response) (o : Outcome) :
    (o.deliver a assertions r).muted =
      (o.muted.deliver { a with verbose := verbose } assertions r).muted := by
  unfold deliver
  -- The response goes to the standard output or to the file that is named, in both runs.
  cases hout : a.out with
  | none =>
    simp only
    rw [muted_conclude, muted_conclude]
    rfl
  | some path =>
    have hfiles : o.muted.files = o.files := rfl
    simp only [hfiles]
    split
    · rfl
    · rw [muted_conclude, muted_conclude]
      rfl

/-- A request is sent whatever was said. -/
theorem muted_exchange (m : Machine) (a : SendArguments) (verbose : Bool)
    (assertions : List Assertion) (request : Request) (t : Transport) (o : Outcome) :
    (o.exchange m a assertions request t).muted =
      (o.muted.exchange m { a with verbose := verbose } assertions request t).muted := by
  unfold exchange
  -- Both runs have the same client and the same reply; an error is told on the standard error only.
  split
  · rename_i e _
    unfold failBuild
    split
    · rfl
    · rfl
  · simp only
    split
    · rename_i e _
      unfold failExecute
      split
      · rfl
      · split
        · rfl
        · rfl
    · rw [muted_deliver a verbose]
      rfl

end Outcome

/-- Two runs of which one says more differ in the standard error at most. -/
theorem muted_runSend (m : Machine) (a : SendArguments) (verbose : Bool) :
    (runSend m { a with verbose := verbose }).muted = (runSend m a).muted := by
  have htransport : { a with verbose := verbose }.transport m = a.transport m := rfl
  unfold runSend
  simp only [htransport]
  split
  · rfl
  · split
    · rfl
    · -- Both runs go on as they would if nothing had been said.
      rw [Outcome.muted_exchange _ _ a.verbose, Outcome.muted_reportIf]
      conv_rhs => rw [Outcome.muted_exchange _ _ a.verbose, Outcome.muted_reportIf]

/-! ## A run without a response -/

/-- An outcome of which only the standard error and the exit code say anything: the code is one,
nothing is on the standard output, and the files are those of the machine. -/
structure Outcome.CameToNothing (m : Machine) (o : Outcome) : Prop where
  status : o.status = .ok 1
  output : o.output = []
  files : o.files = m.files

/-- Whether a run fails before there is a response: a file is not loaded, no client can be made, or
the request is not answered, with an error that is reported. The user may also break the run off. -/
inductive SendArguments.Fails (m : Machine) (a : SendArguments) : Prop
  | load {kind : FileKind} {path : FilePath} {c : ConfigError}
    (h : a.FailsAt m kind path (.config c))
  | build {inputs : Inputs} {t : Transport} {e : BuildError}
    (hinputs : a.sources.load m = .ok inputs) (ht : a.transport m = .ok t)
    (h : Session.opened m.files t = .error e) (hreported : e.isReported = true)
  | execute {inputs : Inputs} {t : Transport} {session : Session} {e : ExecuteError}
    (hinputs : a.sources.load m = .ok inputs) (ht : a.transport m = .ok t)
    (hsession : Session.opened m.files t = .ok session)
    (h : (session.execute m.surroundings m.clock inputs.request).outcome = .error e)
    (hreported : e.isReported = true ∨ Outcome.isInterrupt e = true)

/-- Whether a run has a response: its files are loaded, a client is made, and the request is
answered. -/
structure SendArguments.IsAnswered (m : Machine) (a : SendArguments) (inputs : Inputs)
    (t : Transport) (r : Response) : Prop where
  load : a.sources.load m = .ok inputs
  transport : a.transport m = .ok t
  answer : ∃ session, Session.opened m.files t = .ok session ∧
    (session.execute m.surroundings m.clock inputs.request).outcome = .ok r

section Run

variable {m : Machine} {a : SendArguments} {inputs : Inputs} {t : Transport} {r : Response}

/-- A run ends at the first file that is not loaded. -/
theorem runSend_of_failsAt {kind : FileKind} {path : FilePath} {e : LoadError}
    (h : a.FailsAt m kind path e) : runSend m a = (Outcome.start m.files).failLoad e := by
  unfold runSend
  cases h with
  | sources h =>
    have hload : a.sources.load m = .error e := by
      unfold Sources.load
      cases h with
      | request h => rw [h]; rfl
      | environment hfile hpath h =>
        rw [hfile, hpath]
        simp only [bind, Except.bind, h]
    rw [hload]
  | transport hinputs hpath h =>
    have htransport : a.transport m = .error e := by
      unfold SendArguments.transport
      rw [hpath]
      simp only [h, Except.map]
    rw [hinputs]
    simp only [htransport]

/-- The rest of a run whose files are loaded, for assertions that are given. -/
def exchangeOf (m : Machine) (a : SendArguments) (inputs : Inputs) (t : Transport)
    (assertions : List Assertion) : Outcome :=
  ((Outcome.start m.files).reportIf a.verbose (announcement inputs.request t)).exchange m a
    assertions inputs.request t

/-- What is said about a request leaves the rest of the outcome as it begins. -/
theorem exists_before (m : Machine) (wanted : Bool) (lines : List CodeText) :
    ∃ said, (Outcome.start m.files).reportIf wanted lines = ⟨.ok 0, [], said, [], m.files⟩ := by
  obtain ⟨words, hwords⟩ := (Outcome.start m.files).exists_reportIf wanted lines
  exact ⟨_, hwords⟩

/-- A run that fails comes to nothing. -/
theorem runSend_of_fails (h : a.Fails m) : (runSend m a).CameToNothing m := by
  cases h with
  | load h =>
    rw [runSend_of_failsAt h]
    exact ⟨rfl, rfl, rfl⟩
  | build hinputs ht h hreported =>
    rw [runSend_of_load hinputs ht]
    obtain ⟨said, hsaid⟩ := exists_before m a.verbose (announcement _ _)
    rw [hsaid, Outcome.exchange, h]
    simp only [Outcome.failBuild, hreported, if_true]
    exact ⟨rfl, rfl, rfl⟩
  | execute hinputs ht hsession h hreported =>
    rw [runSend_of_load hinputs ht]
    obtain ⟨said, hsaid⟩ := exists_before m a.verbose (announcement _ _)
    rw [hsaid, Outcome.exchange, hsession]
    simp only [h, Outcome.failExecute]
    split
    · exact ⟨rfl, rfl, rfl⟩
    · rename_i hunreported
      rw [if_pos (hreported.resolve_left hunreported)]
      exact ⟨rfl, rfl, rfl⟩

/-- A run with a response delivers it, and nothing before that depends on the assertions. -/
theorem runSend_of_isAnswered (h : a.IsAnswered m inputs t r) :
    ∃ said sent, (∀ others, exchangeOf m a inputs t others =
        (⟨.ok 0, [], said, sent, m.files⟩ : Outcome).deliver a others r) ∧
      runSend m a = exchangeOf m a inputs t inputs.file.assertions := by
  obtain ⟨hinputs, ht, session, hsession, hanswer⟩ := h
  obtain ⟨said, hsaid⟩ := exists_before m a.verbose (announcement inputs.request t)
  refine ⟨said, (session.execute m.surroundings m.clock inputs.request).sent, fun others => ?_,
    runSend_of_load hinputs ht⟩
  rw [exchangeOf, hsaid, Outcome.exchange, hsession]
  simp only [hanswer]

/-- A run that has an exit code fails or has a response. -/
theorem fails_or_isAnswered {code : Nat} (h : (runSend m a).status = .ok code) :
    a.Fails m ∨ ∃ inputs t r, a.IsAnswered m inputs t r := by
  obtain ⟨inputs, t, hinputs, ht⟩ | ⟨kind, path, e, hfails, hends⟩ := runSend_cases m a
  · -- All files are loaded. A client that cannot be made ends the run, and so does an error in place
    -- of a response; the errors that are not reported leave no exit code.
    rw [runSend_of_load hinputs ht, Outcome.exchange] at h
    cases hsession : Session.opened m.files t with
    | error e =>
      rw [hsession] at h
      simp only [Outcome.failBuild] at h
      split at h
      · rename_i hreported
        exact .inl (.build hinputs ht hsession hreported)
      · cases h
    | ok session =>
      rw [hsession] at h
      simp only at h
      cases hexecute : (session.execute m.surroundings m.clock inputs.request).outcome with
      | error e =>
        rw [hexecute] at h
        simp only [Outcome.failExecute] at h
        split at h
        · rename_i hreported
          exact .inl (.execute hinputs ht hsession hexecute (.inl hreported))
        · split at h
          · rename_i hinterrupt
            exact .inl (.execute hinputs ht hsession hexecute (.inr hinterrupt))
          · cases h
      | ok r => exact .inr ⟨inputs, t, r, hinputs, ht, session, hsession, hexecute⟩
  · -- A file is not loaded, with an error that is reported or one that is not.
    obtain ⟨-, c, rfl, -⟩ | ⟨-, ho⟩ := hends
    · exact .inl (.load hfails)
    · rw [ho] at h
      cases h

end Run

/-! ## A run with a response -/

/-- The file with a written response. -/
def responseFile (r : Response) : List UInt8 := Text.Utf8.encode (responseText r ++ "\n")

/-- The line that counts the verdicts. -/
def tally (passed failed : Nat) : String := s!"Assertions: {passed} passed, {failed} failed"

/-- A report ends with the counts of the verdicts that pass and of those that fail. -/
theorem report_eq (vs : List Verdict) :
    Verdict.report vs = ("\n" : CodeText).intercalate (vs.map Verdict.line ++
      [.ofString (tally (vs.countP fun v => v.passed) (vs.countP fun v => !v.passed))]) := by
  have hcount : vs.length - vs.countP (fun v => !v.passed) = vs.countP fun v => v.passed := by
    have hall := List.length_eq_countP_add_countP (fun v : Verdict => v.passed) (l := vs)
    simp only [Bool.not_eq_true, Bool.decide_eq_false] at hall
    omega
  rw [Verdict.report, hcount]
  rfl

/-- All verdicts pass exactly if no one fails. -/
theorem all_passed_iff (vs : List Verdict) :
    (vs.all fun v => v.passed) = true ↔ vs.countP (fun v => !v.passed) = 0 := by
  rw [List.all_eq_true, List.countP_eq_zero]
  simp only [Bool.not_eq_true', Bool.not_eq_false]

/-- All verdicts pass exactly if all assertions do. -/
theorem all_passed_iff_passes {r : Response} {as : List Assertion} {vs : List Verdict}
    (h : List.Forall₂ (Assertion.Answers r) as vs) :
    (vs.all fun v => v.passed) = true ↔ ∀ b ∈ as, b.Passes r := by
  induction h with
  | nil => simp
  | cons hfirst hrest ih => rw [List.all_cons, Bool.and_eq_true, hfirst.passed, ih,
      List.forall_mem_cons]

namespace Outcome

/-- A response is delivered: it is printed and no file is touched, or it is in the file that is
named, and whatever stands at another place stays there. -/
structure Delivers (m : Machine) (a : SendArguments) (r : Response) (o : Outcome) : Prop where
  printed : a.out = none → o.output = responseText r ++ "\n" ∧ o.files = m.files
  written : ∀ path, a.out = some path →
    o.output = "Response written to: " ++ path.text ++ "\n" ∧
      o.files.content path = .ok (responseFile r) ∧
      ∃ place, o.files.find path = .node place (.file (responseFile r)) ∧
        ∀ q n, q ≠ place → m.files.at? q = some n → o.files.at? q = some n

/-- An exit code tells whether the assertions pass on a response, and so does the tally on the
standard error, which is there if there are any. -/
structure Tells (assertions : List Assertion) (r : Response) (code : Nat) (o : Outcome) : Prop where
  zero_or_one : code = 0 ∨ code = 1
  passes : code = 0 ↔ ∀ b ∈ assertions, b.Passes r
  counts : assertions ≠ [] → ∃ said vs, evaluateAll r assertions = .ok vs ∧
    o.errorOutput = said ++ ("\n" : CodeText).intercalate (vs.map Verdict.line ++
      [.ofString (tally (vs.countP fun v => v.passed) (vs.countP fun v => !v.passed))]) ++ "\n" ∧
    vs.length = assertions.length ∧ (code = 0 ↔ vs.countP (fun v => !v.passed) = 0)

variable {m : Machine} {a : SendArguments} {r : Response} {assertions : List Assertion}

/-- Judging a response leaves what is delivered, and ends with an exit code that tells exactly if all
assertions have a verdict. -/
theorem judge_cases (assertions : List Assertion) (r : Response) (o : Outcome) :
    (o.judge assertions r).output = o.output ∧ (o.judge assertions r).files = o.files ∧
      ((∃ code, (o.judge assertions r).status = .ok code) ↔
        ∀ b ∈ assertions, b.IsEvaluable r) ∧
      ∀ code, (o.judge assertions r).status = .ok code →
        (o.judge assertions r).Tells assertions r code := by
  unfold judge
  split
  · -- Without assertions all of them pass, and there is no tally.
    rename_i hnone
    rw [List.isEmpty_iff] at hnone
    subst hnone
    refine ⟨rfl, rfl, iff_of_true ⟨0, rfl⟩ (by simp), ?_⟩
    intro code hcode
    cases hcode
    exact ⟨.inl rfl, iff_of_true rfl (by simp), fun h => (h rfl).elim⟩
  · obtain ⟨hall, vs, hvs, hanswers⟩ | ⟨hsome, f, hf⟩ := evaluateAll_cases r assertions
    · rw [hvs]
      refine ⟨rfl, rfl, iff_of_true ⟨_, rfl⟩ hall, ?_⟩
      intro code hcode
      -- The exit code and the tally are made of the same verdicts.
      have hzero : code = 0 ↔ (vs.all fun v => v.passed) = true := by
        cases hcode
        split
        · simp [*]
        · simp [*]
      refine ⟨?_, hzero.trans (all_passed_iff_passes hanswers), fun _ => ?_⟩
      · cases hcode
        split
        · exact .inl rfl
        · exact .inr rfl
      · refine ⟨o.errorOutput, vs, hvs, ?_, hanswers.length_eq.symm,
          hzero.trans (all_passed_iff vs)⟩
        rw [← report_eq]
        rfl
    · -- An assertion without a verdict ends the run, once the response is delivered.
      rw [hf]
      exact ⟨rfl, rfl, iff_of_false nofun hsome, nofun⟩

/-- Whether a response is delivered is seen in the standard output and the files. -/
theorem Delivers.congr {o o' : Outcome} (h : o.Delivers m a r) (houtput : o'.output = o.output)
    (hfiles : o'.files = o.files) : o'.Delivers m a r where
  printed := by
    rw [houtput, hfiles]
    exact h.printed
  written := by
    rw [houtput, hfiles]
    exact h.written

/-- A response that cannot be written is not judged. -/
theorem deliver_of_unwritten {path : FilePath} {e : FileError} (hout : a.out = some path)
    (hwrite : (m.files.writeDeep path (responseFile r)).2 = some e) (assertions : List Assertion)
    (said : CodeText) (sent : List WireRequest) :
    (⟨.ok 0, [], said, sent, m.files⟩ : Outcome).deliver a assertions r =
      ⟨.ok 1, [], said ++ ("Error: cannot write response to " ++ path.text ++ ": " ++ e.message) ++
        "\n", sent, (m.files.writeDeep path (responseFile r)).1⟩ := by
  unfold deliver
  rw [hout]
  simp only
  unfold responseFile at hwrite ⊢
  generalize m.files.writeDeep path (Text.Utf8.encode (responseText r ++ "\n")) = written at hwrite ⊢
  obtain ⟨files, outcome⟩ := written
  simp only at hwrite
  subst hwrite
  rfl

/-- A response for the standard output is delivered there, and then judged. -/
theorem deliver_of_printed (hout : a.out = none) (assertions : List Assertion) (said : CodeText)
    (sent : List WireRequest) :
    ∃ o : Outcome, o.Delivers m a r ∧
      (⟨.ok 0, [], said, sent, m.files⟩ : Outcome).deliver a assertions r =
        o.judge assertions r := by
  obtain ⟨words, hwords⟩ := exists_reportIf (print ⟨.ok 0, [], said, sent, m.files⟩
    (responseText r)) a.verbose [r.headline]
  unfold deliver conclude
  rw [hout]
  refine ⟨_, ?_, rfl⟩
  rw [hwords]
  constructor
  · rintro -
    refine ⟨?_, rfl⟩
    rw [output_saying, output_print, List.nil_append]
  · intro path hpath
    rw [hout] at hpath
    cases hpath

/-- A response for a file that can be written is delivered there, and then judged. -/
theorem deliver_of_written {path : FilePath} (hout : a.out = some path)
    (hwrite : (m.files.writeDeep path (responseFile r)).2 = none) (assertions : List Assertion)
    (said : CodeText) (sent : List WireRequest) :
    ∃ o : Outcome, o.Delivers m a r ∧
      (⟨.ok 0, [], said, sent, m.files⟩ : Outcome).deliver a assertions r =
        o.judge assertions r := by
  unfold deliver conclude
  rw [hout]
  unfold responseFile at hwrite
  simp only
  -- The written files are named, so that nothing below computes them.
  generalize hfiles : m.files.writeDeep path (Text.Utf8.encode (responseText r ++ "\n")) =
    written at hwrite ⊢
  obtain ⟨files, outcome⟩ := written
  simp only at hwrite
  subst hwrite
  obtain ⟨words, hwords⟩ := exists_reportIf (print ⟨.ok 0, [], said, sent, files⟩
    ("Response written to: " ++ path.text)) a.verbose [r.headline]
  refine ⟨_, ?_, rfl⟩
  rw [hwords]
  constructor
  · intro hnone
    rw [hout] at hnone
    cases hnone
  · intro path' hpath
    rw [hout] at hpath
    cases hpath
    obtain ⟨-, place, hfind, hkeeps⟩ | ⟨hnone, -⟩ := Files.writeDeep_cases hfiles
    · refine ⟨?_, Files.content_of_find hfind, place, hfind, hkeeps⟩
      rw [output_saying, output_print, List.nil_append]
    · exact (hnone rfl).elim

end Outcome

/-- What `send` leaves behind tells what happened. -/
structure TellsTheTruth (m : Machine) (a : SendArguments) : Prop where
  /-- If a file is not loaded or there is no response, with an error that is reported, the exit code
  is one, nothing is printed, and the files are as before. -/
  failed : a.Fails m → (runSend m a).CameToNothing m
  /-- If the response cannot be written, the exit code is one, nothing is printed, and whatever stood
  in the files is still there. The run is the same for all assertions, so none is looked at. -/
  unwritten : ∀ inputs t r path e, a.IsAnswered m inputs t r → a.out = some path →
    (m.files.writeDeep path (responseFile r)).2 = some e →
      (runSend m a).status = .ok 1 ∧ (runSend m a).output = [] ∧
        m.files.Keeps (runSend m a).files ∧
        ∀ others, exchangeOf m a inputs t others = runSend m a
  /-- Otherwise the response is printed, or is in the file that is named. There is an exit code
  exactly if all assertions have a verdict; it is zero exactly if they all pass, and exactly if the
  tally counts no failure. -/
  delivered : ∀ inputs t r, a.IsAnswered m inputs t r →
    (∀ path, a.out = some path → (m.files.writeDeep path (responseFile r)).2 = none) →
      (runSend m a).Delivers m a r ∧
        ((∃ code, (runSend m a).status = .ok code) ↔
          ∀ b ∈ inputs.file.assertions, b.IsEvaluable r) ∧
        ∀ code, (runSend m a).status = .ok code →
          (runSend m a).Tells inputs.file.assertions r code
  /-- There are no other runs with an exit code. -/
  nothing_else : ∀ code, (runSend m a).status = .ok code →
    a.Fails m ∨ ∃ inputs t r, a.IsAnswered m inputs t r
  /-- A run that says more sends the same requests, prints the same, leaves the same files and ends
  in the same way. -/
  aloud : ∀ verbose, (runSend m { a with verbose := verbose }).sent = (runSend m a).sent ∧
    (runSend m { a with verbose := verbose }).output = (runSend m a).output ∧
    (runSend m { a with verbose := verbose }).files = (runSend m a).files ∧
    (runSend m { a with verbose := verbose }).status = (runSend m a).status

/-- The exit code, the output and the files of every run tell what happened. -/
theorem runSend_tells (m : Machine) (a : SendArguments) : TellsTheTruth m a where
  failed := runSend_of_fails
  unwritten := by
    intro inputs t r path e hanswered hout hwrite
    obtain ⟨said, sent, hexchange, hrun⟩ := runSend_of_isAnswered hanswered
    -- The assertions do not occur in what a failed writing leaves behind.
    have hsame : ∀ others, exchangeOf m a inputs t others = _ := fun others =>
      (hexchange others).trans (Outcome.deliver_of_unwritten hout hwrite others said sent)
    have hkeeps := Files.keeps_of_unwritten hwrite
    rw [hrun, hsame]
    exact ⟨rfl, rfl, hkeeps, hsame⟩
  delivered := by
    intro inputs t r hanswered hwrite
    obtain ⟨said, sent, hexchange, hrun⟩ := runSend_of_isAnswered hanswered
    -- Judging comes last and touches neither the output nor the files.
    have hdelivered : ∃ o : Outcome, o.Delivers m a r ∧
        (⟨.ok 0, [], said, sent, m.files⟩ : Outcome).deliver a inputs.file.assertions r =
          o.judge inputs.file.assertions r := by
      cases hout : a.out with
      | none => exact Outcome.deliver_of_printed hout _ said sent
      | some path => exact Outcome.deliver_of_written hout (hwrite path hout) _ said sent
    obtain ⟨o, hdelivers, ho⟩ := hdelivered
    obtain ⟨houtput, hfiles, hstatus, htells⟩ := Outcome.judge_cases inputs.file.assertions r o
    rw [hrun, hexchange, ho]
    exact ⟨hdelivers.congr houtput hfiles, hstatus, htells⟩
  nothing_else := fun _ => fails_or_isAnswered
  aloud := by
    intro verbose
    have hmuted := muted_runSend m a verbose
    have hsent : (runSend m { a with verbose := verbose }).muted.sent = (runSend m a).muted.sent :=
      congrArg Outcome.sent hmuted
    have houtput : (runSend m { a with verbose := verbose }).muted.output =
        (runSend m a).muted.output := congrArg Outcome.output hmuted
    have hfiles : (runSend m { a with verbose := verbose }).muted.files =
        (runSend m a).muted.files := congrArg Outcome.files hmuted
    have hstatus : (runSend m { a with verbose := verbose }).muted.status =
        (runSend m a).muted.status := congrArg Outcome.status hmuted
    exact ⟨hsent, houtput, hfiles, hstatus⟩

/-- A machine with a request file that expects a page, and a server without one. -/
def missingPageMachine : Machine :=
  ⟨[], [(["request"], .file (Text.Utf8.encode
      ("\x7bmethod: GET, url: 'http://h.test/', " ++
        "assertions: [\x7bsubject: status, value: 200\x7d]\x7d")))],
    ⟨[.reply ⟨404, [], [], none⟩], "", 0⟩, []⟩

/-- `send` with the request file of `missingPageMachine`, and with a file for the response in a
directory that is not there. -/
def missingPageSend : SendArguments :=
  ⟨⟨.ofText "request", none⟩, none, none, false, none, true, some (.ofText "replies/first"), false⟩

/-- `runSend_tells` at a response that is written and fails its assertion. -/
theorem runSend_tells_missingPage :
    ∃ inputs t r, missingPageSend.IsAnswered missingPageMachine inputs t r ∧
      (missingPageMachine.files.writeDeep (.ofText "replies/first") (responseFile r)).2 = none ∧
      (runSend missingPageMachine missingPageSend).Delivers missingPageMachine missingPageSend r ∧
      (runSend missingPageMachine missingPageSend).Tells inputs.file.assertions r 1 := by
  -- That there is a response with a verdict that fails is computed; the rest follows from it.
  let session := Session.start Transport.standard
  have hanswers : (missingPageSend.sources.load missingPageMachine).toOption.any (fun inputs =>
      (session.execute missingPageMachine.surroundings [] inputs.request).outcome.toOption.any
        fun r => (evaluateAll r inputs.file.assertions).toOption.any
          fun vs => vs.any fun v => !v.passed) = true := by
    decide +kernel
  obtain ⟨inputs, hload, hexecutes⟩ := exists_eq_ok_of_any hanswers
  obtain ⟨r, hexecute, hjudges⟩ := exists_eq_ok_of_any hexecutes
  obtain ⟨vs, hvs, hfailed⟩ := exists_eq_ok_of_any hjudges
  have hanswered : missingPageSend.IsAnswered missingPageMachine inputs Transport.standard r :=
    ⟨hload, rfl, session, rfl, hexecute⟩
  have hwritten : ∀ bs,
      (missingPageMachine.files.writeDeep (.ofText "replies/first") bs).2 = none := fun _ => rfl
  obtain ⟨hdelivers, hstatus, htells⟩ :=
    (runSend_tells missingPageMachine missingPageSend).delivered _ _ _ hanswered fun path hpath => by
      cases hpath
      exact hwritten _
  obtain ⟨hall, vs', hvs', hverdicts⟩ | ⟨-, f, hf⟩ := evaluateAll_cases r inputs.file.assertions
  · cases hvs.symm.trans hvs'
    obtain ⟨code, hcode⟩ := hstatus.2 hall
    have hone : code = 1 := by
      refine (htells code hcode).zero_or_one.resolve_left fun hzero => ?_
      have hpassed := (all_passed_iff_passes hverdicts).2 ((htells code hcode).passes.1 hzero)
      rw [List.all_eq_not_any_not, hfailed] at hpassed
      cases hpassed
    rw [hone] at hcode
    exact ⟨inputs, _, r, hanswered, hwritten _, hdelivers, htells 1 hcode⟩
  · rw [hvs] at hf
    cases hf

end Courier.Command
