import Courier.Client.Build
import Courier.Command.Inputs
import Courier.Proofs.Basic
import Courier.Proofs.ExactValue
import Courier.Proofs.NormalForm
import Courier.Proofs.Numeral

/-!
# The timeout of `send`

The timeout that a request is sent with is a number above zero, unless the command line asks for
what is no number (`timeout_isPositive_iff`). A timeout of a file has passed the check of settings.
One of the command line takes its place without that check. It has passed another, which asks
whether the number is zero or below, and what is no number is neither (`positiveNumber_eq_ok_iff`).

Of several texts for the timeout the last one counts. One option sets the timeout or leaves it as it
is (`timeout_of_take`), and all of them together do by induction on the steps of the command line
(`timeout_of_takeAll`).
-/

namespace Courier

/-! ## Numbers above zero -/

namespace Double

/-- Whether a double is a number above zero. Infinity is one. -/
def IsPositive (x : Double) : Prop := ∃ p, x.exactValue? = some p ∧ .ofRat 0 < p

/-- Zero has no size at any exponent. -/
theorem aligned_zero (negative : Bool) (e low : Int) : aligned negative 0 e low = 0 := by
  cases negative <;> simp [aligned, signed]

/-- A finite double is above zero as the fraction is that it stands for. -/
theorem isPositive_finite_iff (negative : Bool) (m : ℕ) (e : ℤ) :
    (finite negative m e).IsPositive ↔ (0 : ℚ) < signed negative m * 2 ^ e := by
  rw [← Exact.ofRat_lt_ofRat_iff]
  constructor
  · rintro ⟨p, hp, hlt⟩
    cases hp
    exact hlt
  · exact fun hlt => ⟨_, rfl, hlt⟩

/-- What is above zero is told exactly. -/
theorem isPositive_iff (x : Double) : x.IsPositive ↔ (zero false).lt x = true := by
  cases x with
  | nan =>
    refine iff_of_false ?_ nofun
    rintro ⟨p, hp, -⟩
    cases hp
  | infinite negative =>
    cases negative with
    | true =>
      refine iff_of_false ?_ nofun
      rintro ⟨p, hp, hlt⟩
      cases hp
      exact not_lt_bot hlt
    | false => exact iff_of_true ⟨⊤, rfl, WithBot.coe_lt_coe.2 (WithTop.coe_lt_top 0)⟩ rfl
  | finite negative m e =>
    -- both numbers are compared at the lesser exponent, where zero is zero still
    have hlt : (zero false).lt (finite negative m e) =
        decide (0 < aligned negative m e (min minExponent e)) := by
      rw [zero, lt, aligned_zero]
    have hpower : (0 : ℚ) < 2 ^ min minExponent e := zpow_pos two_pos _
    rw [hlt, decide_eq_true_eq, isPositive_finite_iff,
      ← aligned_mul (min_le_right minExponent e) negative m, mul_pos_iff_of_pos_right hpower,
      Int.cast_pos]

/-- A number is above zero unless it is below zero or equal to it. -/
theorem lt_zero_or_eq_zero {x : Double} (h : x ≠ nan) :
    (x.lt (zero false) || x.eq (zero false)) = !(zero false).lt x := by
  cases x with
  | nan => exact (h rfl).elim
  | infinite negative => cases negative <;> rfl
  | finite negative m e =>
    simp only [zero, lt, eq, aligned_zero, min_comm e]
    rw [← Bool.decide_or, ← decide_not, decide_eq_decide]
    omega

end Double

namespace Command

/-! ## The number on the command line -/

/-- A number of seconds is accepted if it is above zero; so is what is no number. -/
theorem positiveNumber_eq_ok_iff {s : String} {x : Double} :
    positiveNumber s = .ok x ↔ Numeral.double? s = some x ∧ (x = .nan ∨ x.IsPositive) := by
  unfold positiveNumber
  cases hread : Numeral.double? s with
  | none => exact iff_of_false nofun fun h => nomatch h.1
  | some y =>
    by_cases hnan : y = .nan
    · -- both comparisons fail, and so the text is not refused
      subst hnan
      constructor
      · rintro ⟨⟩
        exact ⟨rfl, .inl rfl⟩
      · rintro ⟨⟨⟩, -⟩
        rfl
    · simp only [Double.lt_zero_or_eq_zero hnan]
      by_cases hpos : y.IsPositive
      · rw [y.isPositive_iff.1 hpos]
        constructor
        · rintro ⟨⟩
          exact ⟨rfl, .inr hpos⟩
        · rintro ⟨⟨⟩, -⟩
          rfl
      · rw [Bool.eq_false_iff.2 (mt y.isPositive_iff.2 hpos)]
        refine iff_of_false nofun ?_
        rintro ⟨⟨⟩, hx⟩
        exact hx.elim hnan hpos

/-- The number that is accepted is above zero unless its text writes what is no number. -/
theorem isPositive_iff_of_positiveNumber {s : String} {x : Double} (h : positiveNumber s = .ok x) :
    x.IsPositive ↔ ¬ Numeral.WritesNan s := by
  obtain ⟨hdouble, hx⟩ := positiveNumber_eq_ok_iff.1 h
  have hnan : x = .nan ↔ Numeral.WritesNan s := by
    rw [← Numeral.double?_eq_nan_iff, hdouble, Option.some_inj]
  rw [← hnan]
  constructor
  · rintro ⟨p, hp, -⟩ rfl
    cases hp
  · exact hx.resolve_left

/-- A text is refused or gives a number above zero, unless it writes what is no number. -/
theorem positiveNumber_of_not_writesNan {s : String} (h : ¬ Numeral.WritesNan s) :
    (∃ e, positiveNumber s = .error e) ∨ ∃ x, positiveNumber s = .ok x ∧ x.IsPositive := by
  cases hread : positiveNumber s with
  | error e => exact .inl ⟨e, rfl⟩
  | ok x => exact .inr ⟨x, rfl, (isPositive_iff_of_positiveNumber hread).2 h⟩

/-- What is no number is accepted where it is written. -/
theorem positiveNumber_of_writesNan {s : String} (h : Numeral.WritesNan s) :
    positiveNumber s = .ok .nan :=
  positiveNumber_eq_ok_iff.2 ⟨(Numeral.double?_eq_nan_iff s).2 h, .inl rfl⟩

/-! ## The options of a command line -/

/-- The texts that steps give to an option, in order. -/
def textsOf (tag : Setting) (steps : List (Step Setting)) : List String :=
  steps.filterMap fun
    | .use o value => if o.tag = tag then some (value.getD "") else none
    | _ => none

/-- The texts that a command line gives for the timeout of `send`, in order. -/
def timeoutTexts (words : List String) : List String :=
  match Word.readAll Page.send.options words.tail with
  | .ok read => textsOf .timeout (Step.ofWords Page.send.options read)
  | .error _ => []

namespace Draft

variable {page : Page} {d d' : Draft} {o : OptionSpec Setting} {value : String}

/-- One option sets the timeout to the number that is read of its text, or leaves it as it is. -/
theorem timeout_of_take (h : d.take page o value = .ok d') :
    (o.tag = .timeout ∧ ∃ x, positiveNumber value = .ok x ∧ d'.arguments.timeout = some x) ∨
      (o.tag ≠ .timeout ∧ d'.arguments.timeout = d.arguments.timeout) := by
  unfold take at h
  cases htag : o.tag with
  | timeout =>
    simp only [htag] at h
    cases hread : positiveNumber value with
    | error e =>
      rw [hread] at h
      cases h
    | ok x =>
      rw [hread] at h
      cases h
      exact .inl ⟨rfl, x, rfl, rfl⟩
  | verifySsl =>
    simp only [htag] at h
    split at h
    · cases h
    · cases h
      exact .inr ⟨nofun, rfl⟩
  | caBundle =>
    simp only [htag] at h
    split at h
    · cases h
    · cases h
      exact .inr ⟨nofun, rfl⟩
  | help =>
    simp only [htag] at h
    cases h
  | _ =>
    simp only [htag] at h
    cases h
    exact .inr ⟨nofun, rfl⟩

/-- After all options the timeout is the number that is read of the last text given for it. -/
theorem timeout_of_takeAll {steps : List (Step Setting)} (h : takeAll page d steps = .ok d') :
    (textsOf .timeout steps = [] ∧ d'.arguments.timeout = d.arguments.timeout) ∨
      ∃ text x, (textsOf .timeout steps).getLast? = some text ∧ positiveNumber text = .ok x ∧
        d'.arguments.timeout = some x := by
  induction steps generalizing d with
  | nil =>
    cases h
    exact .inl ⟨rfl, rfl⟩
  | cons step rest ih =>
    cases step with
    | error e => cases h
    | extra word =>
      unfold takeAll at h
      have hlater := ih h
      exact hlater
    | use o value =>
      obtain ⟨d₁, htake, h⟩ := bind_eq_ok_iff.1 h
      have hlater := ih h
      obtain ⟨htag, x, hread, hfirst⟩ | ⟨htag, hfirst⟩ := timeout_of_take htake
      · have htexts : textsOf .timeout (.use o value :: rest) =
            value.getD "" :: textsOf .timeout rest :=
          List.filterMap_cons_some (if_pos htag)
        rw [htexts]
        right
        -- the text counts if no other one comes behind it
        obtain ⟨hnone, hkept⟩ | ⟨text, y, hlast, hy, htimeout⟩ := hlater
        · exact ⟨value.getD "", x, by rw [hnone]; rfl, hread, hkept.trans hfirst⟩
        · refine ⟨text, y, ?_, hy, htimeout⟩
          rw [List.getLast?_cons, hlast]
          rfl
      · have htexts : textsOf .timeout (.use o value :: rest) = textsOf .timeout rest :=
          List.filterMap_cons_none (if_neg htag)
        rw [htexts, ← hfirst]
        exact hlater

end Draft

/-- A command is refused if words were left aside. -/
theorem refuseExtras_eq_ok {extras : List String} {c c' : Invocation}
    (h : refuseExtras extras c = .ok c') : extras = [] ∧ c = c' := by
  unfold refuseExtras at h
  split at h
  · rename_i hempty
    exact ⟨List.isEmpty_iff.1 hempty, Except.ok.inj h⟩
  · cases h

section Reading

variable {extras words : List String} {a : SendArguments}

/-- A command that is `send` has its arguments, and no word was left aside. -/
theorem readCommand_eq_send {name : String} (h : readCommand extras name words = .ok (.send a)) :
    extras = [] ∧ ∃ more, readDraft .send words = .ok (a, more) := by
  unfold readCommand at h
  -- the names are `send`, `check-vars` and those of no command
  split at h
  · obtain ⟨⟨b, more⟩, hdraft, hrefuse⟩ := bind_eq_ok_iff.1 h
    obtain ⟨hextras, hsame⟩ := refuseExtras_eq_ok hrefuse
    cases hsame
    exact ⟨(List.append_eq_nil_iff.1 hextras).1, more, hdraft⟩
  · obtain ⟨read, -, hrefuse⟩ := bind_eq_ok_iff.1 h
    cases (refuseExtras_eq_ok hrefuse).2
  · cases h

/-- Nothing stands in front of a command that is read. -/
theorem readLeading_eq_send (h : readLeading extras words = .ok (.send a)) :
    extras = [] ∧ ∃ more, readDraft .send words.tail = .ok (a, more) := by
  induction words generalizing extras with
  | nil => cases h
  | cons word rest ih =>
    unfold readLeading at h
    split at h
    · split at h
      · cases h
      · cases h
    · split at h
      · cases h
      · exact readCommand_eq_send h
      · split at h
        · cases h
        · cases h
      · -- a word that is left aside is never taken up again
        obtain ⟨hextras, -⟩ := ih h
        exact (List.append_ne_nil_of_right_ne_nil extras (List.cons_ne_nil _ _) hextras).elim

/-- The arguments of a command come of the steps of its words. -/
theorem readDraft_eq_ok {page : Page} {more : List String}
    (h : readDraft page words = .ok (a, more)) :
    ∃ read d, Word.readAll page.options words = .ok read ∧
      Draft.empty.takeAll page (Step.ofWords page.options read) = .ok d ∧
      a.timeout = d.arguments.timeout := by
  unfold readDraft at h
  obtain ⟨read, hread, h⟩ := bind_eq_ok_iff.1 h
  obtain ⟨d, hsteps, h⟩ := bind_eq_ok_iff.1 h
  unfold orHalt at hread
  split at hread
  · rename_i hwords
    cases hread
    refine ⟨read, d, hwords, hsteps, ?_⟩
    split at h
    · cases h
    · cases h
      rfl
  · cases hread

/-- The timeout among the arguments of `send` is the number that is read of the last text that is
given for it; without such a text there is none. -/
theorem timeout_of_readCommandLine (h : readCommandLine words = .ok (.send a)) :
    (timeoutTexts words = [] ∧ a.timeout = none) ∨
      ∃ text x, (timeoutTexts words).getLast? = some text ∧ positiveNumber text = .ok x ∧
        a.timeout = some x := by
  obtain ⟨-, more, hdraft⟩ := readLeading_eq_send h
  obtain ⟨read, d, hread, hsteps, hsame⟩ := readDraft_eq_ok hdraft
  have htexts : timeoutTexts words = textsOf .timeout (Step.ofWords Page.send.options read) := by
    rw [timeoutTexts, hread]
  rw [htexts, hsame]
  exact Draft.timeout_of_takeAll hsteps

/-- The name of the option may be cut, and the text may stand in the same word or in the next. -/
example : timeoutTexts ["send", "--timeout=1", "--request", "r", "--time", "nan"] =
    ["1", "nan"] := by
  decide +kernel

end Reading

/-! ## The settings -/

/-- What is loaded was read from entries of the file. -/
theorem exists_of_loadWith {α : Type} {kind : FileKind}
    {read : String → List (Data × Data) → Except LoadError α} {env : ProcessEnvironment}
    {fs : Files} {path : FilePath} {a : α} (h : loadWith kind read env fs path = .ok a) :
    ∃ entries, read path.text entries = .ok a := by
  unfold loadWith at h
  obtain ⟨entries, -, h⟩ := bind_eq_ok_iff.1 h
  obtain ⟨resolved, -, h⟩ := bind_eq_ok_iff.1 h
  exact ⟨resolved, h⟩

/-- Settings that are loaded have a timeout above zero. -/
theorem isPositive_of_loadTransport {env : ProcessEnvironment} {fs : Files} {path : FilePath}
    {t : Transport} (h : loadTransport env fs path = .ok t) : t.timeout.IsPositive := by
  obtain ⟨entries, hentries⟩ := exists_of_loadWith h
  unfold modelOf at hentries
  split at hentries
  · cases hentries
  · rename_i hread
    cases hentries
    exact t.timeout.isPositive_iff.2 (Transport.timeout_of_read hread)

/-- Settings are accepted by their own check exactly if their timeout is above zero. -/
theorem read_dump_iff (t : Transport) :
    Transport.read t.dump = .accepted t ↔ t.timeout.IsPositive := by
  rw [t.timeout.isPositive_iff]
  exact ⟨Transport.timeout_of_read, Transport.read_dump⟩

/-- The settings of `send` are settings with a timeout above zero, of the file or by default, with
the choices of the command line. -/
theorem exists_transport {m : Machine} {a : SendArguments}
    (hload : ∀ path, a.config = some path →
      ∃ base, loadTransport m.environment m.files path = .ok base) :
    ∃ base, base.timeout.IsPositive ∧ a.transport m = .ok (a.choose base) := by
  unfold SendArguments.transport
  cases hconfig : a.config with
  | none =>
    have hdefault : (Double.zero false).lt Transport.standard.timeout = true := by decide +kernel
    exact ⟨Transport.standard, (Double.isPositive_iff _).2 hdefault, rfl⟩
  | some path =>
    obtain ⟨base, hbase⟩ := hload path hconfig
    refine ⟨base, isPositive_of_loadTransport hbase, ?_⟩
    simp only [hbase]
    rfl

/-- A client keeps the settings that it is opened with. -/
theorem settings_of_opened {fs : Files} {t : Transport} {session : Session}
    (h : Session.opened fs t = .ok session) : session.settings = t := by
  unfold Session.opened at h
  obtain ⟨trust, -, h⟩ := bind_eq_ok_iff.1 h
  cases h
  rfl

/-- The timeout of `send` is a number above zero, exactly unless the last text that the command line
gives for it writes what is no number. Wherever a command line is read and its file of settings, if
it names one, is loaded, there are settings. They have the number of that text for a timeout, their
own check accepts them exactly if it is above zero, and a client that is opened with them keeps it.
In particular every text is refused or gives a number above zero, unless it writes what is no
number: then it gives that. A number above zero is never refused. -/
theorem timeout_isPositive_iff (m : Machine) (words : List String) (a : SendArguments)
    (hread : readCommandLine words = .ok (.send a))
    (hload : ∀ path, a.config = some path →
      ∃ base, loadTransport m.environment m.files path = .ok base) :
    (∃ t, a.transport m = .ok t ∧
      (t.timeout.IsPositive ↔
        ∀ text, (timeoutTexts words).getLast? = some text → ¬ Numeral.WritesNan text) ∧
      (Transport.read t.dump = .accepted t ↔ t.timeout.IsPositive) ∧
      (∀ text, (timeoutTexts words).getLast? = some text →
        positiveNumber text = .ok t.timeout) ∧
      ∀ session, Session.opened m.files t = .ok session → session.settings.timeout = t.timeout) ∧
    ∀ s, (¬ Numeral.WritesNan s →
        (∃ e, positiveNumber s = .error e) ∨ ∃ x, positiveNumber s = .ok x ∧ x.IsPositive) ∧
      (Numeral.WritesNan s → positiveNumber s = .ok .nan) ∧
      ∀ x, Numeral.double? s = some x → x.IsPositive → positiveNumber s = .ok x := by
  refine ⟨?_, fun s => ⟨positiveNumber_of_not_writesNan, positiveNumber_of_writesNan,
    fun x hx hpos => positiveNumber_eq_ok_iff.2 ⟨hx, .inr hpos⟩⟩⟩
  obtain ⟨base, hbase, htransport⟩ := exists_transport hload
  have hchoose : (a.choose base).timeout = a.timeout.getD base.timeout := rfl
  refine ⟨a.choose base, htransport, ?_, read_dump_iff _, ?_, fun session hsession => ?_⟩
  · obtain ⟨hnone, htimeout⟩ | ⟨text, x, hlast, hx, htimeout⟩ := timeout_of_readCommandLine hread
    · rw [hchoose, htimeout, hnone]
      exact iff_of_true hbase nofun
    · rw [hchoose, htimeout, hlast, Option.getD_some, isPositive_iff_of_positiveNumber hx]
      simp only [Option.some_inj, forall_eq']
  · intro text htext
    obtain ⟨hnone, -⟩ | ⟨last, x, hlast, hx, htimeout⟩ := timeout_of_readCommandLine hread
    · rw [hnone] at htext
      cases htext
    · rw [hlast] at htext
      cases htext
      rw [hchoose, htimeout]
      exact hx
  · rw [settings_of_opened hsession]

/-- A machine with a file of settings. -/
def settingsMachine : Machine :=
  ⟨[], [(["settings"], .file (Text.Utf8.encode "timeout: 30\n"))], ⟨[], "", 0⟩, []⟩

/-- A command line that gives a timeout twice: first what is no number, then ten, with a digit of
another script. -/
def repeatedWords : List String :=
  ["send", "--timeout=nan", "--request", "r", "--config", "settings", "--time", "\u0661_0"]

/-- The arguments that are read of it. -/
def repeatedArguments : SendArguments :=
  ⟨⟨.ofText "r", none⟩, some (.ofText "settings"), some (.ofInt 10), false, none, true, none, false⟩

/-- `timeout_isPositive_iff` at a command line that gives a timeout twice. -/
theorem timeout_isPositive_iff_repeated :
    readCommandLine repeatedWords = .ok (.send repeatedArguments) ∧
      (∀ path, repeatedArguments.config = some path →
        ∃ base, loadTransport settingsMachine.environment settingsMachine.files path = .ok base) ∧
      (timeoutTexts repeatedWords).getLast? = some "\u0661_0" ∧
      ∃ t, repeatedArguments.transport settingsMachine = .ok t ∧ t.timeout.IsPositive ∧
        Transport.read t.dump = .accepted t ∧ positiveNumber "\u0661_0" = .ok t.timeout := by
  have hread : readCommandLine repeatedWords = .ok (.send repeatedArguments) := by decide +kernel
  have hload : ∀ path, repeatedArguments.config = some path →
      ∃ base, loadTransport settingsMachine.environment settingsMachine.files path = .ok base := by
    rintro path ⟨⟩
    have hloaded : (loadTransport settingsMachine.environment settingsMachine.files
        (.ofText "settings")).toOption.any (fun _ => true) = true := by
      decide +kernel
    obtain ⟨base, hbase, -⟩ := exists_eq_ok_of_any hloaded
    exact ⟨base, hbase⟩
  have hlast : (timeoutTexts repeatedWords).getLast? = some "\u0661_0" := by decide +kernel
  have hnumber : Numeral.double? "\u0661_0" ≠ some .nan := by decide +kernel
  obtain ⟨⟨t, ht, hpositive, haccepted, hvalue, -⟩, -⟩ :=
    timeout_isPositive_iff settingsMachine repeatedWords repeatedArguments hread hload
  have hpos : t.timeout.IsPositive := by
    refine hpositive.2 fun text htext => ?_
    obtain rfl := Option.some.inj (hlast.symm.trans htext)
    exact fun hnan => hnumber ((Numeral.double?_eq_nan_iff _).2 hnan)
  exact ⟨hread, hload, hlast, t, ht, hpos, haccepted.2 hpos, hvalue _ hlast⟩

/-- The arguments of a command line whose timeout is no number. -/
def nanArguments : SendArguments :=
  ⟨⟨.ofText "r", none⟩, none, some .nan, false, none, true, none, false⟩

/-- A timeout that is no number gets into the settings, although it is not above zero and their own
check refuses it. -/
theorem timeout_nan_not_isPositive :
    positiveNumber "nan" = .ok .nan ∧
      readCommandLine ["send", "--request", "r", "--timeout", "nan"] = .ok (.send nanArguments) ∧
      ∃ t, nanArguments.transport ⟨[], [], ⟨[], "", 0⟩, []⟩ = .ok t ∧ t.timeout = .nan ∧
        ¬ t.timeout.IsPositive ∧
        Transport.read t.dump = .refused (.issues [⟨[.field "timeout"], .notAbove 0⟩]) := by
  refine ⟨by decide +kernel, by decide +kernel, _, rfl, rfl, ?_, by decide +kernel⟩
  rintro ⟨p, hp, -⟩
  cases hp

end Command

end Courier
