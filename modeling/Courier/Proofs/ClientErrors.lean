import Courier.Client.Build
import Courier.Proofs.Basic
import Courier.Proofs.TextCodes
import Mathlib.Data.List.Forall2

/-!
# Errors of building a client

A client with a transport of its own is built in stages: the certificates of its settings, the
proxies of the environment, the standard certificates, a transport to each proxy, the exceptions.
`BuildFault` says which fault comes first. Building fails with that one, and reports it as an error
of building, unless it is a text that is no URL, for a proxy or for an exception, or a SOCKS proxy
(`openedDirectly_first_fault`).
-/

namespace Courier

section Stages

variable {α β ε ε' : Type} {f : α → Except ε β} {xs : List α} {x : α} {e : ε}

/-- The error of the first item that has one. -/
def FirstFault (f : α → Except ε β) (xs : List α) (e : ε) : Prop :=
  ∃ before x after, xs = before ++ x :: after ∧ (∀ y ∈ before, ∃ b, f y = .ok b) ∧
    f x = .error e

/-- No item, no fault. -/
theorem not_firstFault_nil : ¬FirstFault f [] e := by
  rintro ⟨before, x, after, h, -⟩
  cases before <;> cases h

/-- The fault is that of the first item, or this has a result and the fault is one of the others. -/
theorem firstFault_cons :
    FirstFault f (x :: xs) e ↔ f x = .error e ∨ (∃ b, f x = .ok b) ∧ FirstFault f xs e := by
  constructor
  · rintro ⟨before, y, after, hxs, hbefore, hy⟩
    cases before with
    | nil =>
      obtain ⟨rfl, rfl⟩ := List.cons.inj hxs
      exact .inl hy
    | cons z before =>
      obtain ⟨rfl, rfl⟩ := List.cons.inj hxs
      obtain ⟨hfirst, hrest⟩ := List.forall_mem_cons.1 hbefore
      exact .inr ⟨hfirst, before, y, after, rfl, hrest, hy⟩
  · rintro (hx | ⟨hfirst, before, y, after, rfl, hbefore, hy⟩)
    · exact ⟨[], x, xs, rfl, nofun, hx⟩
    · exact ⟨x :: before, y, after, rfl, List.forall_mem_cons.2 ⟨hfirst, hbefore⟩, hy⟩

/-- Two stages fail in the first, or in the second after a result of the first. -/
theorem bind_eq_error_iff {r : Except ε α} :
    (r >>= f) = .error e ↔ r = .error e ∨ ∃ a, r = .ok a ∧ f a = .error e := by
  cases r with
  | error e' => simp [bind, Except.bind]
  | ok a => simp [bind, Except.bind]

/-- A step for each item fails with the first fault. -/
theorem mapM_eq_error_iff : xs.mapM f = .error e ↔ FirstFault f xs e := by
  induction xs with
  | nil => exact iff_of_false nofun not_firstFault_nil
  | cons x xs ih =>
    rw [List.mapM_cons, bind_eq_error_iff, firstFault_cons]
    simp only [bind_eq_error_iff, ih, reduceCtorEq, pure, Except.pure, and_false, exists_false,
      or_false, exists_and_right]

/-- It succeeds if each item has a result. -/
theorem mapM_eq_ok_iff {ys : List β} :
    xs.mapM f = .ok ys ↔ List.Forall₂ (fun x y => f x = .ok y) xs ys := by
  induction xs generalizing ys with
  | nil =>
    rw [List.forall₂_nil_left_iff]
    exact ⟨fun h => (Except.ok.inj h).symm, fun h => h ▸ rfl⟩
  | cons x xs ih =>
    rw [List.mapM_cons, List.forall₂_cons_left_iff]
    cases hx : f x with
    | error e => simp [bind, Except.bind]
    | ok y =>
      cases hxs : xs.mapM f with
      | error e => simp [bind, Except.bind, ← ih, hxs]
      | ok ys' => simp [bind, Except.bind, pure, Except.pure, ← ih, hxs, eq_comm]

/-- The same of a step whose results are not kept: it fails with the first fault. -/
theorem forM_eq_error_iff {f : α → Except ε Unit} :
    xs.forM f = .error e ↔ FirstFault f xs e := by
  induction xs with
  | nil => exact iff_of_false nofun not_firstFault_nil
  | cons x xs ih =>
    change (f x >>= fun _ => xs.forM f) = .error e ↔ _
    rw [bind_eq_error_iff, firstFault_cons, ih, exists_and_right]

/-- It succeeds if no item fails. -/
theorem forM_eq_ok_iff {f : α → Except ε Unit} :
    xs.forM f = .ok () ↔ ∀ x ∈ xs, f x = .ok () := by
  induction xs with
  | nil => exact iff_of_true rfl nofun
  | cons x xs ih =>
    change (f x >>= fun _ => xs.forM f) = .ok () ↔ _
    rw [List.forall_mem_cons, ← ih]
    cases f x with
    | error e => simp [bind, Except.bind]
    | ok => simp [bind, Except.bind]

end Stages

namespace Session

variable {env : ProcessEnvironment} {fs : Files} {t : Transport} {e : BuildError}

/-- What comes before the proxies succeeds: the certificates of the settings, and the file for
secrets that belongs to a bundle. -/
structure Settles (env : ProcessEnvironment) (fs : Files) (t : Transport) (trust : Trust) :
    Prop where
  certificates : t.trust fs = .ok trust
  secrets : finishBundle env fs t trust = .ok ()

/-- The URLs of the proxies of an environment. -/
def Reads (env : ProcessEnvironment) (urls : List Url) : Prop :=
  List.Forall₂ (fun p u => Proxy.read p = .ok u) (Proxy.ofEnvironment env).1 urls

/-- The first fault of what a client is built from. -/
inductive BuildFault (env : ProcessEnvironment) (fs : Files) (t : Transport) : BuildError → Prop
  | trust {e : BuildError} (h : t.trust fs = .error e) : BuildFault env fs t e
  | bundle {trust : Trust} {e : BuildError} (htrust : t.trust fs = .ok trust)
    (h : finishBundle env fs t trust = .error e) : BuildFault env fs t e
  | proxy {trust : Trust} {e : ProxyError} (hsettles : Settles env fs t trust)
    (h : FirstFault Proxy.read (Proxy.ofEnvironment env).1 e) : BuildFault env fs t (.proxy e)
  | certificates {trust : Trust} {urls : List Url} {e : BuildError}
    (hsettles : Settles env fs t trust) (hreads : Reads env urls)
    (h : standardCertificates env fs trust = .error e) : BuildFault env fs t e
  | transport {trust : Trust} {urls : List Url} {e : ProxyError}
    (hsettles : Settles env fs t trust) (hreads : Reads env urls)
    (hstandard : standardCertificates env fs trust = .ok ())
    (h : FirstFault Proxy.checkTransport urls e) : BuildFault env fs t (.proxy e)
  | exception {trust : Trust} {urls : List Url} {e : ProxyError}
    (hsettles : Settles env fs t trust) (hreads : Reads env urls)
    (hstandard : standardCertificates env fs trust = .ok ())
    (hsends : ∀ u ∈ urls, Proxy.checkTransport u = .ok ())
    (h : FirstFault Proxy.checkPattern (Proxy.ofEnvironment env).2 e) :
    BuildFault env fs t (.proxy e)

/-- Building fails with the first fault. -/
theorem openedDirectly_eq_error_iff :
    openedDirectly env fs t = .error e ↔ BuildFault env fs t e := by
  simp only [openedDirectly, bind_eq_error_iff, mapError_eq_error_iff, mapError_eq_ok_iff,
    mapM_eq_error_iff, mapM_eq_ok_iff, forM_eq_error_iff]
  constructor
  · rintro (h | ⟨trust, htrust, h | ⟨⟨⟩, hsecrets, ⟨e, h, rfl⟩ | ⟨urls, hreads, hlater⟩⟩⟩)
    · exact .trust h
    · exact .bundle htrust h
    · exact .proxy ⟨htrust, hsecrets⟩ h
    · have hsettles : Settles env fs t trust := ⟨htrust, hsecrets⟩
      obtain h | ⟨⟨⟩, hstandard, ⟨e, h, rfl⟩ | ⟨⟨⟩, hsends, ⟨e, h, rfl⟩ | ⟨⟨⟩, -, h⟩⟩⟩ := hlater
      · exact .certificates hsettles hreads h
      · exact .transport hsettles hreads hstandard h
      · exact .exception hsettles hreads hstandard (forM_eq_ok_iff.1 hsends) h
      · cases h
  · intro h
    cases h with
    | trust h => exact .inl h
    | bundle htrust h => exact .inr ⟨_, htrust, .inl h⟩
    | proxy hsettles h =>
      exact .inr ⟨_, hsettles.certificates, .inr ⟨(), hsettles.secrets, .inl ⟨_, h, rfl⟩⟩⟩
    | certificates hsettles hreads h =>
      exact .inr ⟨_, hsettles.certificates, .inr ⟨(), hsettles.secrets, .inr ⟨_, hreads, .inl h⟩⟩⟩
    | transport hsettles hreads hstandard h =>
      exact .inr ⟨_, hsettles.certificates, .inr ⟨(), hsettles.secrets, .inr ⟨_, hreads,
        .inr ⟨(), hstandard, .inl ⟨_, h, rfl⟩⟩⟩⟩⟩
    | exception hsettles hreads hstandard hsends h =>
      exact .inr ⟨_, hsettles.certificates, .inr ⟨(), hsettles.secrets, .inr ⟨_, hreads,
        .inr ⟨(), hstandard, .inr ⟨(), forM_eq_ok_iff.2 hsends, .inl ⟨_, h, rfl⟩⟩⟩⟩⟩⟩

/-- The words that a reported error begins with. -/
def reportHead : String := "Failed to create HTTP client:"

/-- A reported error begins with them. -/
theorem reportHead_of_isReported (h : e.isReported = true) :
    CodeText.ofString reportHead <+: e.message := by
  have hbundle : CodeText.ofString reportHead <+:
      CodeText.ofString "Failed to create HTTP client: cannot load CA bundle '" := by
    decide
  have hplain : CodeText.ofString reportHead <+:
      CodeText.ofString "Failed to create HTTP client: " := by
    decide
  unfold BuildError.message
  cases e with
  | bundle path e =>
    dsimp only
    rw [List.append_assoc, List.append_assoc]
    exact hbundle.trans (List.prefix_append _ _)
  | certificates e => exact hplain.trans (List.prefix_append _ _)
  | proxy e =>
    have hvalue : e.isValueError = true := h
    dsimp only
    rw [if_pos hvalue]
    exact hplain.trans (List.prefix_append _ _)

/-- What is not reported is a text that is no URL, or a SOCKS proxy. -/
theorem isReported_eq_false_iff :
    e.isReported = false ↔ (∃ m, e = .proxy (.malformed m)) ∨ e = .proxy .socks := by
  cases e with
  | bundle path e => simp [BuildError.isReported]
  | certificates e => simp [BuildError.isReported]
  | proxy e => cases e <;> simp [BuildError.isReported, ProxyError.isValueError]

/-- A client is built, or building fails with the first fault. The error is reported as one of
building, with the words for it, exactly if the first fault is neither a text that is no URL nor a
SOCKS proxy. -/
theorem openedDirectly_first_fault (env : ProcessEnvironment) (fs : Files) (t : Transport) :
    (∀ e, openedDirectly env fs t = .error e ↔ BuildFault env fs t e) ∧
    (((∃ s, openedDirectly env fs t = .ok s) ∨
        ∃ e, openedDirectly env fs t = .error e ∧ e.isReported = true ∧
          CodeText.ofString reportHead <+: e.message) ↔
      (∀ m, ¬BuildFault env fs t (.proxy (.malformed m))) ∧
        ¬BuildFault env fs t (.proxy .socks)) := by
  refine ⟨fun e => openedDirectly_eq_error_iff, ?_⟩
  simp only [← openedDirectly_eq_error_iff]
  cases h : openedDirectly env fs t with
  | ok s => exact iff_of_true (.inl ⟨s, rfl⟩) ⟨nofun, nofun⟩
  | error e =>
    have hreported : e.isReported = true ↔
        (∀ m, e ≠ .proxy (.malformed m)) ∧ e ≠ .proxy .socks := by
      rw [← Bool.not_eq_false, isReported_eq_false_iff, not_or, not_exists]
    constructor
    · rintro (⟨s, hs⟩ | ⟨e', he', hreport, -⟩)
      · cases hs
      · cases he'
        obtain ⟨hmalformed, hsocks⟩ := hreported.1 hreport
        exact ⟨fun m hm => hmalformed m (Except.error.inj hm),
          fun hs => hsocks (Except.error.inj hs)⟩
    · rintro ⟨hmalformed, hsocks⟩
      have hreport : e.isReported = true :=
        hreported.2 ⟨fun m hm => hmalformed m (hm ▸ rfl), fun hs => hsocks (hs ▸ rfl)⟩
      exact .inr ⟨e, rfl, hreport, reportHead_of_isReported hreport⟩

/-- An environment that names one proxy, by a URL whose port is no number. -/
def badPort : ProcessEnvironment := .ofTexts [("HTTP_PROXY", "http://p.test:bad")]

/-- An environment that names a SOCKS proxy. -/
def socksProxy : ProcessEnvironment := .ofTexts [("ALL_PROXY", "socks5://p.test:1080")]

/-- Building does not always report its errors: not a port that is no number, and not a SOCKS
proxy. -/
theorem openedDirectly_first_fault_unreported :
    openedDirectly badPort [] .standard = .error (.proxy (.malformed (.port "bad"))) ∧
    openedDirectly socksProxy [] .standard = .error (.proxy .socks) ∧
    ∀ env ∈ [badPort, socksProxy],
      ¬((∃ s, openedDirectly env [] .standard = .ok s) ∨
        ∃ e, openedDirectly env [] .standard = .error e ∧ e.isReported = true ∧
          CodeText.ofString reportHead <+: e.message) := by
  have hport : openedDirectly badPort [] .standard = .error (.proxy (.malformed (.port "bad"))) :=
    openedDirectly_eq_error_iff.2 (.proxy ⟨rfl, rfl⟩
      ⟨[], Proxy.codes "http://p.test:bad", [], by decide +kernel, nofun, rfl⟩)
  have hreads : Reads socksProxy [⟨"socks5", "", "p.test", some 1080, "", none, none⟩] := by
    have hproxies : (Proxy.ofEnvironment socksProxy).1 = [Proxy.codes "socks5://p.test:1080"] := by
      decide +kernel
    rw [Reads, hproxies]
    exact .cons rfl .nil
  have hsocks : openedDirectly socksProxy [] .standard = .error (.proxy .socks) :=
    openedDirectly_eq_error_iff.2 (.transport ⟨rfl, rfl⟩ hreads rfl ⟨[], _, [], rfl, nofun, rfl⟩)
  have hunreported : ∀ {env e}, openedDirectly env [] .standard = .error e → e.isReported = false →
      ¬((∃ s, openedDirectly env [] .standard = .ok s) ∨
        ∃ e, openedDirectly env [] .standard = .error e ∧ e.isReported = true ∧
          CodeText.ofString reportHead <+: e.message) := by
    rintro env e h hfalse (⟨s, hs⟩ | ⟨e', he', hreport, -⟩)
    · cases hs.symm.trans h
    · cases he'.symm.trans h
      exact Bool.false_ne_true (hfalse.symm.trans hreport)
  exact ⟨hport, hsocks, List.forall_mem_cons.2 ⟨hunreported hport rfl,
    List.forall_mem_singleton.2 (hunreported hsocks rfl)⟩⟩

end Session

end Courier
