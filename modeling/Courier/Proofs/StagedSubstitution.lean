import Courier.Proofs.Substitution

/-!
# Substitution in two steps

Substituting by an environment first and by the global variables afterwards gives the same as
substituting once by both, provided that the variables of the environment have plain values
(`substitute_in_steps`). Plain values leave exactly the references without a value to the second
step (`segments_substituteWith`), so that the second step meets the pieces of the text itself, and
the two agree piece by piece (`resolveSegment_append`). The precedence of the environment is then
that of the first step.
-/

namespace Courier

open Text

/-! ## Texts -/

/-- Variables in front go before those behind them. -/
theorem Scope.lookup?_append (vars later : List Entry) (name : CodeText) :
    lookup? (vars ++ later) name = (lookup? vars name).or (lookup? later name) := by
  unfold lookup?
  rw [List.find?_append]
  cases vars.find? fun v => v.enabled && v.key == name with
  | none => rfl
  | some v => rfl

/-- A piece is resolved by some variables and others behind them as by the first ones, and what they
leave by the others. -/
theorem resolveSegment_append (vars later : List Entry) (seg : Segment CodePoint) :
    (settledSegments vars seg).flatMap (resolveSegment later) =
      resolveSegment (vars ++ later) seg := by
  cases seg with
  | plain c => rfl
  | reference raw =>
    unfold settledSegments resolveSegment
    simp only [Scope.lookup?_append]
    cases Scope.lookup? vars (referenceName raw) with
    | none =>
      rw [Option.none_or, List.flatMap_singleton]
    | some value =>
      -- the characters of a value stand for themselves
      rw [Option.some_or, List.flatMap_map, List.flatMap_singleton']

/-- What plain values leave is resolved by other variables as if these came behind them. -/
theorem substituteWith_substituteWith {vars : List Entry} (hv : PlainValues vars)
    (later : List Entry) (cs : CodeText) :
    substituteWith later (substituteWith vars cs) = substituteWith (vars ++ later) cs := by
  calc substituteWith later (substituteWith vars cs)
      = ((segments Marks.doubled cs).flatMap (settledSegments vars)).flatMap
          (resolveSegment later) := by
        rw [substituteWith, segments_substituteWith hv]
    _ = (segments Marks.doubled cs).flatMap (resolveSegment (vars ++ later)) := by
        rw [List.flatMap_assoc]
        simp only [resolveSegment_append]

/-- Variables behind the same ones have no influence. -/
theorem substituteWith_append_self (vars : List Entry) (cs : CodeText) :
    substituteWith (vars ++ vars) cs = substituteWith vars cs := by
  have hsame : resolveSegment (vars ++ vars) = resolveSegment vars := by
    funext seg
    unfold resolveSegment
    simp only [Scope.lookup?_append, Option.or_self]
  rw [substituteWith, hsame, substituteWith]

/-- The variables of an environment alone, in front of others, are those of both. -/
theorem Scope.entries_append (e : Option Environment) (globals : List Entry) :
    entries ⟨e, []⟩ ++ entries ⟨none, globals⟩ = entries ⟨e, globals⟩ := by
  unfold entries
  simp only [List.append_nil, List.nil_append]

section Steps

variable {e : Option Environment} (hv : PlainValues (Scope.entries ⟨e, []⟩))

include hv

/-- A text is substituted in two steps as in one. -/
theorem substitute_substitute (globals : List Entry) (text : CodeText) :
    substitute ⟨none, globals⟩ (substitute ⟨e, []⟩ text) = substitute ⟨e, globals⟩ text := by
  show substituteWith _ (substituteWith _ text) = substituteWith _ text
  rw [substituteWith_substituteWith hv, Scope.entries_append]

/-- A second substitution changes nothing. -/
theorem substitute_idem (text : CodeText) :
    substitute ⟨e, []⟩ (substitute ⟨e, []⟩ text) = substitute ⟨e, []⟩ text := by
  show substituteWith _ (substituteWith _ text) = substituteWith _ text
  rw [substituteWith_substituteWith hv, substituteWith_append_self]

end Steps

/-! ## Whole requests -/

namespace Request

variable {first second both : Scope}

/-- Substitution in a request is substitution in its texts, so that two steps are one in every
request if they are in every text. -/
theorem substitute_comp
    (h : ∀ text, Courier.substitute second (Courier.substitute first text) =
      Courier.substitute both text) (r : Request) :
    (r.substitute first).substitute second = r.substitute both := by
  have hentry : substituteEntry second ∘ substituteEntry first = substituteEntry both := by
    funext e
    simp only [Function.comp, substituteEntry, h]
  have hfield : substituteField second ∘ substituteField first = substituteField both := by
    funext e
    simp only [Function.comp, substituteField, h]
  have htext : Courier.substitute second ∘ Courier.substitute first = Courier.substitute both :=
    funext h
  have hfields : List.map (substituteField second) ∘ List.map (substituteField first) =
      List.map (substituteField both) := by
    funext fields
    rw [Function.comp_apply, List.map_map, hfield]
  unfold substitute
  simp only [List.map_map, Option.map_map, hentry, htext, hfields, h]

/-- Everything of an entry but its name and its value. -/
def labels (entries : List Entry) : List (CodeText × Bool) :=
  entries.map fun e => (e.id, e.enabled)

/-- Everything of a form field but its value. -/
def fieldLabels (entries : List Entry) : List (CodeText × CodeText × Bool) :=
  entries.map fun e => (e.id, e.key, e.enabled)

/-- What substitution keeps of a request, item by item and in order: everything but the URL, the
names and values of headers and parameters, the content of the body and the values of form
fields. -/
structure SameShape (r r' : Request) : Prop where
  method : r'.method = r.method
  auth : r'.auth = r.auth
  headers : labels r'.headers = labels r.headers
  params : labels r'.params = labels r.params
  kind : r'.body.kind = r.body.kind
  content : r'.body.content.isSome = r.body.content.isSome
  formData : r'.body.formData.map fieldLabels = r.body.formData.map fieldLabels

/-- Substitution keeps the shape of a request. -/
theorem sameShape_substitute (scope : Scope) (r : Request) : SameShape r (r.substitute scope) where
  method := rfl
  auth := rfl
  headers := by
    unfold labels substitute
    rw [List.map_map]
    rfl
  params := by
    unfold labels substitute
    rw [List.map_map]
    rfl
  kind := rfl
  content := Option.isSome_map
  formData := by
    have hfields : (fieldLabels ∘ fun fields : List Entry => fields.map (substituteField scope)) =
        fieldLabels := by
      funext fields
      simp only [Function.comp_apply, fieldLabels, List.map_map]
      rfl
    unfold substitute
    simp only [Option.map_map, hfields]

end Request

/-- Substitution by an environment and then by global variables is substitution by both, of every
text and of every request, if every variable of the environment that can be used has a value that is
not empty and has no brace; the global ones may have any values. So a second substitution by such an
environment changes nothing. A request keeps its shape, whatever is substituted. -/
theorem substitute_in_steps (e : Option Environment) (globals : List Entry)
    (hv : PlainValues (Scope.entries ⟨e, []⟩)) :
    (∀ text, substitute ⟨none, globals⟩ (substitute ⟨e, []⟩ text) =
        substitute ⟨e, globals⟩ text) ∧
      (∀ text, substitute ⟨e, []⟩ (substitute ⟨e, []⟩ text) = substitute ⟨e, []⟩ text) ∧
      (∀ r : Request, (r.substitute ⟨e, []⟩).substitute ⟨none, globals⟩ =
        r.substitute ⟨e, globals⟩) ∧
      (∀ r : Request, (r.substitute ⟨e, []⟩).substitute ⟨e, []⟩ = r.substitute ⟨e, []⟩) ∧
      ∀ (scope : Scope) (r : Request), r.SameShape (r.substitute scope) :=
  ⟨substitute_substitute hv globals, substitute_idem hv,
    Request.substitute_comp (substitute_substitute hv globals),
    Request.substitute_comp (substitute_idem hv), Request.sameShape_substitute⟩

/-- An environment with a plain value, and one without a plain value that is switched off. -/
def hostEnvironment : Environment :=
  ⟨"", "", [⟨"1", "host", "h.test", true⟩, ⟨"2", "id", "", false⟩]⟩

/-- Global variables with braces in their values, one of them for a name of the environment. -/
def bracedGlobals : List Entry :=
  [⟨"3", "id", "\x7b\x7bhost\x7d\x7d", true⟩, ⟨"4", "host", "\x7d", true⟩]

/-- `substitute_in_steps` at a text with a stray brace in front of a reference. -/
theorem substitute_in_steps_braced :
    PlainValues (Scope.entries ⟨some hostEnvironment, []⟩) ∧
      substitute ⟨none, bracedGlobals⟩ (substitute ⟨some hostEnvironment, []⟩
        "\x7b\x7b host \x7d\x7d/\x7b\x7b\x7bid\x7d\x7d\x7b\x7bid\x7d\x7d") =
        "h.test/\x7b\x7b\x7bid\x7d\x7d\x7b\x7bhost\x7d\x7d" := by
  have hv : PlainValues (Scope.entries ⟨some hostEnvironment, []⟩) := by decide
  obtain ⟨hsteps, -⟩ := substitute_in_steps (some hostEnvironment) bracedGlobals hv
  refine ⟨hv, ?_⟩
  rw [hsteps]
  decide +kernel

end Courier
