import Courier.Schema.Issue

/-!
# Checks

A check either accepts a value or refuses it with all issues found. Checks of the parts of a value
combine: the whole is accepted when every part is, and otherwise the issues of all parts stand in
the order of the parts. There is one fault that is no issue: an integer that should be written as a
text and has too many digits. Checking stops there, and whatever issues there are do not count.
-/

namespace Courier.Schema

/-- Why a value is refused. -/
inductive Refusal where
  | issues (found : List Issue)
  /-- An integer has too many digits to be a text. -/
  | overlong
  deriving DecidableEq, Repr

namespace Refusal

/-- What two parts are refused for together. -/
def and : Refusal → Refusal → Refusal
  | issues is, issues js => issues (is ++ js)
  | _, _ => overlong

/-- Puts the issues one step further inside. -/
def under (step : Step) : Refusal → Refusal
  | issues is => issues (is.map (Issue.under step))
  | overlong => overlong

end Refusal

/-- The outcome of looking at a value. -/
inductive Check (α : Type) where
  | accepted (value : α)
  | refused (why : Refusal)
  deriving DecidableEq, Repr

namespace Check

variable {α β : Type}

/-- Refuses for one cause, at the place itself. -/
def refuse (cause : Cause) : Check α :=
  .refused (.issues [⟨[], cause⟩])

/-- Maps the accepted value. -/
def map (f : α → β) : Check α → Check β
  | accepted a => accepted (f a)
  | refused why => refused why

/-- Applies a checked function to a checked argument and gathers the issues of both. -/
def apply : Check (α → β) → Check α → Check β
  | accepted f, accepted a => accepted (f a)
  | accepted _, refused why => refused why
  | refused why, accepted _ => refused why
  | refused why, refused other => refused (why.and other)

instance : Functor Check where
  map := map

instance : Seq Check where
  seq f x := apply f (x ())

/-- Goes on with the accepted value; a refusal stays as it is. -/
def andThen (c : Check α) (f : α → Check β) : Check β :=
  match c with
  | accepted a => f a
  | refused why => refused why

/-- Puts the issues one step further inside. -/
def under (step : Step) : Check α → Check α
  | accepted a => accepted a
  | refused why => refused (why.under step)

/-- The accepted value, if there is one. -/
def value? : Check α → Option α
  | accepted a => some a
  | refused _ => none

/-- Checks a list item by item, from the index `start` on, and gathers all issues. -/
def each (f : β → Check α) : Int → List β → Check (List α)
  | _, [] => .accepted []
  | start, x :: xs =>
    apply (map List.cons (under (.index start) (f x))) (each f (start + 1) xs)

end Check

end Courier.Schema
