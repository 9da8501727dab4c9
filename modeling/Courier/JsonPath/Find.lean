import Courier.JsonPath.Grammar
import Courier.Data.Basic

/-!
# What a path finds

The places of a document that a path leads to, in order. A place is a value with the values that
enclose it, the nearest first, so that a path can go up again.
-/

namespace Courier.JsonPath

/-- A value of a document, and the values that enclose it. -/
structure Place where
  value : Data
  enclosing : List Data

/-- Why a path finds nothing, not even no place. -/
inductive FindError where
  /-- The document itself has no parent. -/
  | noParent
  /-- Intersections are not supported. -/
  | unsupported
  /-- A slice goes by steps of zero. -/
  | zeroStep
  deriving DecidableEq, Repr

namespace Place

/-- A value inside this place. -/
def inside (p : Place) (v : Data) : Place := ⟨v, p.value :: p.enclosing⟩

/-- The whole document. -/
def root (p : Place) : Place := ⟨p.enclosing.getLast?.getD p.value, []⟩

/-- The values of a mapping or the items of a list. -/
def parts (p : Place) : List Place :=
  match p.value with
  | .map entries => entries.map fun e => p.inside e.2
  | .list items => items.map p.inside
  | _ => []

/-- The value of a name. -/
def field (p : Place) (name : CodeText) : List Place :=
  match p.value with
  | .map entries => ((Data.lookup? entries (.ofCodeText name)).map p.inside).toList
  | _ => []

/-- The item at an index, counted from the end where it is negative. -/
def item (p : Place) (n : Int) : List Place :=
  match p.value with
  | .list items =>
    let i := if n < 0 then n + items.length else n
    if i < 0 then [] else (items[i.toNat]?.map p.inside).toList
  | _ => []

/-- A bound of a slice as an index between `low` and `high`. -/
def clampBound (size low high bound : Int) : Int :=
  let b := if bound < 0 then bound + size else bound
  if b < low then low else if high < b then high else b

/-- The indices of a slice of a list with `size` items. -/
def sliceIndices (size : Nat) (start stop : Option Int) (step : Int) : List Nat :=
  if 0 < step then
    let first := (start.map (clampBound size 0 size)).getD 0
    let last := (stop.map (clampBound size 0 size)).getD size
    (List.range size).filter fun (i : Nat) =>
      decide (first ≤ i) && decide ((i : Int) < last) && ((i : Int) - first) % step == 0
  else
    let first := (start.map (clampBound size (-1) (size - 1))).getD (size - 1)
    let last := (stop.map (clampBound size (-1) (size - 1))).getD (-1)
    (List.range size).reverse.filter fun (i : Nat) =>
      decide ((i : Int) ≤ first) && decide (last < (i : Int)) && (first - (i : Int)) % step == 0

/-- The items of a slice. -/
def slice (p : Place) (start stop step : Option Int) : Except FindError (List Place) :=
  match p.value with
  | .list items =>
    let step := step.getD 1
    if step = 0 then .error .zeroStep
    else .ok ((sliceIndices items.length start stop step).filterMap fun i =>
      items[i]?.map p.inside)
  | _ => .ok []

end Place

/-- The places that `f` gives for each place, in order. -/
def gather (f : Place → Except FindError (List Place)) : List Place → Except FindError (List Place)
  | [] => .ok []
  | p :: rest => do
    let here ← f p
    return here ++ (← gather f rest)

mutual

/-- What `f` gives for a value and for everything inside it, the outer before the inner. -/
def everywhere (f : Place → Except FindError (List Place)) (enclosing : List Data) :
    Data → Except FindError (List Place)
  | .list items => do
    let here ← f ⟨.list items, enclosing⟩
    return here ++ (← everywhereItems f (.list items :: enclosing) items)
  | .map entries => do
    let here ← f ⟨.map entries, enclosing⟩
    return here ++ (← everywhereEntries f (.map entries :: enclosing) entries)
  | v => f ⟨v, enclosing⟩

/-- The same for items. -/
def everywhereItems (f : Place → Except FindError (List Place)) (enclosing : List Data) :
    List Data → Except FindError (List Place)
  | [] => .ok []
  | x :: rest => do
    let here ← everywhere f enclosing x
    return here ++ (← everywhereItems f enclosing rest)

/-- The same for the values of entries. -/
def everywhereEntries (f : Place → Except FindError (List Place)) (enclosing : List Data) :
    List (Data × Data) → Except FindError (List Place)
  | [] => .ok []
  | (_, x) :: rest => do
    let here ← everywhere f enclosing x
    return here ++ (← everywhereEntries f enclosing rest)

end

/-- The places that a path leads to from a place. -/
def find : JsonPath → Place → Except FindError (List Place)
  | .root, p => .ok [p.root]
  | .this, p => .ok [p]
  | .parent, p =>
    match p.enclosing with
    | [] => .error .noParent
    | v :: rest => .ok [⟨v, rest⟩]
  | .all, p => .ok p.parts
  | .everyItem, p => .ok p.parts
  | .fields names, p => .ok (names.flatMap p.field)
  | .indices ns, p => .ok (ns.flatMap p.item)
  | .slice start stop step, p => p.slice start stop step
  | .child a b, p => do gather (find b) (← find a p)
  | .descendants a b, p => do
    gather (fun q => everywhere (find b) q.enclosing q.value) (← find a p)
  | .union a b, p => do
    let left ← find a p
    return left ++ (← find b p)
  | .intersection _ _, _ => .error .unsupported
  | .having a b, p => do
    gather (fun q => do
      let found ← find b q
      return if found.isEmpty then [] else [q]) (← find a p)
  | .lacking a b, p => do
    gather (fun q => do
      let found ← find b q
      return if found.isEmpty then [q] else []) (← find a p)

/-- The first value that a path leads to in a document. -/
def first? (path : JsonPath) (document : Data) : Except FindError (Option Data) := do
  let places ← find path ⟨document, []⟩
  return places.head?.map Place.value

end Courier.JsonPath
