import Courier.JsonPath.Token

/-!
# The grammar of paths

A path is built from steps by binary operators, all of which group to the left. Loosest binds the
search in all depths, then the step into a child, union, intersection, and the two conditions. A
bracket applies to everything before it in its group.
-/

namespace Courier

/-- A path into a document. -/
inductive JsonPath where
  | root
  | this
  | parent
  | all
  | fields (names : List CodeText)
  | indices (ns : List Int)
  | slice (start stop step : Option Int)
  | everyItem
  | child (a b : JsonPath)
  | descendants (a b : JsonPath)
  | union (a b : JsonPath)
  | intersection (a b : JsonPath)
  | having (a b : JsonPath)
  | lacking (a b : JsonPath)
  deriving Repr

namespace JsonPath

/-- The tokens that are left, and the fault after them. -/
abbrev Input := List Token × Option PathError

/-- The error at the next token, or at the end. -/
def refuse {α : Type} (input : Input) : Except PathError α :=
  match input with
  | (t :: _, _) => .error (.atToken t)
  | ([], some e) => .error e
  | ([], none) => .error .atEnd

/-- The next token; a fault in the text is an error here. -/
def peek (input : Input) : Except PathError (Option TokenKind) :=
  match input with
  | (t :: _, _) => .ok (some t.kind)
  | ([], some e) => .error e
  | ([], none) => .ok none

/-- The input after its next token. -/
def next (input : Input) : Input := (input.1.drop 1, input.2)

/-- Takes a mark. -/
def expect (c : Char) (input : Input) : Except PathError Input := do
  if (← peek input) = some (.mark c) then .ok (next input) else refuse input

/-- Names after the first, each after a comma. -/
def moreNames : Nat → Input → Except PathError (List CodeText × Input)
  | 0, input => .ok ([], input)
  | fuel + 1, input => do
    if (← peek input) = some (.mark ',') then
      let input := next input
      match ← peek input with
      | some (.name s) =>
        let (rest, input) ← moreNames fuel (next input)
        .ok (s :: rest, input)
      | _ => refuse input
    else .ok ([], input)

/-- Numbers after the first, each after a comma. -/
def moreNumbers : Nat → Input → Except PathError (List Int × Input)
  | 0, input => .ok ([], input)
  | fuel + 1, input => do
    if (← peek input) = some (.mark ',') then
      let input := next input
      match ← peek input with
      | some (.number n) =>
        let (rest, input) ← moreNumbers fuel (next input)
        .ok (n :: rest, input)
      | _ => refuse input
    else .ok ([], input)

/-- A number that may be left out. -/
def optionalNumber (input : Input) : Except PathError (Option Int × Input) := do
  match ← peek input with
  | some (.number n) => .ok (some n, next input)
  | _ => .ok (none, input)

/-- The rest of a slice, after its first colon. -/
def sliceTail (start : Option Int) (input : Input) : Except PathError (JsonPath × Input) := do
  let (stop, input) ← optionalNumber input
  if (← peek input) = some (.mark ':') then
    let (step, input) ← optionalNumber (next input)
    .ok (.slice start stop step, ← expect ']' input)
  else .ok (.slice start stop none, ← expect ']' input)

/-- What stands between brackets, after the opening one. -/
def bracket (input : Input) : Except PathError (JsonPath × Input) := do
  match ← peek input with
  | some (.mark '*') => .ok (.everyItem, ← expect ']' (next input))
  | some (.mark ':') => sliceTail none (next input)
  | some (.name s) =>
    let (rest, input) ← moreNames input.1.length (next input)
    .ok (.fields (s :: rest), ← expect ']' input)
  | some (.number n) =>
    let input := next input
    if (← peek input) = some (.mark ':') then sliceTail (some n) (next input)
    else
      let (rest, input) ← moreNumbers input.1.length input
      .ok (.indices (n :: rest), ← expect ']' input)
  | _ => refuse input

/-- A binary operator and how tightly it binds. -/
def binary? : TokenKind → Option ((JsonPath → JsonPath → JsonPath) × Nat)
  | .dots => some (.descendants, 1)
  | .mark '.' => some (.child, 2)
  | .mark '|' => some (.union, 3)
  | .mark '&' => some (.intersection, 4)
  | .keywordWhere => some (.having, 5)
  | .keywordWhereNot => some (.lacking, 6)
  | _ => none

mutual

/-- A single step, or a group in parentheses. -/
def operand : Nat → Input → Except PathError (JsonPath × Input)
  | 0, input => refuse input
  | fuel + 1, input => do
    match input with
    | (t :: _, _) =>
      match t.kind with
      | .mark '$' => .ok (.root, next input)
      | .mark '*' => .ok (.all, next input)
      | .mark '[' => bracket (next input)
      | .mark '(' =>
        let (p, input) ← expression fuel 0 (next input)
        .ok (p, ← expect ')' input)
      | .name s =>
        let (rest, input) ← moreNames input.1.length (next input)
        .ok (.fields (s :: rest), input)
      | .number n =>
        .ok (.fields ((toString n).toList.map fun d => [.char d]), next input)
      | .operator s =>
        if s = "this" then .ok (.this, next input)
        else if s = "parent" then .ok (.parent, next input)
        else .error (.unknownOperator s t.line t.position)
      | _ => refuse input
    | _ => refuse input

/-- An expression whose operators bind at least as tightly as `least`. -/
def expression : Nat → Nat → Input → Except PathError (JsonPath × Input)
  | 0, _, input => refuse input
  | fuel + 1, least, input => do
    let (left, input) ← operand fuel input
    continued fuel least left input

/-- Goes on after `left`. Brackets are taken where the group is one whole. -/
def continued : Nat → Nat → JsonPath → Input → Except PathError (JsonPath × Input)
  | 0, _, _, input => refuse input
  | fuel + 1, least, left, input => do
    match ← peek input with
    | none => .ok (left, input)
    | some kind =>
      match binary? kind with
      | some (combine, level) =>
        if least ≤ level then
          let (right, input) ← expression fuel (level + 1) (next input)
          continued fuel least (combine left right) input
        else .ok (left, input)
      | none =>
        if kind = .mark '[' ∧ least = 0 then
          let (step, input) ← bracket (next input)
          continued fuel least (.child left step) input
        else .ok (left, input)

end

/-- Reads a path. -/
def parse (s : CodeText) : Except PathError JsonPath := do
  let input := tokens s
  let (p, rest) ← expression (4 * input.1.length + 4) 0 input
  match ← peek rest with
  | none => .ok p
  | some _ => refuse rest

end JsonPath

end Courier
