import Courier.Text.CodeSet
import Courier.Yaml.Cursor

/-!
# Scalars of a YAML text

How plain, quoted and block scalars are read. Lines of a plain or quoted scalar are folded: one
line break becomes a space, more than one lose the first. The text of a scalar is a list of code
points, since an escape may name any.
-/

namespace Courier.Yaml

/-- The code points of characters. -/
def codes (cs : List Char) : List Nat := cs.map Char.toNat

/-- A folded line break: the first break counts as a space unless others follow. -/
def foldBreaks (first : List Char) (more : List Char) : List Char :=
  if first != ['\n'] then first ++ more else if more.isEmpty then [' '] else more

/-! ## Plain scalars -/

/-- The characters of a plain scalar up to the next blank or mark. -/
def plainRun (flow : Bool) : List Char → Nat
  | [] => 0
  | c :: r =>
    let next := r.head?
    let endsKey := c == ':' && (atBlank next || (flow && next.any ",[]\x7b\x7d".toList.contains))
    if atBlank (some c) || endsKey || (flow && ",?[]\x7b\x7d".toList.contains c) then 0
    else plainRun flow r + 1

/-- Breaks and spaces after a line of a plain scalar; none where a document ends. -/
def plainBreaks : Nat → List Char → Cursor → Option (List Char) × Cursor
  | 0, breaks, c => (some breaks, c)
  | fuel + 1, breaks, c =>
    match c.peek 0 with
    | some ' ' => plainBreaks fuel breaks c.step
    | some ch =>
      if isBreak ch then
        let (text, c) := c.takeBreak
        if c.atDocumentMark then (none, c) else plainBreaks fuel (breaks ++ text) c
      else (some breaks, c)
    | none => (some breaks, c)

/-- The space between two parts of a plain scalar, whether it goes over a line break, and the
position after it. There is none where the scalar ends. -/
def plainSpace (c : Cursor) : List Char × Bool × Cursor :=
  let blanks := c.run (· == ' ')
  let after := c.forward blanks
  if after.rest.isEmpty || !atBreak (after.peek 0) then
    (List.replicate blanks ' ', false, after)
  else
    let (first, c) := after.takeBreak
    if c.atDocumentMark then ([], true, c)
    else
      match plainBreaks (c.rest.length + 1) [] c with
      | (none, c) => ([], true, c)
      | (some breaks, c) => (foldBreaks first breaks, true, c)

/-- A plain scalar after `text` and `space`; also whether it ends after a line break. -/
def plainFrom (flow : Bool) (indent : Int) :
    Nat → List Char → List Char → Bool → Cursor → List Char × Bool × Cursor
  | 0, text, _, crossed, c => (text, crossed, c)
  | fuel + 1, text, space, crossed, c =>
    let n := plainRun flow c.rest
    if c.peek 0 = some '#' ∨ n = 0 then (text, crossed, c)
    else
      let text := text ++ space ++ c.rest.take n
      let (space, crossed, c) := plainSpace (c.forward n)
      if space.isEmpty || c.peek 0 == some '#' || (!flow && decide ((c.column : Int) < indent)) then
        (text, crossed, c)
      else plainFrom flow indent fuel text space crossed c

/-! ## Quoted scalars -/

/-- The code point of a one-letter escape. -/
def escape? (c : Char) : Option Nat :=
  match c with
  | '0' => some 0x00
  | 'a' => some 0x07
  | 'b' => some 0x08
  | 't' => some 0x09
  | '\t' => some 0x09
  | 'n' => some 0x0A
  | 'v' => some 0x0B
  | 'f' => some 0x0C
  | 'r' => some 0x0D
  | 'e' => some 0x1B
  | ' ' => some 0x20
  | '"' => some 0x22
  | '\\' => some 0x5C
  | '/' => some 0x2F
  | 'N' => some 0x85
  | '_' => some 0xA0
  | 'L' => some 0x2028
  | 'P' => some 0x2029
  | _ => none

/-- How many digits follow the letter of an escape by number. -/
def escapeDigits? (c : Char) : Option Nat :=
  match c with
  | 'x' => some 2
  | 'u' => some 4
  | 'U' => some 8
  | _ => none

/-- Breaks and blanks at the beginning of lines of a quoted scalar. -/
def quotedBreaks : Nat → List Char → Cursor → Except Error (List Char × Cursor)
  | 0, breaks, c => .ok (breaks, c)
  | fuel + 1, breaks, c =>
    if c.atDocumentMark then .error .malformed
    else
      let c := c.skip fun ch => ch == ' ' || ch == '\t'
      if c.rest.isEmpty || !atBreak (c.peek 0) then .ok (breaks, c)
      else
        let (text, c) := c.takeBreak
        quotedBreaks fuel (breaks ++ text) c

/-- An escape after its backslash. -/
def readEscape (c : Cursor) : Except Error (List Nat × Cursor) :=
  match c.peek 0 with
  | none => .error .malformed
  | some ch =>
    match escape? ch, escapeDigits? ch with
    | some n, _ => .ok ([n], c.step)
    | none, some size =>
      let digits := (c.rest.drop 1).take size
      if digits.length < size || !digits.all fun d => (Text.hexDigit? d).isSome then
        .error .malformed
      else
        let n := Text.hexValue digits
        if 0x80000000 ≤ n then .error .hugeCode
        else if 0x110000 ≤ n then .error .badCode
        else .ok ([n], c.forward (size + 1))
    | none, none =>
      if isBreak ch then do
        let (_, c) := c.takeBreak
        let (breaks, c) ← quotedBreaks (c.rest.length + 1) [] c
        .ok (codes breaks, c)
      else .error .malformed

/-- A quoted scalar after `text`, up to its closing quote. -/
def quotedFrom (double : Bool) : Nat → List Nat → Cursor → Except Error (List Nat × Cursor)
  | 0, _, _ => .error .malformed
  | fuel + 1, text, c =>
    match c.peek 0 with
    | none => .error .malformed
    | some ch =>
      if ch = '\'' ∧ ¬ double then
        if c.peek 1 = some '\'' then quotedFrom double fuel (0x27 :: text) (c.forward 2)
        else .ok (text.reverse, c.step)
      else if ch = '"' ∧ double then .ok (text.reverse, c.step)
      else if ch = '\\' ∧ double then do
        let (ns, c) ← readEscape c.step
        quotedFrom double fuel (ns.reverse ++ text) c
      else if atBlank (some ch) then
        let blanks := c.rest.takeWhile fun d => d == ' ' || d == '\t'
        let after := c.forward blanks.length
        if after.rest.isEmpty then .error .malformed
        else if atBreak (after.peek 0) then do
          let (first, c) := after.takeBreak
          let (breaks, c) ← quotedBreaks (c.rest.length + 1) [] c
          quotedFrom double fuel ((codes (foldBreaks first breaks)).reverse ++ text) c
        else quotedFrom double fuel ((codes blanks).reverse ++ text) after
      else quotedFrom double fuel (ch.toNat :: text) c.step

/-! ## Block scalars -/

/-- What the header of a block scalar says: whether line breaks at its end are kept (all, or by
default one), and how far it is indented. -/
structure BlockHeader where
  keep : Option Bool
  indent : Option Nat

/-- The digit of an indentation, which is not zero. -/
def indentDigit? : Option Char → Option Nat
  | some c => if '0' ≤ c ∧ c ≤ '9' then some (c.toNat - 48) else none
  | none => none

/-- The mark for line breaks at the end. -/
def keepMark? : Option Char → Option Bool
  | some '+' => some true
  | some '-' => some false
  | _ => none

/-- The header of a block scalar, in either order. -/
def blockHeader (c : Cursor) : Except Error (BlockHeader × Cursor) :=
  let read : BlockHeader × Cursor :=
    match keepMark? (c.peek 0) with
    | some keep =>
      match indentDigit? (c.peek 1) with
      | some n => (⟨some keep, some n⟩, c.forward 2)
      | none => (⟨some keep, none⟩, c.step)
    | none =>
      match indentDigit? (c.peek 0) with
      | some n =>
        match keepMark? (c.peek 1) with
        | some keep => (⟨some keep, some n⟩, c.forward 2)
        | none => (⟨none, some n⟩, c.step)
      | none => (⟨none, none⟩, c)
  if read.1.indent = some 0 ∨ ¬ atSpace (read.2.peek 0) then .error .malformed
  else
    let c := read.2.skipSpaces.skipComment
    if atBreak (c.peek 0) then .ok (read.1, c.takeBreak.2) else .error .malformed

/-- Empty lines before a block scalar's first line, and the widest indentation among them. -/
def blockIndentation : Nat → List Char → Nat → Cursor → List Char × Nat × Cursor
  | 0, breaks, widest, c => (breaks, widest, c)
  | fuel + 1, breaks, widest, c =>
    match c.peek 0 with
    | some ' ' =>
      let c := c.step
      blockIndentation fuel breaks (max widest c.column) c
    | some ch =>
      if isBreak ch then
        let (text, c) := c.takeBreak
        blockIndentation fuel (breaks ++ text) widest c
      else (breaks, widest, c)
    | none => (breaks, widest, c)

/-- The position after at most as many spaces as are missing to a column. -/
def skipIndent (indent : Nat) (c : Cursor) : Cursor :=
  c.forward (min (c.run (· == ' ')) (indent - c.column))

/-- Empty lines between the lines of a block scalar. -/
def blockBreaks (indent : Nat) : Nat → List Char → Cursor → List Char × Cursor
  | 0, breaks, c => (breaks, c)
  | fuel + 1, breaks, c =>
    if c.rest.isEmpty || !atBreak (c.peek 0) then (breaks, c)
    else
      let (text, c) := c.takeBreak
      blockBreaks indent fuel (breaks ++ text) (skipIndent indent c)

/-- What has been read of a block scalar: its text, the last line break and the empty lines after
it. -/
structure BlockText where
  text : List Char
  lineBreak : List Char
  breaks : List Char

/-- The lines of a block scalar. -/
def blockLines (folded : Bool) (indent : Nat) : Nat → BlockText → Cursor → BlockText × Cursor
  | 0, b, c => (b, c)
  | fuel + 1, b, c =>
    if c.column ≠ indent ∨ c.rest.isEmpty then (b, c)
    else
      let isText (o : Option Char) : Bool := o != some ' ' && o != some '\t'
      let opens := isText (c.peek 0)
      let n := c.run fun ch => !isBreak ch
      let text := b.text ++ b.breaks ++ c.rest.take n
      let (lineBreak, c) := (c.forward n).takeBreak
      let (breaks, c) := blockBreaks indent (c.rest.length + 1) [] (skipIndent indent c)
      if c.column = indent ∧ ¬ c.rest.isEmpty then
        let text :=
          if folded && lineBreak == ['\n'] && opens && isText (c.peek 0) then
            (if breaks.isEmpty then text ++ [' '] else text)
          else text ++ lineBreak
        blockLines folded indent fuel ⟨text, lineBreak, breaks⟩ c
      else (⟨text, lineBreak, breaks⟩, c)

/-- A block scalar after its indicator, inside a block with the given indentation. -/
def blockScalar (folded : Bool) (outer : Int) (c : Cursor) :
    Except Error (List Nat × Cursor) := do
  let (header, c) ← blockHeader c
  let least := (max (outer + 1) 1).toNat
  let (breaks, indent, c) :=
    match header.indent with
    | none =>
      let (breaks, widest, c) := blockIndentation (c.rest.length + 1) [] 0 c
      (breaks, max least widest, c)
    | some n =>
      let indent := least + n - 1
      let (breaks, c) := blockBreaks indent (c.rest.length + 1) [] (skipIndent indent c)
      (breaks, indent, c)
  let (b, c) := blockLines folded indent (c.rest.length + 1) ⟨[], [], breaks⟩ c
  let text := b.text ++ (if header.keep = some false then [] else b.lineBreak) ++
    (if header.keep = some true then b.breaks else [])
  return (codes text, c)

end Courier.Yaml
