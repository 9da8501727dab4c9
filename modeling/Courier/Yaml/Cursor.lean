/-!
# Positions in a YAML text

A cursor is what is left of a text, with the line and the column that it stands at. Line feeds,
next lines and the two separators end a line.
-/

namespace Courier.Yaml

/-- Why a text is not read as data. -/
inductive Error where
  /-- The text is not YAML, or not of the kind of data that is read. -/
  | malformed
  /-- A scalar is not what its tag says. -/
  | badInteger (base : Nat) (text : String)
  | tooManyDigits (count : Nat)
  | badFloat (text : String)
  | badBool (text : String)
  | emptyNumber
  | badTime
  | outOfRange (message : String)
  | badCode
  | hugeCode
  /-- A node holds itself. -/
  | endless
  deriving DecidableEq, Repr

/-- A position in a text. -/
structure Cursor where
  rest : List Char
  index : Nat
  line : Nat
  column : Nat

/-- Whether a character ends a line. -/
def isBreak (c : Char) : Bool :=
  c == '\n' || c == '\x85' || c == '\u2028' || c == '\u2029'

/-- Whether a place holds a line break or the end of the text. -/
def atBreak : Option Char → Bool
  | none => true
  | some c => isBreak c

/-- Whether a place holds a space, a line break or the end of the text. -/
def atSpace : Option Char → Bool
  | none => true
  | some c => isBreak c || c == ' '

/-- Whether a place holds a blank, a line break or the end of the text. -/
def atBlank : Option Char → Bool
  | none => true
  | some c => isBreak c || c == ' ' || c == '\t'

namespace Cursor

/-- The beginning of a text. -/
def start (cs : List Char) : Cursor := ⟨cs, 0, 0, 0⟩

/-- The character at a distance. -/
def peek (c : Cursor) (k : Nat) : Option Char := c.rest[k]?

/-- The position after one character. A byte order mark takes no column. -/
def step (c : Cursor) : Cursor :=
  match c.rest with
  | [] => c
  | ch :: r =>
    if isBreak ch then ⟨r, c.index + 1, c.line + 1, 0⟩
    else if ch = '\ufeff' then ⟨r, c.index + 1, c.line, c.column⟩
    else ⟨r, c.index + 1, c.line, c.column + 1⟩

/-- The position after `n` characters. -/
def forward (c : Cursor) : Nat → Cursor
  | 0 => c
  | n + 1 => c.step.forward n

/-- How many of the next characters satisfy `p`. -/
def run (c : Cursor) (p : Char → Bool) : Nat := (c.rest.takeWhile p).length

/-- The position after all next characters that satisfy `p`. -/
def skip (c : Cursor) (p : Char → Bool) : Cursor := c.forward (c.run p)

/-- The position after spaces. -/
def skipSpaces (c : Cursor) : Cursor := c.skip (· == ' ')

/-- The position at the end of a comment, if there is one. -/
def skipComment (c : Cursor) : Cursor :=
  if c.peek 0 = some '#' then c.skip (fun ch => !isBreak ch) else c

/-- The text of a line break and the position after it. Next line counts as line feed. -/
def takeBreak (c : Cursor) : List Char × Cursor :=
  match c.peek 0 with
  | some ch =>
    if isBreak ch then ([if ch = '\x85' then '\n' else ch], c.step) else ([], c)
  | none => ([], c)

/-- Whether a mark of three characters, followed by a blank, stands here. -/
def atMark (c : Cursor) (mark : Char) : Bool :=
  c.peek 0 == some mark && c.peek 1 == some mark && c.peek 2 == some mark && atBlank (c.peek 3)

/-- Whether a mark that separates documents stands here. -/
def atDocumentMark (c : Cursor) : Bool := c.atMark '-' || c.atMark '.'

end Cursor

end Courier.Yaml
