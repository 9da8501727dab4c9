import Courier.Text.Utf8
import Courier.Yaml.Scalar

/-!
# Tokens of a YAML text

A text as tokens. Indentation becomes tokens that open and close blocks. Whether a node is the key
of a mapping shows only at the colon after it, so the places where a key may have begun are kept,
and the tokens that announce it are put in there when the colon comes.
-/

namespace Courier.Yaml

/-- A token. -/
inductive Token where
  | versionDirective (major : Nat)
  | tagDirective (handle tagPrefix : String)
  | otherDirective
  | documentStart
  | documentEnd
  | blockSequenceStart
  | blockMappingStart
  | blockEnd
  | flowSequenceStart
  | flowMappingStart
  | flowSequenceEnd
  | flowMappingEnd
  | blockEntry
  | flowEntry
  | key
  | value
  | alias (name : String)
  | anchor (name : String)
  | tag (handle : Option String) (suffix : String)
  | scalar (text : List Nat) (plain : Bool)
  deriving DecidableEq, Repr

/-- A place where a key may have begun: its token, and its position. A required key has to become
one. -/
structure KeyPlace where
  token : Nat
  required : Bool
  index : Nat
  line : Nat
  column : Nat

/-- The state of scanning: the tokens so far, the indentation with those around it, and the places
of possible keys by depth of flow collections. -/
structure Scanner where
  cursor : Cursor
  tokens : Array Token
  flow : Nat
  indent : Int
  indents : List Int
  keyAllowed : Bool
  places : List (Nat × KeyPlace)

/-- How far a key may extend. -/
def keyLimit : Nat := 1024

namespace Scanner

/-- The beginning of a text. -/
def start (cs : List Char) : Scanner := ⟨.start cs, #[], 0, -1, [], true, []⟩

/-- Adds a token. -/
def push (s : Scanner) (t : Token) : Scanner := { s with tokens := s.tokens.push t }

/-- Adds a token of some characters. -/
def take (s : Scanner) (n : Nat) (t : Token) : Scanner :=
  { s.push t with cursor := s.cursor.forward n }

/-- Forgets places of keys that can no longer become one. -/
def dropStale (s : Scanner) : Except Error Scanner :=
  let isStale (p : Nat × KeyPlace) : Bool :=
    p.2.line != s.cursor.line || decide (keyLimit + p.2.index < s.cursor.index)
  if s.places.any fun p => isStale p && p.2.required then .error .malformed
  else .ok { s with places := s.places.filter fun p => !isStale p }

/-- The place of a key at the present depth. -/
def place? (s : Scanner) : Option KeyPlace :=
  (s.places.find? fun p => p.1 == s.flow).map Prod.snd

/-- Forgets the place of a key at the present depth. -/
def dropPlace (s : Scanner) : Except Error Scanner :=
  match s.place? with
  | some p =>
    if p.required then .error .malformed
    else .ok { s with places := s.places.filter fun q => q.1 != s.flow }
  | none => .ok s

/-- Remembers that a key may begin here. -/
def savePlace (s : Scanner) : Except Error Scanner := do
  if s.keyAllowed then
    let s ← s.dropPlace
    let required := s.flow == 0 && s.indent == (s.cursor.column : Int)
    let place : KeyPlace :=
      ⟨s.tokens.size, required, s.cursor.index, s.cursor.line, s.cursor.column⟩
    return { s with places := (s.flow, place) :: s.places }
  else return s

/-- Closes blocks that are indented further than a column. -/
def unwind (s : Scanner) (column : Int) : List Int → Scanner
  | [] => s
  | outer :: rest =>
    if column < s.indent then
      ({ s.push .blockEnd with indent := outer, indents := rest } : Scanner).unwind column rest
    else s

/-- Closes blocks, outside of flow collections. -/
def unwindTo (s : Scanner) (column : Int) : Scanner :=
  if s.flow = 0 then s.unwind column s.indents else s

/-- Opens a block at a column that is indented further; the token goes to the place given. -/
def openBlock (s : Scanner) (column : Nat) (place : Nat) (t : Token) : Scanner :=
  if s.indent < column then
    { s with
      indents := s.indent :: s.indents
      indent := column
      tokens := s.tokens.insertIdxIfInBounds place t }
  else s

/-- The position of the next token; line breaks before it allow a key outside of flow
collections. -/
def skipBlank : Nat → Scanner → Scanner
  | 0, s => s
  | fuel + 1, s =>
    let c := s.cursor
    let c := if c.index = 0 ∧ c.peek 0 = some '\ufeff' then c.step else c
    let c := c.skipSpaces.skipComment
    match c.peek 0 with
    | some ch =>
      if isBreak ch then
        skipBlank fuel { s with cursor := c.step, keyAllowed := s.keyAllowed || s.flow == 0 }
      else { s with cursor := c }
    | none => { s with cursor := c }

/-- Whether a character may stand in the name of an anchor or a handle. -/
def isWordChar (c : Char) : Bool :=
  ('0' ≤ c && c ≤ '9') || ('A' ≤ c && c ≤ 'Z') || ('a' ≤ c && c ≤ 'z') || c == '-' || c == '_'

/-- Whether a character may stand in a tag. -/
def isUriChar (c : Char) : Bool :=
  ('0' ≤ c && c ≤ '9') || ('A' ≤ c && c ≤ 'Z') || ('a' ≤ c && c ≤ 'z') ||
    "-;/?:@&=+$,_.!~*'()[]".toList.contains c

/-- Bytes escaped one after another. -/
def uriEscapes : Nat → Cursor → Except Error (List UInt8 × Cursor)
  | 0, c => .ok ([], c)
  | fuel + 1, c =>
    if c.peek 0 = some '%' then
      match (c.peek 1).bind Text.hexDigit?, (c.peek 2).bind Text.hexDigit? with
      | some a, some b => do
        let (bs, c) ← uriEscapes fuel (c.forward 3)
        .ok (UInt8.ofNat (16 * a + b) :: bs, c)
      | _, _ => .error .malformed
    else .ok ([], c)

/-- The characters of a tag. -/
def uriFrom : Nat → List Char → Cursor → Except Error (List Char × Cursor)
  | 0, text, c => .ok (text, c)
  | fuel + 1, text, c =>
    match c.peek 0 with
    | some '%' => do
      let (bs, c) ← uriEscapes (c.rest.length + 1) c
      match Text.Utf8.decode? bs with
      | some s => uriFrom fuel (text ++ s.toList) c
      | none => .error .malformed
    | some ch => if isUriChar ch then uriFrom fuel (text ++ [ch]) c.step else .ok (text, c)
    | none => .ok (text, c)

/-- A tag, which is not empty. -/
def readUri (c : Cursor) : Except Error (String × Cursor) := do
  let (text, c) ← uriFrom (c.rest.length + 1) [] c
  if text.isEmpty then .error .malformed else .ok (String.ofList text, c)

/-- A handle: an exclamation mark, or a word between two. -/
def readHandle (c : Cursor) : Except Error (String × Cursor) :=
  if c.peek 0 ≠ some '!' then .error .malformed
  else if c.peek 1 = some ' ' then .ok ("!", c.step)
  else
    let word := (c.rest.drop 1).takeWhile isWordChar
    if c.peek (word.length + 1) = some '!' then
      .ok (String.ofList ('!' :: word ++ ['!']), c.forward (word.length + 2))
    else .error .malformed

/-- A tag with its handle. -/
def readTag (c : Cursor) : Except Error (Token × Cursor) := do
  let (token, c) ←
    if c.peek 1 = some '<' then do
      let (uri, c) ← readUri (c.forward 2)
      if c.peek 0 = some '>' then pure (Token.tag none uri, c.step) else .error .malformed
    else if atBlank (c.peek 1) then pure (Token.tag none "!", c.step)
    else
      let word := (c.rest.drop 1).takeWhile fun ch => !atSpace (some ch)
      if word.contains '!' then do
        let (handle, c) ← readHandle c
        let (uri, c) ← readUri c
        pure (Token.tag (some handle) uri, c)
      else do
        let (uri, c) ← readUri c.step
        pure (Token.tag (some "!") uri, c)
  if atSpace (c.peek 0) then return (token, c) else .error .malformed

/-- The name of an anchor or an alias after its mark. -/
def readAnchor (c : Cursor) : Except Error (String × Cursor) :=
  let name := c.rest.takeWhile isWordChar
  let after := c.forward name.length
  if name.isEmpty then .error .malformed
  else if atBlank (after.peek 0) || (after.peek 0).any "?:,]\x7d%@\x60".toList.contains then
    .ok (String.ofList name, after)
  else .error .malformed

/-- Digits of a version. -/
def readVersionPart (c : Cursor) : Except Error (Nat × Cursor) :=
  let digits := c.rest.takeWhile fun ch => '0' ≤ ch && ch ≤ '9'
  if digits.isEmpty then .error .malformed
  else .ok (digits.foldl (fun n d => 10 * n + (d.toNat - 48)) 0, c.forward digits.length)

/-- A directive after its mark. -/
def readDirective (c : Cursor) : Except Error (Token × Cursor) := do
  let name := c.rest.takeWhile isWordChar
  let c := c.forward name.length
  if name.isEmpty || !atSpace (c.peek 0) then throw .malformed
  let (token, c) ←
    if name = "YAML".toList then do
      let (major, c) ← readVersionPart c.skipSpaces
      if c.peek 0 ≠ some '.' then throw .malformed
      let (_, c) ← readVersionPart c.step
      if atSpace (c.peek 0) then pure (Token.versionDirective major, c) else throw .malformed
    else if name = "TAG".toList then do
      let (handle, c) ← readHandle c.skipSpaces
      if c.peek 0 ≠ some ' ' then throw .malformed
      let (tagPrefix, c) ← readUri c.skipSpaces
      if atSpace (c.peek 0) then pure (Token.tagDirective handle tagPrefix, c)
      else throw .malformed
    else pure (Token.otherDirective, c.skip fun ch => !isBreak ch)
  let c := c.skipSpaces.skipComment
  if atBreak (c.peek 0) then return (token, c.takeBreak.2) else throw .malformed

/-- A mark between documents, or a directive: all blocks end before it. -/
def endBlocks (s : Scanner) : Except Error Scanner := do
  let s ← (s.unwindTo (-1)).dropPlace
  return { s with keyAllowed := false }

/-- The beginning of a flow collection, which may be a key. -/
def openFlow (s : Scanner) (t : Token) : Except Error Scanner := do
  let s ← s.savePlace
  return { s.take 1 t with flow := s.flow + 1, keyAllowed := true }

/-- The end of a flow collection. -/
def closeFlow (s : Scanner) (t : Token) : Except Error Scanner := do
  let s ← s.dropPlace
  return { s.take 1 t with flow := s.flow - 1, keyAllowed := false }

/-- The mark of an item of a block sequence. -/
def blockEntry (s : Scanner) : Except Error Scanner := do
  if s.flow = 0 ∧ ¬ s.keyAllowed then throw .malformed
  let s := if s.flow = 0 then s.openBlock s.cursor.column s.tokens.size .blockSequenceStart else s
  let s ← { s with keyAllowed := true }.dropPlace
  return s.take 1 .blockEntry

/-- The mark of a key. -/
def explicitKey (s : Scanner) : Except Error Scanner := do
  if s.flow = 0 ∧ ¬ s.keyAllowed then throw .malformed
  let s := if s.flow = 0 then s.openBlock s.cursor.column s.tokens.size .blockMappingStart else s
  let s ← { s with keyAllowed := s.flow == 0 }.dropPlace
  return s.take 1 .key

/-- The mark of a value. What may have been a key before it is one. -/
def valueMark (s : Scanner) : Except Error Scanner := do
  match s.place? with
  | some p =>
    let s := { s with
      places := s.places.filter fun q => q.1 != s.flow
      tokens := s.tokens.insertIdxIfInBounds p.token .key
      keyAllowed := false }
    let s := if s.flow = 0 then s.openBlock p.column p.token .blockMappingStart else s
    return s.take 1 .value
  | none =>
    if s.flow = 0 ∧ ¬ s.keyAllowed then throw .malformed
    let s := if s.flow = 0 then s.openBlock s.cursor.column s.tokens.size .blockMappingStart else s
    let s ← { s with keyAllowed := s.flow == 0 }.dropPlace
    return s.take 1 .value

/-- A token that may be a key or the beginning of one. -/
def keyToken (s : Scanner) (read : Cursor → Except Error (Token × Cursor)) :
    Except Error Scanner := do
  let s ← s.savePlace
  let (t, c) ← read s.cursor
  return { s.push t with cursor := c, keyAllowed := false }

/-- A quoted scalar. -/
def quotedScalar (s : Scanner) (double : Bool) : Except Error Scanner :=
  s.keyToken fun c => do
    let (text, c) ← quotedFrom double (c.rest.length + 1) [] c.step
    return (.scalar text false, c)

/-- A block scalar, after which a key may follow. -/
def blockText (s : Scanner) (folded : Bool) : Except Error Scanner := do
  let s ← { s with keyAllowed := true }.dropPlace
  let (text, c) ← blockScalar folded s.indent s.cursor.step
  return { s.push (.scalar text false) with cursor := c }

/-- A plain scalar; after a line break at its end a key may follow. -/
def plainScalar (s : Scanner) : Except Error Scanner := do
  let s ← s.savePlace
  let (text, crossed, c) :=
    plainFrom (s.flow != 0) (s.indent + 1) (s.cursor.rest.length + 1) [] [] false s.cursor
  return { s.push (.scalar (codes text) true) with cursor := c, keyAllowed := crossed }

/-- Whether a plain scalar may begin here. -/
def atPlain (s : Scanner) : Bool :=
  match s.cursor.peek 0 with
  | none => false
  | some ch =>
    (!atBlank (some ch) && !("-?:,[]\x7b\x7d#&*!|>'\"%@\x60".toList.contains ch)) ||
      (!atBlank (s.cursor.peek 1) && (ch == '-' || (s.flow == 0 && (ch == '?' || ch == ':'))))

/-- The next token, which begins with `ch`. -/
def token (s : Scanner) (ch : Char) : Except Error Scanner := do
  let spaced := atBlank (s.cursor.peek 1)
  let first := s.cursor.column == 0
  if first && ch == '%' then
    let s ← s.endBlocks
    let (t, c) ← readDirective s.cursor.step
    return { s.push t with cursor := c }
  else if first && s.cursor.atMark '-' then return (← s.endBlocks).take 3 .documentStart
  else if first && s.cursor.atMark '.' then return (← s.endBlocks).take 3 .documentEnd
  else if ch = '[' then s.openFlow .flowSequenceStart
  else if ch = '\x7b' then s.openFlow .flowMappingStart
  else if ch = ']' then s.closeFlow .flowSequenceEnd
  else if ch = '\x7d' then s.closeFlow .flowMappingEnd
  else if ch = ',' then
    return (← { s with keyAllowed := true }.dropPlace).take 1 .flowEntry
  else if ch = '-' ∧ spaced then s.blockEntry
  else if ch = '?' ∧ (s.flow ≠ 0 ∨ spaced) then s.explicitKey
  else if ch = ':' ∧ (s.flow ≠ 0 ∨ spaced) then s.valueMark
  else if ch = '*' then
    s.keyToken fun c => do
      let (name, c) ← readAnchor c.step
      return (.alias name, c)
  else if ch = '&' then
    s.keyToken fun c => do
      let (name, c) ← readAnchor c.step
      return (.anchor name, c)
  else if ch = '!' then s.keyToken readTag
  else if ch = '|' ∧ s.flow = 0 then s.blockText false
  else if ch = '>' ∧ s.flow = 0 then s.blockText true
  else if ch = '\'' then s.quotedScalar false
  else if ch = '"' then s.quotedScalar true
  else if s.atPlain then s.plainScalar
  else throw .malformed

/-- All tokens. Each takes a character, so the length of the text is enough for `fuel`. -/
def scan : Nat → Scanner → Except Error (Array Token)
  | 0, _ => .error .malformed
  | fuel + 1, s => do
    let s ← (skipBlank (s.cursor.rest.length + 1) s).dropStale
    let s := s.unwindTo s.cursor.column
    match s.cursor.peek 0 with
    | none =>
      let s ← (s.unwindTo (-1)).dropPlace
      return s.tokens
    | some ch => scan fuel (← s.token ch)

end Scanner

/-- The tokens of a text. -/
def tokens (cs : List Char) : Except Error (List Token) := do
  return (← Scanner.scan (cs.length + 2) (.start cs)).toList

end Courier.Yaml
