import Courier.Number.Numeral
import Courier.Data.Literal

/-!
# Tokens of a path

The text of a path as tokens: names, numbers, operators between backquotes and marks. A token is
read only when the grammar asks for it, so a fault in the text stands at the end of the tokens that
precede it.
-/

namespace Courier.JsonPath

/-- What a token is. -/
inductive TokenKind where
  | name (s : CodeText)
  | number (n : Int)
  | operator (s : CodeText)
  | keywordWhere
  | keywordWhereNot
  | dots
  | mark (c : Char)
  deriving DecidableEq, Repr

/-- A token, the line and the column where it stands, and its position in the text. A quoted token
stands at its closing quote. -/
structure Token where
  kind : TokenKind
  line : Nat
  column : Int
  position : Nat
  deriving DecidableEq, Repr

/-- Why a text is no path. -/
inductive PathError where
  | badChar (line : Nat) (column : Int) (c : Text.CodePoint)
  | badQuoted (line : Nat) (column : Int) (what : String) (c : Char)
  | openQuote
  | atEnd
  | atToken (t : Token)
  | unknownOperator (name : CodeText) (line position : Nat)
  /-- A number has this many digits, which is too many. -/
  | tooManyDigits (count : Nat)
  deriving DecidableEq, Repr

namespace TokenKind

/-- A token as messages show it. -/
def text : TokenKind → CodeText
  | name s => s
  | number n => toString n
  | operator s => s
  | keywordWhere => "where"
  | keywordWhereNot => "wherenot"
  | dots => ".."
  | mark c => String.singleton c

/-- The class of a token. -/
def className : TokenKind → String
  | name _ => "ID"
  | number _ => "NUMBER"
  | operator _ => "NAMED_OPERATOR"
  | keywordWhere => "WHERE"
  | keywordWhereNot => "WHERENOT"
  | dots => "DOUBLEDOT"
  | mark c => String.singleton c

/-- A name, unless it is a keyword. -/
def ofWord (s : CodeText) : TokenKind :=
  if s = "where" then keywordWhere else if s = "wherenot" then keywordWhereNot else name s

end TokenKind

/-- The words for an error. -/
def PathError.message : PathError → CodeText
  | badChar line column c =>
    "Error on line " ++ toString line ++ ", col " ++ toString column ++
      ": Unexpected character: " ++ [c] ++ " "
  | badQuoted line column what c =>
    "Error on line " ++ toString line ++ ", col " ++ toString column ++ " while lexing " ++ what ++
      ": Unexpected character: " ++ String.singleton c
  | openQuote => "Unexpected EOF in string literal or identifier"
  | atEnd => "Parse error near the end of string!"
  | atToken t =>
    "Parse error at " ++ toString t.line ++ ":" ++ toString t.column ++ " near token " ++
      t.kind.text ++ " (" ++ t.kind.className ++ ")"
  | unknownOperator name line position =>
    "Unknown named operator `" ++ name ++ "` at " ++ toString line ++ ":" ++ toString position
  | tooManyDigits count => unreadableMessage count

/-- Whether a name may begin with `c`. -/
def isNameStart (c : Char) : Bool :=
  ('a' ≤ c && c ≤ 'z') || ('A' ≤ c && c ≤ 'Z') || c == '_' || c == '@' ||
    (0x4E00 ≤ c.toNat && c.toNat ≤ 0x9FA5) || (0x1F600 ≤ c.toNat && c.toNat ≤ 0x1F64F)

/-- Whether a name may go on with `c`. -/
def isNameChar (c : Char) : Bool :=
  isNameStart c || ('0' ≤ c && c ≤ '9') || c == '-'

/-- Whether `c` is a decimal digit of any script. -/
def isDecimal (c : Char) : Bool :=
  (Text.decimalValue? c).isSome

/-- Characters that are tokens by themselves. -/
def isMark (c : Char) : Bool :=
  "*.[]()$,:|&~".toList.contains c

/-- What stands between quotes, and what follows the closing quote. A backslash stands for the
character after it, which may not be a line feed. -/
inductive Quoted where
  | closed (text : CodeText) (read : Nat) (rest : CodeText)
  | faulty (read : Nat) (c : Char)
  | unclosed

/-- Reads up to the closing quote `q`; `text` is read already, in reverse. -/
def readQuoted (q : Text.CodePoint) (text : CodeText) (read : Nat) : CodeText → Quoted
  | [] => .unclosed
  | .char '\\' :: c :: r =>
    if c = '\n' then .faulty read '\\' else readQuoted q (c :: text) (read + 2) r
  | c :: r =>
    if c = q then .closed text.reverse read r
    else if c = '\\' then .faulty read '\\'
    else readQuoted q (c :: text) (read + 1) r

/-- What a quote introduces, for messages. -/
def quotedName (q : Text.CodePoint) : String :=
  if q = '\'' then "singlequoted field" else if q = '"' then "doublequoted field"
  else "backquoted operator"

/-- The tokens of a text from a position on, and the fault after the last of them, if there is
one. Each step takes a character, so the length of the text is enough for `fuel`. -/
def tokensFrom : Nat → Nat → Nat → Nat → CodeText → List Token × Option PathError
  | 0, _, _, _, _ => ([], none)
  | _, _, _, _, [] => ([], none)
  | fuel + 1, line, newline, pos, c :: r =>
    let column : Int := pos - newline
    let emit (kind : TokenKind) (size : Nat) : List Token × Option PathError :=
      let (ts, e) := tokensFrom fuel line newline (pos + size) ((c :: r).drop size)
      (⟨kind, line, column, pos⟩ :: ts, e)
    if c = ' ' ∨ c = '\t' then tokensFrom fuel line newline (pos + 1) r
    else if c = '\n' then tokensFrom fuel (line + 1) pos (pos + 1) r
    else if c.satisfies isNameStart then
      let word := c :: r.takeWhile (·.satisfies isNameChar)
      emit (.ofWord word) word.length
    else if c.satisfies isDecimal ||
        (c == '-' && (r.head?.map (·.satisfies isDecimal)).getD false) then
      let body := if c = '-' then r else c :: r
      let digits := (body.takeWhile (·.satisfies isDecimal)).filterMap (·.char?)
      if maxDigits < digits.length then ([], some (.tooManyDigits digits.length))
      else
        let n := Numeral.ofSignedDigits (c == '-') (Numeral.toAscii digits)
        emit (.number n) (digits.length + (if c = '-' then 1 else 0))
    else if c = '\'' ∨ c = '"' ∨ c = '\x60' then
      match readQuoted c [] 0 r with
      | .unclosed => ([], some .openQuote)
      | .faulty read d => ([], some (.badQuoted line (pos + 1 + read - newline) (quotedName c) d))
      | .closed text read rest =>
        let kind : TokenKind := if c = '\x60' then .operator text else .name text
        let (ts, e) := tokensFrom fuel line newline (pos + read + 2) rest
        (⟨kind, line, column + 1 + read, pos + 1 + read⟩ :: ts, e)
    else if c = '.' ∧ r.head? = some '.' then emit .dots 2
    else
      match c.char?.filter isMark with
      | some mark => emit (.mark mark) 1
      | none => ([], some (.badChar line column c))

/-- The tokens of a text, and the fault after the last of them. -/
def tokens (s : CodeText) : List Token × Option PathError :=
  tokensFrom s.length 1 0 0 s

end Courier.JsonPath
