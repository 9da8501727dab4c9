import Courier.Number.Numeral
import Courier.Text.Blank
import Courier.Text.Charset
import Courier.Text.EncodingFault
import Courier.Text.Percent

/-!
# Media types

The character set that a content type names among its parameters (`get_content_charset` of a
message). A parameter stands behind a semicolon; its value may be quoted, escaped with a character
set of its own, or divided into numbered pieces. Parameters that are escaped or divided count after
the plain ones. Every divided parameter has its pieces put in order, whatever its name, and pieces
with a number cannot be compared with pieces without one: a content type that has both for one
parameter has no character set, but a fault.
-/

namespace Courier.MediaType

open Text

/-- The parts of a content type between the semicolons outside quotes. `piece` is the part so far,
backwards; a quote behind a backslash is none. -/
def sections (piece : List Char) (quoted : Bool) : List Char → List (List Char)
  | [] => [piece.reverse]
  | c :: rest =>
    if c = ';' && !quoted then piece.reverse :: sections [] false rest
    else
      let toggles := c = '"' && piece.head? != some '\\'
      sections (c :: piece) (quoted != toggles) rest

/-- A value without its quotes or brackets. -/
def unquote (cs : List Char) : List Char :=
  if 1 < cs.length then
    if cs.head? == some '"' && cs.getLast? == some '"' then unescape '"' (unescape '\\' (inner cs))
    else if cs.head? == some '<' && cs.getLast? == some '>' then inner cs
    else cs
  else cs
where
  /-- The text between its first and its last character. -/
  inner (cs : List Char) : List Char := (cs.drop 1).dropLast
  /-- Drops the backslash in front of a mark. -/
  unescape (mark : Char) : List Char → List Char
    | '\\' :: c :: rest =>
      if c = mark then mark :: unescape mark rest else '\\' :: unescape mark (c :: rest)
    | c :: rest => c :: unescape mark rest
    | [] => []

/-- A parameter as it is written: its name, in lower case if a value follows, and its value. -/
structure Parameter where
  name : List Char
  value : List Char
  deriving DecidableEq, Repr

/-- Reads a part. -/
def parameter (part : List Char) : Parameter :=
  let name := trimWhile isBlankChar (part.takeWhile (· != '='))
  ⟨if part.contains '=' then (lower (String.ofList name)).toList else name,
    unquote (trimWhile isBlankChar ((part.dropWhile (· != '=')).drop 1))⟩

/-- Whether a name is that of the character set. -/
def isCharset (name : List Char) : Bool := lower (String.ofList name) == "charset"

/-- What an asterisk in a parameter's name says: the parameter that this is a piece of, the digits of
the piece's number, if it has one, and whether the value is escaped. -/
structure Piece where
  name : List Char
  digits : List Char
  escaped : Bool
  value : List Char
  deriving DecidableEq, Repr

/-- Whether a character may stand in the name of a parameter in pieces. -/
def isWordChar (c : Char) : Bool := c.isAlphanum || c == '_'

/-- The piece that a parameter is. -/
def piece? (p : Parameter) : Option Piece :=
  let name := p.name.takeWhile isWordChar
  match name, p.name.drop name.length with
  | _ :: _, '*' :: tail =>
    let digits := tail.takeWhile Numeral.isDigit
    match digits, tail.drop digits.length with
    | [], [] => some ⟨name, [], true, p.value⟩
    | _ :: _, [] => some ⟨name, digits, false, p.value⟩
    | _ :: _, ['*'] => some ⟨name, digits, true, p.value⟩
    | _, _ => none
  | _, _ => none

/-- The number of a piece. -/
def Piece.number (p : Piece) : Option Nat :=
  if p.digits.isEmpty then none else some (Numeral.ofDigits p.digits)

/-- The value of a piece without its escapes, each of which is the character of its number. -/
def Piece.text (p : Piece) : List Char :=
  if p.escaped then unescape p.value else p.value
where
  /-- Replaces escapes by the characters of their numbers. -/
  unescape : List Char → List Char
    | '%' :: a :: b :: rest =>
      if (hexDigit? a).isSome && (hexDigit? b).isSome then
        Char.ofNat (hexValue [a, b]) :: unescape rest
      else '%' :: unescape (a :: b :: rest)
    | c :: rest => c :: unescape rest
    | [] => []

/-- The bytes of characters, those beyond the first 256 written by their numbers. -/
def rawBytes (cs : List Char) : List UInt8 :=
  cs.flatMap fun c =>
    if c.toNat < 0x100 then [UInt8.ofNat c.toNat] else Utf8.encode (EncodingFault.escaped c.toNat)

/-- A value read in the character set of a name, or as it is if that does not go. -/
def decodedIn (set : String) (value : List Char) : List Char :=
  match (Charset.ofName? set).bind (·.decode? (rawBytes value)) with
  | none => value
  | some codes =>
    if codes.contains Charset.replacement.toNat then value
    else codes.map fun n => if isSurrogate n then Charset.replacement else Char.ofNat n

/-- A value that was escaped: what stands behind its character set and its language is read in that
character set. A name with a null in it spoils the value. -/
def unescaped (cs : List Char) : Option (List Char) :=
  match splitAtAll (· == '\x27') cs with
  | set :: _ :: rest@(_ :: _) =>
    if set.contains '\x00' then none
    else some (decodedIn (if set.isEmpty then "us-ascii" else String.ofList set)
      (['\x27'].intercalate rest))
  | _ => some (decodedIn "us-ascii" cs)

/-- Whether a piece stands before another: by number, then by value, then the one that is not
escaped. -/
def Piece.le (a b : Piece) : Bool :=
  let i := a.number.getD 0
  let j := b.number.getD 0
  i < j || (i == j && (String.ofList a.value < String.ofList b.value ||
    (a.value == b.value && (!a.escaped || b.escaped))))

/-- The value that the pieces of a parameter make up. -/
def joinPieces (pieces : List Piece) : Option (List Char) :=
  let text := (pieces.mergeSort Piece.le).flatMap Piece.text
  if pieces.any fun p => p.escaped then unescaped text else some text

/-- The pieces of each parameter, parameters in the order of their first pieces. -/
def groups (pieces : List Piece) : List (List Piece) :=
  (pieces.map Piece.name).eraseDups.map fun name => pieces.filter fun p => p.name == name

/-- Pieces of one parameter that cannot be put in order, since some have a number and some have
none; `numberedFirst` tells what the first piece is. -/
structure Unordered where
  numberedFirst : Bool
  deriving DecidableEq, Repr

/-- The words for it. -/
def Unordered.message (e : Unordered) : String :=
  let (later, earlier) := if e.numberedFirst then ("NoneType", "int") else ("int", "NoneType")
  "'<' not supported between instances of '" ++ later ++ "' and '" ++ earlier ++ "'"

/-- Whether the pieces of a parameter cannot be put in order. -/
def unordered? : List Piece → Option Unordered
  | [] => none
  | p :: rest =>
    let numbered := p.number.isSome
    if rest.any fun q => q.number.isSome != numbered then some ⟨numbered⟩ else none

/-- The value of the character set: a plain parameter counts before one in pieces. -/
def charsetValue? (parameters : List Parameter) (groups : List (List Piece)) :
    Option (List Char) :=
  match parameters.find? fun p => isCharset p.name with
  | some p => some p.value
  | none => (groups.find? fun pieces => pieces.any fun p => isCharset p.name).bind joinPieces

/-- The name of the character set of a content type, in lower case. A name outside ASCII is none,
and so is an empty one. There is none either where a piece has a number of too many digits. -/
def charset? (contentType : String) : Except Unordered (Option String) :=
  let parameters := (sections [] false contentType.toList).map parameter
  let pieces := (parameters.drop 1).filterMap piece?
  if pieces.any fun p => maxDigits < p.digits.length then .ok none
  else
    match (groups pieces).findSome? unordered? with
    | some e => .error e
    | none => .ok <| (charsetValue? parameters (groups pieces)).bind fun name =>
        if !name.isEmpty && name.all fun c => c.toNat < 0x80 then
          some (lowerAscii (String.ofList name))
        else none

end Courier.MediaType
