import Courier.Domain.Punycode
import Courier.Text.Charset.Desktop
import Courier.Text.Charset.EastAsian
import Courier.Text.Charset.Escapes
import Courier.Text.Charset.Mainframe
import Courier.Text.Charset.Publishing
import Courier.Text.Charset.Standard
import Courier.Text.Charset.Terminal
import Courier.Text.Charset.Units
import Courier.Text.Charset.Utf7
import Courier.Text.Lower
import Courier.Text.Utf8

/-!
# Character sets

The character sets that a text may be in, by their names. In a name only letters, digits and dots
count, and marks between them count as one. A text in a set that is not known by its name, or that
refuses it, is taken for UTF-8. Some sets can write surrogates that are no pair, so that a text is
its code points here.
-/

namespace Courier.Text

/-- A character set. -/
inductive Charset where
  | utf8
  /-- UTF-8, with a mark in front that is no part of the text. -/
  | utf8Marked
  | ascii
  /-- Each byte is the character of its number. -/
  | latin
  /-- Units of two bytes; the order is given by a mark if it is not known. -/
  | units16 (order : Option Charset.ByteOrder)
  /-- Units of four bytes. -/
  | units32 (order : Option Charset.ByteOrder)
  | single (set : Charset.SingleByte)
  | utf7
  /-- Characters with escapes behind backslashes; fewer of them in the raw form. -/
  | escapes (raw : Bool)
  | punycode
  | eastAsian (set : Charset.EastAsian)
  deriving DecidableEq, Repr

namespace Charset

/-- Whether a character counts in a name. -/
def isNameChar (c : Char) : Bool :=
  ('a' ≤ c && c ≤ 'z') || ('0' ≤ c && c ≤ '9') || c == '.'

/-- A name in the form in which names are compared. -/
def normalName (name : String) : String :=
  let words := (splitAtAll (fun c => !isNameChar c) (lowerAscii name).toList).filter
    fun w => !w.isEmpty
  "_".intercalate (words.map String.ofList)

/-- The sets that are not lists of characters, with their names. -/
def namedForms : List (String × Charset) :=
  [("utf_8 u8 utf utf8 utf8_ucs2 utf8_ucs4 cp65001", .utf8),
    ("utf_8_sig", .utf8Marked),
    ("ascii 646 ansi_x3.4_1968 ansi_x3_4_1968 ansi_x3.4_1986 cp367 csascii ibm367 iso646_us
      iso_646.irv_1991 iso_ir_6 us us_ascii", .ascii),
    ("latin_1 8859 cp819 csisolatin1 ibm819 iso8859 iso8859_1 iso_8859_1 iso_8859_1_1987
      iso_ir_100 l1 latin latin1 charmap", .latin),
    ("utf_16 u16 utf16", .units16 none),
    ("utf_16_le unicodelittleunmarked utf_16le", .units16 (some .little)),
    ("utf_16_be unicodebigunmarked utf_16be", .units16 (some .big)),
    ("utf_32 u32 utf32", .units32 none),
    ("utf_32_le utf_32le", .units32 (some .little)),
    ("utf_32_be utf_32be", .units32 (some .big)),
    ("utf_7 u7 utf7 unicode_1_1_utf_7", .utf7),
    ("unicode_escape", .escapes false),
    ("raw_unicode_escape", .escapes true),
    ("punycode", .punycode)]

/-- The sets of one byte. -/
def singleSets : List SingleByte :=
  isoSets ++ desktopSets ++ terminalSets ++ publishingSets ++ mainframeSets

/-- Whether a name is one of those listed. -/
def isListed (names name : String) : Bool :=
  (items names).contains name.toList

/-- The set of a name in normal form. -/
def ofNormalName? (name : String) : Option Charset :=
  match namedForms.find? fun f => isListed f.1 name with
  | some f => some f.2
  | none =>
    match EastAsian.names.find? fun f => isListed f.1 name with
    | some f => some (.eastAsian f.2)
    | none => (singleSets.find? fun s => isListed s.names name).map .single

/-- A name with its dots as marks. -/
def withoutDots (name : String) : String :=
  String.ofList (name.toList.map fun c => if c = '.' then '_' else c)

/-- The set of a name. -/
def ofName? (name : String) : Option Charset :=
  if name.toList.contains '\x00' then none
  else
    let normal := normalName name
    (ofNormalName? normal).orElse fun _ => ofNormalName? (withoutDots normal)

/-- The code points of a text. -/
def codes (s : String) : List Nat := s.toList.map Char.toNat

/-- The code points of Punycode. What stands in front of its last hyphen is ASCII as far as it can
be; behind it there must be nothing else. -/
def decodePunycode? (bytes : List UInt8) : Option (List Nat) :=
  let digits := (bytes.reverse.takeWhile (· != 0x2D)).reverse
  let plain := (bytes.take (bytes.length - digits.length)).dropLast
  if digits.any (0x80 ≤ ·) then none
  else
    some (Domain.Punycode.salvage
      (plain.map fun b => if b.toNat < 0x80 then b.toNat else replacement.toNat)
      (digits.map fun b => Char.ofNat b.toNat))

/-- The code points of bytes. What is no character gives the replacement character; there are none
where the set refuses the whole. -/
def decode? (set : Charset) (bytes : List UInt8) : Option (List Nat) :=
  match set with
  | .utf8 => some (codes (Utf8.decodeLossy bytes))
  | .utf8Marked =>
    some (codes (Utf8.decodeLossy
      (if [0xEF, 0xBB, 0xBF].isPrefixOf bytes then bytes.drop 3 else bytes)))
  | .ascii => some (bytes.map fun b => if b.toNat < 0x80 then b.toNat else replacement.toNat)
  | .latin => some (bytes.map UInt8.toNat)
  | .units16 order =>
    let (o, rest) := (order.map fun o => (o, bytes)).getD (takeMark 2 bytes)
    some ((decodePairs o rest).map Char.toNat)
  | .units32 order =>
    let (o, rest) := (order.map fun o => (o, bytes)).getD (takeMark 4 bytes)
    some ((decodeQuads o rest).map Char.toNat)
  | .single s => some ((s.decode bytes).map Char.toNat)
  | .utf7 => some (Utf7.decode bytes)
  | .escapes raw => some (Escapes.decode raw bytes)
  | .punycode => decodePunycode? bytes
  | .eastAsian s => some (s.decode bytes)

/-- The code points of bytes in a set that is given by its name. -/
def decodeNamed (name : String) (bytes : List UInt8) : List Nat :=
  ((ofName? name).bind (·.decode? bytes)).getD (codes (Utf8.decodeLossy bytes))

end Charset

end Courier.Text
