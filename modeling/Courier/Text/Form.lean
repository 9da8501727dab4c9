import Courier.Text.Percent

/-!
# Form encoding

Pairs of name and value as one text: pairs joined by ampersands, name and value by an equals sign,
spaces as plus signs and everything else that is not unreserved as escapes. Decoding takes the text
apart again.
-/

namespace Courier.Text

/-- One character of a name or value. -/
def formChar (c : Char) : List Char :=
  if c = ' ' then ['+'] else percentUnless (fun _ => false) c

/-- A name or value. -/
def formText (s : String) : List Char :=
  s.toList.flatMap formChar

/-- A pair. -/
def formPair (p : String × String) : List Char :=
  formText p.1 ++ '=' :: formText p.2

/-- Pairs as one text. -/
def formEncode (pairs : List (String × String)) : List Char :=
  List.intercalate ['&'] (pairs.map formPair)

/-- The text that a name or value stands for, unless its bytes are not UTF-8. -/
def formDecodeText? (cs : List Char) : Option String :=
  Utf8.decode? (percentBytes (cs.map fun c => if c = '+' then ' ' else c))

/-- The pair before and after the first equals sign. -/
def formDecodePair? (cs : List Char) : Option (String × String) := do
  let name ← formDecodeText? (cs.takeWhile (· != '='))
  let value ← formDecodeText? ((cs.dropWhile (· != '=')).drop 1)
  some (name, value)

/-- The pairs of a text; an empty text has none. -/
def formDecode? (cs : List Char) : Option (List (String × String)) :=
  if cs.isEmpty then some [] else (splitAtAll (· == '&') cs).mapM formDecodePair?

end Courier.Text
