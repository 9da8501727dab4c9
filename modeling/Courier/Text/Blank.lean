/-!
# Blank characters

The characters that count as white space in any script, and removal of them from both ends.
-/

namespace Courier.Text

/-- White space: the ASCII blanks and the four separators before the space, next line, no-break
space and the spaces and line separators of other scripts. -/
def isBlankChar (c : Char) : Bool :=
  let n := c.toNat
  (0x09 ≤ n && n ≤ 0x0D) || (0x1C ≤ n && n ≤ 0x20) || n == 0x85 || n == 0xA0 || n == 0x1680 ||
    (0x2000 ≤ n && n ≤ 0x200A) || n == 0x2028 || n == 0x2029 || n == 0x202F || n == 0x205F ||
    n == 0x3000

/-- The six white-space characters of ASCII that end a line or move the carriage. -/
def isAsciiBlank (c : Char) : Bool :=
  c == ' ' || (0x09 ≤ c.toNat && c.toNat ≤ 0x0D)

/-- Drops from the end what satisfies `p`. -/
def dropEndWhile {α : Type} (p : α → Bool) (cs : List α) : List α :=
  (cs.reverse.dropWhile p).reverse

/-- Drops from both ends what satisfies `p`. -/
def trimWhile {α : Type} (p : α → Bool) (cs : List α) : List α :=
  dropEndWhile p (cs.dropWhile p)

/-- A text without the white space at its ends. -/
def trim (s : String) : String :=
  String.ofList (trimWhile isBlankChar s.toList)

end Courier.Text
