import Courier.Text.CodeSet

/-!
# Characters by number

A grid gives characters numbers. It is written line by line: the first number of the line in
hexadecimal, a colon, and the characters from that number on, with a space where there is none.
-/

namespace Courier.Text.Charset

/-- Characters by number. -/
structure Grid where
  cells : Array Char

namespace Grid

/-- Adds a line. -/
def addLine (cells : Array Char) (line : List Char) : Array Char :=
  let line := line.dropWhile (· == ' ')
  let number := line.takeWhile (· != ':')
  cells ++ Array.replicate (hexValue number - cells.size) ' ' ++
    (line.drop (number.length + 1)).toArray

/-- Reads a grid. -/
def ofText (s : String) : Grid :=
  ⟨(splitAtAll (· == '\n') s.toList).foldl addLine #[]⟩

/-- The code point of the character of a number. -/
def get? (g : Grid) (n : Nat) : Option Nat :=
  (g.cells[n]?.filter (· != ' ')).map Char.toNat

end Grid

end Courier.Text.Charset
