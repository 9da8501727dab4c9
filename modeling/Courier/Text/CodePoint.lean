import Courier.Text.Blank
import Courier.Text.Surrogate

/-!
# Texts of code points

What an author writes may have surrogates that are no pair. They are no characters, so that such a
text is no `String`: it is a list of code points, each a character or a surrogate. A text without
surrogates is one of characters only, and the two are the same (`CodeText.toString?`).
-/

namespace Courier

namespace Text

/-- A character, or a surrogate, which is given by its distance from the first one. -/
inductive CodePoint where
  | char (c : Char)
  | surrogate (distance : Fin 0x800)
  deriving DecidableEq, Repr, Inhabited

namespace CodePoint

instance : Coe Char CodePoint := ⟨char⟩

/-- The number of a code point. -/
def toNat : CodePoint → Nat
  | char c => c.toNat
  | surrogate distance => 0xD800 + distance

/-- The code point of a number. -/
def ofNat (n : Nat) : CodePoint :=
  if h : 0xD800 ≤ n ∧ n < 0xE000 then surrogate ⟨n - 0xD800, by omega⟩ else char (Char.ofNat n)

/-- The character that a code point is. -/
def char? : CodePoint → Option Char
  | char c => some c
  | surrogate _ => none

/-- Whether a code point is a character that `p` holds of. -/
def satisfies (p : Char → Bool) : CodePoint → Bool
  | char c => p c
  | surrogate _ => false

end CodePoint

end Text

/-- A text that may have surrogates. -/
abbrev CodeText := List Text.CodePoint

namespace CodeText

/-- A text without surrogates. -/
def ofString (s : String) : CodeText := s.toList.map .char

instance : Coe String CodeText := ⟨ofString⟩

/-- Two texts without surrogates. -/
def ofPair (p : String × String) : CodeText × CodeText := (ofString p.1, ofString p.2)

/-- The characters of a text, in order; its surrogates are left out. -/
def characters (t : CodeText) : String := String.ofList (t.filterMap Text.CodePoint.char?)

/-- The text of characters that a text is, unless it has surrogates. -/
def toString? (t : CodeText) : Option String :=
  if t.all fun p => p.char?.isSome then some t.characters else none

/-- The numbers of the code points. -/
def codes (t : CodeText) : List Nat := t.map Text.CodePoint.toNat

/-- The text with code points of some numbers. -/
def ofCodes (codes : List Nat) : CodeText := codes.map .ofNat

end CodeText

end Courier
