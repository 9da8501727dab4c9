/-!
# Surrogates

The code points that stand for no character by themselves: a high one and a low one together stand
for a character beyond the first 65536.
-/

namespace Courier.Text

/-- Whether a code point is the first half of a pair. -/
def isHighSurrogate (n : Nat) : Bool := 0xD800 ≤ n && n < 0xDC00

/-- Whether a code point is the second half of a pair. -/
def isLowSurrogate (n : Nat) : Bool := 0xDC00 ≤ n && n < 0xE000

/-- Whether a code point is half of a pair. -/
def isSurrogate (n : Nat) : Bool := 0xD800 ≤ n && n < 0xE000

/-- Whether a code point keeps a byte that is no text. -/
def isKeptByte (n : Nat) : Bool := 0xDC80 ≤ n && n < 0xDD00

/-- The code point of a pair. -/
def joinSurrogates (high low : Nat) : Nat :=
  0x10000 + (high - 0xD800) * 0x400 + (low - 0xDC00)

end Courier.Text
