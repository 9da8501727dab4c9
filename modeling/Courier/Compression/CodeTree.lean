/-!
# Prefix codes

A prefix code given by the lengths of its words: words of one length are consecutive numbers in the
order of their symbols, and shorter words come first. The code is kept as a binary tree, whose
leaves are the symbols.
-/

namespace Courier.Compression

/-- A binary tree of words. Where it ends without a symbol, no word goes on. -/
inductive CodeTree where
  | absent
  | leaf (symbol : Nat)
  | node (zero one : CodeTree)
  deriving DecidableEq, Repr, Inhabited

namespace CodeTree

/-- A tree with one word. -/
def path (symbol : Nat) : List Bool → CodeTree
  | [] => .leaf symbol
  | false :: rest => .node (path symbol rest) .absent
  | true :: rest => .node .absent (path symbol rest)

/-- Adds a word. -/
def insert (symbol : Nat) : CodeTree → List Bool → CodeTree
  | .node zero one, false :: rest => .node (zero.insert symbol rest) one
  | .node zero one, true :: rest => .node zero (one.insert symbol rest)
  | _, word => path symbol word

/-- The digits of a number, the most significant first. -/
def word (length code : Nat) : List Bool :=
  (List.range length).map fun i => code.testBit (length - 1 - i)

/-- The greatest length of a word. -/
def maxLength : Nat := 15

/-- How many words have a length. -/
def count (lengths : List Nat) (length : Nat) : Nat := lengths.count length

/-- What is left of the space of words after those of lengths up to `length`, in words of that
length; negative where there are too many words. -/
def left (lengths : List Nat) : Nat → Int
  | 0 => 1
  | length + 1 => 2 * left lengths length - (count lengths (length + 1) : Int)

/-- Whether there are no more words than fit. -/
def fits (lengths : List Nat) : Bool :=
  (List.range (maxLength + 1)).all fun length => 0 ≤ left lengths length

/-- Whether every text of bits begins with a word. -/
def isComplete (lengths : List Nat) : Bool := left lengths maxLength == 0

/-- The first word of a length. -/
def firstCode (lengths : List Nat) : Nat → Nat
  | 0 => 0
  | 1 => 0
  | length + 2 => 2 * (firstCode lengths (length + 1) + count lengths (length + 1))

/-- The symbols with words of a length. -/
def symbols (lengths : List Nat) (length : Nat) : List Nat :=
  (lengths.zipIdx.filter fun e => e.1 == length).map Prod.snd

/-- The tree of a code; one bit is read even where there are no words. -/
def ofLengths (lengths : List Nat) : CodeTree :=
  (List.range maxLength).foldl (fun tree i =>
    let length := i + 1
    let first := firstCode lengths length
    (symbols lengths length).zipIdx.foldl
      (fun tree e => tree.insert e.1 (word length (first + e.2))) tree)
    (.node .absent .absent)

end CodeTree

end Courier.Compression
