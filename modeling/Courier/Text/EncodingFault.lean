import Courier.Text.Quoted
import Courier.Text.Surrogate

/-!
# Characters that an encoding lacks

A text is written in an encoding only if the encoding has all its characters: ASCII has the first
128 code points, UTF-8 has all but the surrogates. A fault names the first run of characters that
are missing. Where texts also stand for bytes, as in the environment of a process, a byte that is no
text is kept as a surrogate, and such surrogates are written as their bytes.
-/

namespace Courier.Text

/-- The first run of characters that an encoding lacks. -/
structure EncodingFault where
  encoding : String
  reason : String
  position : Nat
  run : List Nat
  deriving DecidableEq, Repr

namespace EncodingFault

/-- The first run of code points that `lacks` holds of, and where it begins. -/
def firstRun? (lacks : Nat → Bool) (codes : List Nat) : Option (Nat × List Nat) :=
  let run := (codes.dropWhile fun n => !lacks n).takeWhile lacks
  if run.isEmpty then none else some ((codes.takeWhile fun n => !lacks n).length, run)

/-- What ASCII lacks of a text. -/
def inAscii? (t : CodeText) : Option EncodingFault :=
  (firstRun? (0x80 ≤ ·) t.codes).map fun (position, run) =>
    ⟨"ascii", "ordinal not in range(128)", position, run⟩

/-- What UTF-8 lacks of code points. -/
def inUtf8? (codes : List Nat) : Option EncodingFault :=
  (firstRun? isSurrogate codes).map fun (position, run) =>
    ⟨"utf-8", "surrogates not allowed", position, run⟩

/-- What UTF-8 lacks of code points where bytes that are no text are kept as surrogates. The fault
covers whatever surrogates follow the first one that keeps no byte. -/
def inBytes? (codes : List Nat) : Option EncodingFault :=
  let isWritten (n : Nat) : Bool := !isSurrogate n || isKeptByte n
  let rest := codes.dropWhile isWritten
  if rest.isEmpty then none
  else some ⟨"utf-8", "surrogates not allowed", (codes.takeWhile isWritten).length,
    rest.takeWhile isSurrogate⟩

/-- A code point by its number. -/
def escaped (n : Nat) : String :=
  String.ofList
    (if n < 0x100 then '\\' :: 'x' :: hexPadded 2 n
    else if n < 0x10000 then '\\' :: 'u' :: hexPadded 4 n
    else '\\' :: 'U' :: hexPadded 8 n)

/-- The words for the fault. -/
def message (f : EncodingFault) : String :=
  let place := match f.run with
    | [n] => "character '" ++ escaped n ++ "' in position " ++ toString f.position
    | _ => "characters in position " ++ toString f.position ++ "-" ++
      toString (f.position + f.run.length - 1)
  "'" ++ f.encoding ++ "' codec can't encode " ++ place ++ ": " ++ f.reason

/-- Code points as running text, surrogates by their numbers. -/
def shown (codes : List Nat) : String :=
  String.ofList (codes.flatMap fun n =>
    if isSurrogate n then (escaped n).toList else [Char.ofNat n])

/-- The run as a literal. -/
def literal (f : EncodingFault) : String :=
  quotedCodes f.run

end EncodingFault

end Courier.Text

namespace Courier.CodeText

/-- The text as one of characters, unless UTF-8 lacks some of it. -/
def utf8 (t : CodeText) : Except Text.EncodingFault String :=
  match Text.EncodingFault.inUtf8? t.codes with
  | some fault => .error fault
  | none => .ok t.characters

/-- Pairs of texts of characters, unless UTF-8 lacks some of them. -/
def utf8Pairs (pairs : List (CodeText × CodeText)) :
    Except Text.EncodingFault (List (String × String)) :=
  pairs.mapM fun p => do return (← p.1.utf8, ← p.2.utf8)

/-- The text as it is shown, surrogates by their numbers. -/
def shown (t : CodeText) : String := Text.EncodingFault.shown t.codes

end Courier.CodeText
