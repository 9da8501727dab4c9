import Courier.Domain.CodePoints
import Courier.Domain.Composed
import Courier.Domain.Punycode
import Courier.Text.Lower

/-!
# Internationalised domain names

A domain name is a list of labels. A label that is not ASCII has to keep the rules for
internationalised labels: composed form, hyphens and marks in their places, permitted code points
in permitted contexts, one direction. Its ASCII form is the mark `xn--` and its Punycode.
-/

namespace Courier.Domain

/-- The greatest length of a label. -/
def maxLabel : Nat := 63

/-- Whether a non-joiner stands between letters that would join across it. -/
def breaksJoin (before after : List Nat) : Bool :=
  let left := before.reverse.dropWhile joiningTransparent.contains
  let right := after.dropWhile joiningTransparent.contains
  (match left with
    | [] => false
    | n :: _ => joiningLeft.contains n || joiningDual.contains n) &&
  (match right with
    | [] => false
    | n :: _ => joiningRight.contains n || joiningDual.contains n)

/-- Whether the code point `n` may stand between `before` and `after`. -/
def fitsContext (before : List Nat) (n : Nat) (after : List Nat) : Bool :=
  let label := before ++ n :: after
  let afterVirama := match before.getLast? with
    | some m => combiningClass m == 9
    | none => false
  if n = 0x200C then afterVirama || breaksJoin before after
  else if n = 0x200D then afterVirama
  else if n = 0xB7 then before.getLast? == some 0x6C && after.head? == some 0x6C
  else if n = 0x375 then (after.head?.map greek.contains).getD false
  else if n = 0x5F3 ∨ n = 0x5F4 then (before.getLast?.map hebrew.contains).getD false
  else if n = 0x30FB then label.any fun m => m != 0x30FB && eastAsian.contains m
  else if 0x660 ≤ n ∧ n ≤ 0x669 then !label.any fun m => 0x6F0 ≤ m && m ≤ 0x6F9
  else if 0x6F0 ≤ n ∧ n ≤ 0x6F9 then !label.any fun m => 0x660 ≤ m && m ≤ 0x669
  else false

/-- Whether every code point after `before` may stand where it does. -/
def allPermitted (before : List Nat) : List Nat → Bool
  | [] => true
  | n :: rest =>
    (permitted.contains n ||
      ((joiners.contains n || contextual.contains n) && fitsContext before n rest)) &&
      allPermitted (before ++ [n]) rest

/-- Whether a code point is written from left to right. -/
def isLeftToRight (n : Nat) : Bool :=
  !(rightToLeft.contains n || arabicNumbers.contains n || europeanNumbers.contains n ||
    nonspacing.contains n || neutral.contains n || undirected.contains n)

/-- Whether the directions in a label agree: one with text from right to left begins in one
direction, holds nothing of the other, ends in a letter or digit before its marks, and has digits
of one kind. -/
def directionsAgree (codes : List Nat) : Bool :=
  !codes.any undirected.contains &&
  (!codes.any (fun n => rightToLeft.contains n || arabicNumbers.contains n) ||
    match codes with
    | [] => true
    | first :: _ =>
      let last := codes.reverse.dropWhile nonspacing.contains
      let endsWith (p : Nat → Bool) : Bool := (last.head?.map p).getD false
      if rightToLeft.contains first then
        !codes.any isLeftToRight &&
          endsWith (fun n => rightToLeft.contains n || europeanNumbers.contains n ||
            arabicNumbers.contains n) &&
          !(codes.any europeanNumbers.contains && codes.any arabicNumbers.contains)
      else false)

/-- Whether the hyphens of a label stand where they may. -/
def hyphensFit (codes : List Nat) : Bool :=
  (codes.drop 2).take 2 != [0x2D, 0x2D] && codes.head? != some 0x2D &&
    codes.getLast? != some 0x2D

/-- Whether a label keeps all rules. -/
def isValidLabel (codes : List Nat) : Bool :=
  !codes.isEmpty && codes.length ≤ 254 && isComposed codes && hyphensFit codes &&
    !(codes.head?.map marks.contains).getD false && allPermitted [] codes &&
    directionsAgree codes

/-- The mark of an encoded label. -/
def acePrefix : List Char := ['x', 'n', '-', '-']

/-- The label that an ASCII label stands for. -/
def labelOfAscii? (cs : List Char) : Option (List Nat) :=
  let cs := (Text.lowerAscii (String.ofList cs)).toList
  if acePrefix.isPrefixOf cs then
    let body := cs.drop 4
    if body.isEmpty ∨ body.getLast? = some '-' then none
    else
      match Punycode.decode? body with
      | some codes => if isValidLabel codes then some codes else none
      | none => none
  else
    let codes := cs.map Char.toNat
    if isValidLabel codes then some codes else none

/-- Whether all characters are ASCII. -/
def isAscii (cs : List Char) : Bool :=
  cs.all fun c => c.toNat < 0x80

/-- The ASCII form of a label. -/
def asciiLabel? (cs : List Char) : Option (List Char) :=
  let ascii :=
    if isAscii cs then (labelOfAscii? cs).map fun _ => cs
    else
      let codes := cs.map Char.toNat
      if isValidLabel codes then some (acePrefix ++ Punycode.encode codes) else none
  ascii.filter fun a => a.length ≤ maxLabel

/-- The label that a label in either form stands for. -/
def unicodeLabel? (cs : List Char) : Option (List Nat) :=
  if isAscii cs then labelOfAscii? cs
  else
    let codes := cs.map Char.toNat
    if isValidLabel codes then some codes else none

/-- The full stops of several scripts. -/
def isDot (c : Char) : Bool :=
  c == '.' || c == '\u3002' || c == '\uff0e' || c == '\uff61'

/-- Applies `f` to each label of a name; the label after a final dot may be empty. -/
def mapLabels? (f : List Char → Option (List Char)) (name : List Char) :
    Option (List (List Char)) :=
  let labels := Text.splitAtAll isDot name
  if 254 < name.length ∨ labels = [[]] then none
  else
    let final := labels.getLast? == some []
    let body := if final then labels.dropLast else labels
    (body.mapM f).map fun done => if final then done ++ [[]] else done

/-- The ASCII form of a domain name. -/
def toAscii? (name : String) : Option String := do
  let labels ← mapLabels? asciiLabel? name.toList
  let text := List.intercalate ['.'] labels
  if (if labels.getLast? = some [] then 254 else 253) < text.length then none
  else some (String.ofList text)

/-- The domain name that an ASCII form stands for. -/
def toUnicode? (name : String) : Option String := do
  let labels ← mapLabels? (fun l => (unicodeLabel? l).map (·.map Char.ofNat)) name.toList
  some (String.ofList (List.intercalate ['.'] labels))

end Courier.Domain
