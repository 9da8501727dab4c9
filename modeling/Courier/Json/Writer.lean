import Courier.Data.Literal
import Courier.Number.Layout
import Courier.Text.EncodingFault

/-!
# Writing JSON

A value as a JSON text, on one line or with an indentation. Characters outside ASCII stand for
themselves; of the control characters those with a short escape get it, the others their number.
-/

namespace Courier.Json

/-- One character inside a string. -/
def escapeChar (c : Char) : List Char :=
  match c with
  | '"' => ['\\', '"']
  | '\\' => ['\\', '\\']
  | '\x08' => ['\\', 'b']
  | '\x0c' => ['\\', 'f']
  | '\n' => ['\\', 'n']
  | '\r' => ['\\', 'r']
  | '\t' => ['\\', 't']
  | c => if c.toNat < 0x20 then '\\' :: 'u' :: Text.hexPadded 4 c.toNat else [c]

/-- A text between quotes. -/
def stringText (s : String) : List Char :=
  '"' :: s.toList.flatMap escapeChar ++ ['"']

/-- A line break and the indentation of a level; nothing in a text on one line. -/
def lineBreak (indent : Option Nat) (level : Nat) : List Char :=
  match indent with
  | none => []
  | some n => '\n' :: List.replicate (n * level) ' '

/-- What stands between a name and its value. -/
def colon (indent : Option Nat) : List Char :=
  if indent.isSome then [':', ' '] else [':']

/-- Parts between brackets, one to a line. -/
def bracketed (indent : Option Nat) (level : Nat) (opening closing : Char)
    (parts : List (List Char)) : List Char :=
  if parts.isEmpty then [opening, closing]
  else
    opening :: (List.intercalate [','] (parts.map (lineBreak indent (level + 1) ++ ·)) ++
      lineBreak indent level ++ [closing])

mutual

/-- The text of a value at a level of indentation. Values without a JSON form are their literals
in quotes. -/
def valueText (indent : Option Nat) (level : Nat) : Data → List Char
  | .null => "null".toList
  | .bool b => if b then "true".toList else "false".toList
  | .int n => (toString n).toList
  | .float x => x.toJsonText.toList
  | .text s => stringText s
  | .list xs => bracketed indent level '[' ']' (itemTexts indent (level + 1) xs)
  | .map es => bracketed indent level '\x7b' '\x7d' (memberTexts indent (level + 1) es)
  | v => stringText (v.display?.getD []).shown

/-- The texts of items. -/
def itemTexts (indent : Option Nat) (level : Nat) : List Data → List (List Char)
  | [] => []
  | x :: xs => valueText indent level x :: itemTexts indent level xs

/-- The texts of members. -/
def memberTexts (indent : Option Nat) (level : Nat) : List (Data × Data) → List (List Char)
  | [] => []
  | (k, v) :: rest =>
    (stringText (k.display?.getD []).shown ++ colon indent ++ valueText indent level v) ::
      memberTexts indent level rest

end

/-- The JSON text of a value. -/
def write (indent : Option Nat) (v : Data) : String :=
  String.ofList (valueText indent 0 v)

end Courier.Json
