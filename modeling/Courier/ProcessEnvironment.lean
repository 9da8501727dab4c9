import Courier.Data.Basic
import Courier.Text.CodeSet
import Courier.Text.EncodingFault
import Courier.Text.Template
import Courier.Text.Utf8

/-!
# The process environment

Texts of a file may refer to variables of the process, with a dollar sign and braces. Every text
inside lists and mappings counts, names of entries do not. A variable that is not set is an error,
and the first one in document order is reported.

The variables are bytes. A text stands for its UTF-8, and for a byte that is no text where a
surrogate keeps it, in names and in values; so a name with a surrogate that keeps no byte is an error
of its own.
-/

namespace Courier

/-- The variables of the process: names and values as bytes. -/
abbrev ProcessEnvironment := List (List UInt8 × List UInt8)

namespace ProcessEnvironment

open Text

/-- Reads the variables from bytes: `name=value`, each closed by a zero. -/
def ofBytes (bytes : List UInt8) : ProcessEnvironment :=
  let entries := (Text.splitAtAll (· == 0) bytes).filter fun e => !e.isEmpty
  entries.map fun e => (e.takeWhile (· != 0x3D), (e.dropWhile (· != 0x3D)).drop 1)

/-- Variables whose names and values are texts. -/
def ofTexts (texts : List (String × String)) : ProcessEnvironment :=
  texts.map fun v => (Utf8.encode v.1, Utf8.encode v.2)

/-- The variables by name, the first of each name, with the code points of their values. -/
def values (env : ProcessEnvironment) : List (String × List Nat) :=
  (env.eraseDupsBy fun v w => v.1 == w.1).map fun v =>
    (Utf8.decodeLossy v.1, Utf8.decodeKept v.2)

/-- The value of a variable. -/
def value? (env : ProcessEnvironment) (name : List UInt8) : Option (List UInt8) :=
  (env.find? fun v => v.1 == name).map Prod.snd

/-- Why a reference is not resolved. -/
inductive Unresolved where
  | unset (name : List Nat)
  | unwritable (fault : EncodingFault)
  deriving DecidableEq, Repr

/-- The bytes of a name, those that are no text among them. -/
def nameBytes (name : List Nat) : List UInt8 :=
  name.flatMap fun n =>
    if isKeptByte n then [UInt8.ofNat (n - 0xDC00)] else Utf8.encodeCode n

/-- The value of the variable with a name given by code points. -/
def lookup (env : ProcessEnvironment) (name : List Nat) : Except Unresolved (List Nat) :=
  match EncodingFault.inBytes? name with
  | some f => .error (.unwritable f)
  | none =>
    match env.value? (nameBytes name) with
    | some value => .ok (Utf8.decodeKept value)
    | none => .error (.unset name)

/-- Resolves the pieces of a text; the error is that of the first name that has no value. -/
def resolveSegments (env : ProcessEnvironment) :
    List (Segment Nat) → Except Unresolved (List Nat)
  | [] => .ok []
  | .plain n :: r => do return n :: (← resolveSegments env r)
  | .reference name :: r => do
    let value ← env.lookup name
    return value ++ (← resolveSegments env r)

/-- Resolves the references of a text given by code points (`_substitute_string`). -/
def resolveText (env : ProcessEnvironment) (codes : List Nat) : Except Unresolved Data := do
  return Data.ofCodes (← resolveSegments env (segments Marks.dollar codes))

mutual

/-- Resolves the references of all texts in a value (`_substitute_env_vars`). -/
def resolve (env : ProcessEnvironment) : Data → Except Unresolved Data
  | .text s => resolveText env (s.toList.map Char.toNat)
  | .brokenText codes => resolveText env codes
  | .list xs => do return .list (← resolveItems env xs)
  | .map es => do return .map (← resolveEntries env es)
  | v => .ok v

/-- Resolves item by item. -/
def resolveItems (env : ProcessEnvironment) : List Data → Except Unresolved (List Data)
  | [] => .ok []
  | x :: xs => do return (← resolve env x) :: (← resolveItems env xs)

/-- Resolves the value of each entry. -/
def resolveEntries (env : ProcessEnvironment) :
    List (Data × Data) → Except Unresolved (List (Data × Data))
  | [] => .ok []
  | (k, v) :: rest => do return (k, ← resolve env v) :: (← resolveEntries env rest)

end

end ProcessEnvironment

end Courier
