import Courier.Text.Digit
import Courier.Text.Quoted

/-!
# Options

Options on a command line. An option has short and long names; a long name may be cut as long as it
stays the beginning of one option's names only. A value stands behind an equals sign or is the next
word. Words are looked at in order, and options that are not known are left aside.
-/

namespace Courier.Command

/-- An option: what it means, its names, and whether it takes a value. -/
structure OptionSpec (α : Type) where
  tag : α
  names : List String
  takesValue : Bool
  deriving DecidableEq, Repr

namespace OptionSpec

/-- The name of an option in messages. -/
def title {α : Type} (o : OptionSpec α) : String := "/".intercalate o.names

end OptionSpec

/-- What is wrong with a command line. -/
inductive UsageError where
  /-- A name that several options begin with. -/
  | ambiguous (word : String) (names : List String)
  /-- Something about one option. -/
  | option (title problem : String)
  | required (names : List String)
  | unrecognized (words : List String)
  deriving DecidableEq, Repr

/-- The words for an error. -/
def UsageError.message : UsageError → String
  | .ambiguous word names =>
    "ambiguous option: " ++ word ++ " could match " ++ ", ".intercalate names
  | .option title problem => "argument " ++ title ++ ": " ++ problem
  | .required names => "the following arguments are required: " ++ ", ".intercalate names
  | .unrecognized words => "unrecognized arguments: " ++ " ".intercalate words

/-- A value that an option does not take. -/
def UsageError.ignoredValue {α : Type} (o : OptionSpec α) (value : String) : UsageError :=
  .option o.title ("ignored explicit argument " ++ Text.quoted value)

/-- A value that an option lacks. -/
def UsageError.missingValue {α : Type} (o : OptionSpec α) : UsageError :=
  .option o.title "expected one argument"

/-- A word of a command line. -/
inductive Word (α : Type) where
  | plain (text : String)
  /-- The word after which every word is plain. -/
  | separator
  | unknown (text : String)
  /-- An option by one of its names, with the value that stands in the same word. -/
  | option (spec : OptionSpec α) (name : String) (value : Option String)
  deriving DecidableEq, Repr

namespace Word

variable {α : Type}

/-- The word as it was written, where it is no option that is known. -/
def text : Word α → String
  | .plain s => s
  | .separator => "--"
  | .unknown s => s
  | .option _ name _ => name

/-- The names of options in order, each with its option. -/
def allNames (specs : List (OptionSpec α)) : List (String × OptionSpec α) :=
  specs.flatMap fun o => o.names.map fun n => (n, o)

/-- The option of a full name. -/
def find? (specs : List (OptionSpec α)) (name : String) : Option (OptionSpec α) :=
  (allNames specs).lookup name

/-- The text before the first equals sign, and the text behind it. -/
def splitValue (s : String) : String × Option String :=
  let cs := s.toList
  (String.ofList (cs.takeWhile (· != '=')),
    match cs.dropWhile (· != '=') with
    | [] => none
    | _ :: r => some (String.ofList r))

/-- Whether a word is a negative number. -/
def isNegativeNumber (s : String) : Bool :=
  let isDecimal (c : Char) : Bool := (Text.decimalValue? c).isSome
  let cs := if s.toList.getLast? == some '\n' then s.toList.dropLast else s.toList
  match cs with
  | '-' :: r =>
    match r.dropWhile isDecimal with
    | [] => !r.isEmpty
    | '.' :: fraction => !fraction.isEmpty && fraction.all isDecimal
    | _ => false
  | _ => false

/-- The options that a word with a hyphen may mean: by the beginning of a long name, or by a short
name with more behind it. -/
def candidates (specs : List (OptionSpec α)) (s : String) : List (Word α) :=
  let cs := s.toList
  if "--".toList.isPrefixOf cs then
    let (start, value) := splitValue s
    ((allNames specs).filter fun n => start.toList.isPrefixOf n.1.toList).map fun n =>
      .option n.2 n.1 value
  else
    (allNames specs).filterMap fun n =>
      if n.1.toList == cs.take 2 then some (.option n.2 n.1 (some (String.ofList (cs.drop 2))))
      else if cs.isPrefixOf n.1.toList then some (.option n.2 n.1 none)
      else none

/-- Reads a word. -/
def read (specs : List (OptionSpec α)) (s : String) : Except UsageError (Word α) :=
  if s.toList.head? != some '-' then .ok (.plain s)
  else
    match find? specs s with
    | some o => .ok (.option o s none)
    | none =>
      if s.length = 1 then .ok (.plain s)
      else
        let (name, value) := splitValue s
        match value.bind fun v => (find? specs name).map fun o => (o, v) with
        | some (o, v) => .ok (.option o name (some v))
        | none =>
          match candidates specs s with
          | [w] => .ok w
          | w :: v :: more => .error (.ambiguous s ((w :: v :: more).map text))
          | [] =>
            if isNegativeNumber s || s.toList.contains ' ' then .ok (.plain s)
            else .ok (.unknown s)

/-- Reads words. After a separator every word is plain. -/
def readAll (specs : List (OptionSpec α)) : List String → Except UsageError (List (Word α))
  | [] => .ok []
  | s :: rest =>
    if s = "--" then .ok (.separator :: rest.map .plain)
    else do return (← read specs s) :: (← readAll specs rest)

end Word

/-- One step of a command line: an option with its value, a word that is left aside, or an error, at
which the line is given up. -/
inductive Step (α : Type) where
  | use (spec : OptionSpec α) (value : Option String)
  | extra (word : String)
  | error (e : UsageError)
  deriving DecidableEq, Repr

namespace Step

variable {α : Type}

/-- What one word does: the uses of options, and the option that waits for its value in the next
word. -/
structure WordUse (α : Type) where
  steps : List (Step α)
  waiting : Option (OptionSpec α)

/-- One use of an option. -/
def once (o : OptionSpec α) (value : Option String) : WordUse α := ⟨[.use o value], none⟩

/-- An option without a value in its word. -/
def bare (o : OptionSpec α) : WordUse α :=
  if o.takesValue then ⟨[], some o⟩ else once o none

/-- Options of one letter each that stand behind a first one in the same word. -/
def cluster (specs : List (OptionSpec α)) (o : OptionSpec α) :
    List Char → Except UsageError (WordUse α)
  | [] => .ok (bare o)
  | c :: rest =>
    if o.takesValue then .ok (once o (some (String.ofList (c :: rest))))
    else
      match Word.find? specs (String.ofList ['-', c]) with
      | none => .error (.ignoredValue o (String.ofList (c :: rest)))
      | some next => do
        let later ← cluster specs next rest
        return { later with steps := .use o none :: later.steps }

/-- Whether a name has one hyphen. -/
def isShort (name : String) : Bool := name.toList[1]? != some '-'

/-- What an option does, by the name that was used and the value in the same word. -/
def ofOption (specs : List (OptionSpec α)) (o : OptionSpec α) (name : String)
    (value : Option String) : Except UsageError (WordUse α) :=
  match value with
  | none => .ok (bare o)
  | some v =>
    if o.takesValue then .ok (once o (some v))
    else if isShort name && !v.isEmpty then cluster specs o v.toList
    else .error (.ignoredValue o v)

/-- The steps of words. A word with an error does nothing else. -/
def ofWords (specs : List (OptionSpec α)) : List (Word α) → List (Step α)
  | [] => []
  | .option o name value :: rest =>
    match ofOption specs o name value, rest with
    | .error e, _ => [.error e]
    | .ok ⟨steps, none⟩, rest => steps ++ ofWords specs rest
    | .ok ⟨steps, some w⟩, .plain v :: rest => steps ++ .use w (some v) :: ofWords specs rest
    | .ok ⟨_, some w⟩, _ => [.error (.missingValue w)]
  | w :: rest => .extra w.text :: ofWords specs rest

end Step

end Courier.Command
