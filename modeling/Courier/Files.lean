import Courier.Text.CodeSet
import Courier.Text.Quoted

/-!
# Files

The files of a machine by their places, seen from a working directory, and what paths lead to. A
path is walked component by component, so going up from a name needs that the name is a directory.
-/

namespace Courier

/-- What stands at a place. -/
inductive FileNode where
  | file (content : List UInt8)
  | directory
  deriving DecidableEq, Repr

/-- Files and directories by their places: the components from the working directory on, of which
the first may lead up, or from the root on. -/
abbrev Files := List (List String × FileNode)

/-- Why the system refuses an operation on a path. -/
inductive FileError where
  | missing (path : String)
  | exist (path : String)
  | notDirectory (path : String)
  | isDirectory (path : String)
  deriving DecidableEq, Repr

/-- The reason that the system gives. -/
def FileError.reason : FileError → String
  | .missing _ => "[Errno 2] No such file or directory"
  | .exist _ => "[Errno 17] File exists"
  | .notDirectory _ => "[Errno 20] Not a directory"
  | .isDirectory _ => "[Errno 21] Is a directory"

/-- The path that is meant. -/
def FileError.path : FileError → String
  | .missing path => path
  | .exist path => path
  | .notDirectory path => path
  | .isDirectory path => path

/-- The words of the system. -/
def FileError.message (e : FileError) : String :=
  e.reason ++ ": " ++ Text.quoted e.path

/-- A path in normal form: the slashes that it starts with if it starts at the root, and its
components without empty ones and those for the same level. -/
structure FilePath where
  slashes : String
  components : List String
  deriving DecidableEq, Repr, Inhabited

namespace FilePath

/-- Reads a path. Two slashes in front are kept apart from one, three or more are not. -/
def ofText (s : String) : FilePath :=
  let cs := s.toList
  let parts := (Text.splitAtAll (· == '/') cs).filter fun p => !p.isEmpty && p != ['.']
  let slashes := match (cs.takeWhile (· == '/')).length with
    | 0 => ""
    | 2 => "//"
    | _ => "/"
  ⟨slashes, parts.map String.ofList⟩

/-- Whether a path starts at the root. -/
def isAbsolute (p : FilePath) : Bool := !p.slashes.isEmpty

/-- The text of a path. -/
def text (p : FilePath) : String :=
  if p.isAbsolute then p.slashes ++ "/".intercalate p.components
  else if p.components.isEmpty then "."
  else "/".intercalate p.components

/-- The path without its last component. -/
def parent (p : FilePath) : FilePath := { p with components := p.components.dropLast }

end FilePath

/-- Where a path leads. -/
inductive Found where
  | node (place : List String) (n : FileNode)
  /-- There is nothing of the last name in the directory given. -/
  | absent (place : List String)
  /-- There is nothing where the path has to go on. -/
  | missing
  /-- The path goes on below a file. -/
  | blocked
  deriving DecidableEq, Repr

namespace Files

/-- The place at which absolute paths start. -/
def root : List String := ["/"]

/-- Whether a place is the working directory, one around it, or the root. -/
def isFixed (place : List String) : Bool := place == root || place.all (· == "..")

/-- What stands at a place. A place with something below it is a directory, and so are the working
directory and those around it. -/
def at? (fs : Files) (place : List String) : Option FileNode :=
  if isFixed place then some .directory
  else
    match fs.find? fun f => f.1 == place with
    | some f => some f.2
    | none => if fs.any fun f => place.isPrefixOf f.1 then some .directory else none

/-- The place one level up. -/
def above (place : List String) : List String :=
  if place == root then place
  else if place.all (· == "..") then place ++ [".."]
  else place.dropLast

/-- The place that a path means if every name in it is one of a directory. -/
def placeOf (p : FilePath) : List String :=
  p.components.foldl (fun here name => if name = ".." then above here else here ++ [name])
    (if p.isAbsolute then root else [])

/-- Walks components from a place. -/
def walk (fs : Files) (here : List String) : List String → Found
  | [] =>
    match fs.at? here with
    | some n => .node here n
    | none => .absent here
  | name :: rest =>
    match fs.at? here with
    | none => .missing
    | some (.file _) => .blocked
    | some .directory => walk fs (if name = ".." then above here else here ++ [name]) rest

/-- What a path leads to. -/
def find (fs : Files) (p : FilePath) : Found :=
  fs.walk (if p.isAbsolute then root else []) p.components

/-- Whether a path leads to anything. -/
def has (fs : Files) (p : FilePath) : Bool :=
  match fs.find p with
  | .node _ _ => true
  | _ => false

/-- The content of a file. -/
def content (fs : Files) (p : FilePath) : Except FileError (List UInt8) :=
  match fs.find p with
  | .node _ (.file bs) => .ok bs
  | .node _ .directory => .error (.isDirectory p.text)
  | .blocked => .error (.notDirectory p.text)
  | _ => .error (.missing p.text)

/-- Gives a place a new content. -/
def put (fs : Files) (place : List String) (n : FileNode) : Files :=
  if fs.any fun f => f.1 == place then fs.map fun f => if f.1 = place then (place, n) else f
  else fs ++ [(place, n)]

/-- Makes a directory where the one around it is there; it may be there itself. The result is what
stands there afterwards, and why it is not what it should be. -/
def makeOne (fs : Files) (p : FilePath) : Files × Option FileError :=
  match fs.find p with
  | .node _ .directory => (fs, none)
  | .node _ (.file _) => (fs, some (.exist p.text))
  | .blocked => (fs, some (.notDirectory p.text))
  | .absent place => (fs.put place .directory, none)
  | .missing => (fs, some (.missing p.text))

/-- Makes a directory, and those around it that are missing; `levels` bounds their number. -/
def makeDirectory (fs : Files) (p : FilePath) : Nat → Files × Option FileError
  | 0 => (fs, some (.missing p.text))
  | levels + 1 =>
    match fs.find p with
    | .missing =>
      if p.components.isEmpty then (fs, some (.missing p.text))
      else
        match fs.makeDirectory p.parent levels with
        | (fs, none) => fs.makeOne p
        | (fs, some e) => (fs, some e)
    | _ => fs.makeOne p

/-- Writes a file where the directory around it is there. -/
def write (fs : Files) (p : FilePath) (content : List UInt8) : Files × Option FileError :=
  match fs.find p with
  | .node place (.file _) => (fs.put place (.file content), none)
  | .absent place => (fs.put place (.file content), none)
  | .node _ .directory => (fs, some (.isDirectory p.text))
  | .blocked => (fs, some (.notDirectory p.text))
  | .missing => (fs, some (.missing p.text))

/-- Writes a file and makes the directories around it. -/
def writeDeep (fs : Files) (p : FilePath) (content : List UInt8) : Files × Option FileError :=
  match fs.makeDirectory p.parent (p.components.length + 1) with
  | (fs, none) => fs.write p content
  | (fs, some e) => (fs, some e)

/-- The places around a place, the outermost first. -/
def around (place : List String) : List (List String) :=
  (List.range (place.length - 1)).map fun n => place.take (n + 1)

/-- Everything below the working directory, with directories that are only there because something
stands in them. -/
def entries (fs : Files) : Files :=
  let inside := fs.filter fun f => f.1.head? != some ".." && f.1.head? != some "/"
  let implied := (inside.flatMap fun f => around f.1).eraseDups.filter fun place =>
    !inside.any fun f => f.1 == place
  inside ++ implied.map fun place => (place, .directory)

end Files

end Courier
