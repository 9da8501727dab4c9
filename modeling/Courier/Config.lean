import Courier.Files
import Courier.Model.Assertion
import Courier.Model.Environment
import Courier.Model.Transport
import Courier.ProcessEnvironment
import Courier.Yaml.Value

/-!
# Configuration files

Request files, environments and transport settings, written in YAML. References to the process
environment are resolved before anything is checked, and the first fault on the way is reported.
-/

namespace Courier

open Schema

/-- What a file describes. -/
inductive FileKind where
  | request
  | environment
  | transport
  deriving DecidableEq, Repr

/-- The words for a kind of file. -/
def FileKind.name : FileKind → String
  | .request => "request"
  | .environment => "environment"
  | .transport => "transport config"

/-- The same at the beginning of a sentence. -/
def FileKind.title : FileKind → String
  | .request => "Request"
  | .environment => "Environment"
  | .transport => "Transport config"

/-- Why a file does not describe what it should. -/
inductive ConfigError where
  | missing (kind : FileKind) (path : String)
  | malformed (kind : FileKind)
  | notMapping (kind : FileKind) (path : String)
  | unset (name : List Nat)
  | assertionsNotList (path : String)
  | invalid (kind : FileKind) (path : String) (issues : List Issue)
  | invalidAssertion (number : Nat) (path : String) (issues : List Issue)
  deriving DecidableEq, Repr

/-- The name of what a file describes. -/
def FileKind.modelName : FileKind → String
  | .request => "RequestConfig"
  | .environment => "Environment"
  | .transport => "TransportConfig"

/-- The words for an error. -/
def ConfigError.message : ConfigError → String
  | .missing kind path => kind.title ++ " file not found: " ++ path
  | .malformed kind => "Invalid YAML in " ++ kind.name ++ " file: <detail>"
  | .notMapping kind path => kind.title ++ " file must be a YAML mapping: " ++ path
  | .unset name => "Environment variable '" ++ Text.EncodingFault.shown name ++ "' is not set"
  | .assertionsNotList path => "assertions must be a list in " ++ path
  | .invalid kind path issues =>
    "Invalid " ++ kind.name ++ " structure in " ++ path ++ ": " ++
      Issue.report kind.modelName issues
  | .invalidAssertion number path issues =>
    "Invalid assertion #" ++ toString number ++ " in " ++ path ++ ": " ++
      Issue.report "Assertion" issues

/-- Why a file is not loaded. Only the first is the author's business; the others end the
program. -/
inductive LoadError where
  | config (e : ConfigError)
  | file (e : FileError)
  | notUtf8 (fault : Text.Utf8.Fault)
  | scalar (e : Yaml.Error)
  | unwritable (fault : Text.EncodingFault)
  /-- An integer that should be a text has too many digits. -/
  | overlong
  deriving DecidableEq, Repr

/-- What a refusal of the file's contents is: issues are reported in words of their own. -/
def LoadError.ofRefusal (report : List Issue → ConfigError) : Refusal → LoadError
  | .issues found => .config (report found)
  | .overlong => .overlong

/-- Line breaks of every system as line feeds. -/
def plainBreaks : List Char → List Char
  | '\r' :: '\n' :: r => '\n' :: plainBreaks r
  | '\r' :: r => '\n' :: plainBreaks r
  | c :: r => c :: plainBreaks r
  | [] => []

/-- The text of a file. The position of a character that the file breaks off in is counted from
that character. -/
def decodeFile (bs : List UInt8) : Except LoadError String :=
  match Text.Utf8.decode? bs with
  | some s => .ok (String.ofList (plainBreaks s.toList))
  | none =>
    match Text.Utf8.fault? bs with
    | some f => .error (.notUtf8 (if f.reason = .truncated then { f with position := 0 } else f))
    | none => .error (.config (.malformed .request))

/-- The mapping of a YAML text. -/
def parseMapping (kind : FileKind) (path text : String) :
    Except LoadError (List (Data × Data)) :=
  match Yaml.read text with
  | .ok (.map entries) => .ok entries
  | .ok _ => .error (.config (.notMapping kind path))
  | .error .malformed => .error (.config (.malformed kind))
  | .error e => .error (.scalar e)

/-- The mapping of a file (`_load_yaml_mapping`). -/
def loadMapping (fs : Files) (kind : FileKind) (path : FilePath) :
    Except LoadError (List (Data × Data)) :=
  if !fs.has path then .error (.config (.missing kind path.text))
  else
    match fs.content path with
    | .error e => .error (.file e)
    | .ok bs =>
      match decodeFile bs with
      | .error e => .error e
      | .ok text => parseMapping kind path.text text

/-- A mapping with the references to the process environment resolved. -/
def resolveMapping (env : ProcessEnvironment) (entries : List (Data × Data)) :
    Except LoadError (List (Data × Data)) :=
  match env.resolveEntries entries with
  | .ok es => .ok es
  | .error (.unset name) => .error (.config (.unset name))
  | .error (.unwritable f) => .error (.unwritable f)

/-- Assertions one after another; the first that is invalid is an error. -/
def readAssertions (path : String) : Nat → List Data → Except LoadError (List Assertion)
  | _, [] => .ok []
  | number, v :: rest =>
    match Assertion.read v with
    | .refused why => .error (.ofRefusal (.invalidAssertion number path) why)
    | .accepted a => do return a :: (← readAssertions path (number + 1) rest)

/-- The name of the entry with the assertions. -/
def assertionsKey : Data := .text "assertions"

/-- The value of the entry with the assertions as a list; an absent or empty one is empty. -/
def assertionItems (path : String) (entries : List (Data × Data)) :
    Except ConfigError (List Data) :=
  match Data.lookup? entries assertionsKey with
  | none => .ok []
  | some (.list items) => .ok items
  | some v => if v.isEmptyValue then .ok [] else .error (.assertionsNotList path)

/-- A request file from its resolved mapping. -/
def requestFileOf (path : String) (entries : List (Data × Data)) :
    Except LoadError RequestFile := do
  let items ← (assertionItems path entries).mapError .config
  let rest := entries.filter fun e => !e.1.same assertionsKey
  match Request.read (.map rest) with
  | .refused why => throw (.ofRefusal (.invalid .request path) why)
  | .accepted request => return ⟨request, ← readAssertions path 1 items⟩

/-- A model from its resolved mapping (`_load_model`). -/
def modelOf {α : Type} (kind : FileKind) (read : Data → Check α) (path : String)
    (entries : List (Data × Data)) : Except LoadError α :=
  match read (.map entries) with
  | .refused why => .error (.ofRefusal (.invalid kind path) why)
  | .accepted a => .ok a

/-- Loads a file, resolves its references and reads what it describes. -/
def loadWith {α : Type} (kind : FileKind)
    (read : String → List (Data × Data) → Except LoadError α) (env : ProcessEnvironment)
    (fs : Files) (path : FilePath) : Except LoadError α := do
  let entries ← resolveMapping env (← loadMapping fs kind path)
  read path.text entries

/-- Loads a request file (`load_request_file`). -/
def loadRequestFile : ProcessEnvironment → Files → FilePath → Except LoadError RequestFile :=
  loadWith .request requestFileOf

/-- Loads an environment (`load_environment`). -/
def loadEnvironment : ProcessEnvironment → Files → FilePath → Except LoadError Environment :=
  loadWith .environment (modelOf .environment Environment.read)

/-- Loads transport settings (`load_transport_config`). -/
def loadTransport : ProcessEnvironment → Files → FilePath → Except LoadError Transport :=
  loadWith .transport (modelOf .transport Transport.read)

end Courier
