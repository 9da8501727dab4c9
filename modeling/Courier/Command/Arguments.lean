import Courier.Command.Number
import Courier.Command.Option
import Courier.Files

/-!
# Arguments

The commands and their arguments. `send` sends the request of a file, `check-vars` lists the
variables that a request refers to. A line that asks for help or that is wrong ends the program with
a text and an exit code.
-/

namespace Courier.Command

/-- The pages of help. -/
inductive Page where
  | program
  | send
  | checkVars
  deriving DecidableEq, Repr

namespace Page

/-- The words that call what the page is about. -/
def name : Page → String
  | program => "reqly"
  | send => "reqly send"
  | checkVars => "reqly check-vars"

/-- How it is called. -/
def usage : Page → String
  | program => "usage: reqly [-h] \x7bsend,check-vars\x7d ...\n"
  | send =>
    "usage: reqly send [-h] --request REQUEST [--env ENV] [--config CONFIG]
                  [--timeout TIMEOUT] [--verify-ssl | --ca-bundle CA_BUNDLE]
                  [--no-follow-redirects] [--out OUT] [-v]
"
  | checkVars => "usage: reqly check-vars [-h] --request REQUEST [--env ENV]\n"

/-- What it does. -/
def description : Page → String
  | program =>
    "
Send HTTP requests described in YAML/JSON files and print normalized
responses.

positional arguments:
  \x7bsend,check-vars\x7d  Execution mode
    send             Send a request file and print the response as JSON
    check-vars       List \x7b\x7bvariable\x7d\x7d references in a request and report
                     unresolved ones

options:
  -h, --help         show this help message and exit
"
  | send =>
    "
options:
  -h, --help            show this help message and exit
  --request REQUEST     Path to request file (YAML or JSON)
  --env ENV             Path to environment file providing \x7b\x7bvariable\x7d\x7d values
  --config CONFIG       Path to transport config file (timeout, verify_ssl,
                        ca_bundle, follow_redirects)
  --timeout TIMEOUT     Request timeout in seconds (default: 60.0)
  --verify-ssl          Validate server certificates (off by default for local
                        development)
  --ca-bundle CA_BUNDLE
                        CA bundle for certificate validation (implies
                        --verify-ssl)
  --no-follow-redirects
                        Return redirect responses instead of following them
  --out OUT             Write the response JSON to this file instead of stdout
  -v, --verbose         Print the outgoing request summary to stderr
"
  | checkVars =>
    "
options:
  -h, --help         show this help message and exit
  --request REQUEST  Path to request file (YAML or JSON)
  --env ENV          Path to environment file providing \x7b\x7bvariable\x7d\x7d values
"

/-- The whole page. -/
def help (p : Page) : String := p.usage ++ p.description

end Page

/-- Why the program ends before it does anything. -/
inductive Halt where
  | help (page : Page)
  | error (page : Page) (e : UsageError)
  deriving DecidableEq, Repr

namespace Halt

/-- The exit code. -/
def code : Halt → Nat
  | help _ => 0
  | error _ _ => 2

/-- What is written to the standard output. -/
def output : Halt → String
  | help page => page.help
  | error _ _ => ""

/-- What is written to the standard error. -/
def errorOutput : Halt → String
  | help _ => ""
  | error page e => page.usage ++ page.name ++ ": error: " ++ e.message ++ "\n"

end Halt

/-- What a request file and an environment are looked for by. -/
structure Sources where
  request : FilePath
  environment : Option FilePath
  deriving DecidableEq, Repr

/-- The arguments of `send` (`SendArgs`). -/
structure SendArguments where
  sources : Sources
  config : Option FilePath
  timeout : Option Double
  verifySsl : Bool
  caBundle : Option FilePath
  followRedirects : Bool
  out : Option FilePath
  verbose : Bool
  deriving DecidableEq, Repr

/-- A command with its arguments. -/
inductive Invocation where
  | send (a : SendArguments)
  | checkVars (s : Sources)
  deriving DecidableEq, Repr

/-- The meaning of an option. -/
inductive Setting where
  | help
  | request
  | environment
  | config
  | timeout
  | verifySsl
  | caBundle
  | noFollowRedirects
  | out
  | verbose
  deriving DecidableEq, Repr

/-- An option that says something by itself. -/
def flag (tag : Setting) (names : List String) : OptionSpec Setting := ⟨tag, names, false⟩

/-- An option with a value. -/
def valued (tag : Setting) (name : String) : OptionSpec Setting := ⟨tag, [name], true⟩

/-- The options of a page (`build_parser`). -/
def Page.options : Page → List (OptionSpec Setting)
  | .program => [flag .help ["-h", "--help"]]
  | .send =>
    [flag .help ["-h", "--help"], valued .request "--request", valued .environment "--env",
      valued .config "--config", valued .timeout "--timeout", flag .verifySsl ["--verify-ssl"],
      valued .caBundle "--ca-bundle", flag .noFollowRedirects ["--no-follow-redirects"],
      valued .out "--out", flag .verbose ["-v", "--verbose"]]
  | .checkVars =>
    [flag .help ["-h", "--help"], valued .request "--request", valued .environment "--env"]

/-- What has been read of a command: its arguments, of which the request may be missing, and the
words that were left aside. -/
structure Draft where
  request : Option FilePath
  arguments : SendArguments
  extras : List String

namespace Draft

/-- Nothing read. -/
def empty : Draft :=
  ⟨none, ⟨⟨FilePath.ofText "", none⟩, none, none, false, none, true, none, false⟩, []⟩

/-- An option that must not stand beside another. -/
def conflict (o : OptionSpec Setting) (other : String) : UsageError :=
  .option o.title ("not allowed with argument " ++ other)

/-- Takes an option. A later one of the same name goes before an earlier one. -/
def take (page : Page) (d : Draft) (o : OptionSpec Setting) (value : String) : Except Halt Draft :=
  let path := FilePath.ofText value
  let a := d.arguments
  match o.tag with
  | .help => .error (.help page)
  | .request => .ok { d with request := some path }
  | .environment =>
    .ok { d with arguments := { a with sources := { a.sources with environment := some path } } }
  | .config => .ok { d with arguments := { a with config := some path } }
  | .timeout =>
    match positiveNumber value with
    | .ok x => .ok { d with arguments := { a with timeout := some x } }
    | .error e => .error (.error page (.option o.title e.message))
  | .verifySsl =>
    if a.caBundle.isSome then .error (.error page (conflict o "--ca-bundle"))
    else .ok { d with arguments := { a with verifySsl := true } }
  | .caBundle =>
    if a.verifySsl then .error (.error page (conflict o "--verify-ssl"))
    else .ok { d with arguments := { a with caBundle := some path } }
  | .noFollowRedirects => .ok { d with arguments := { a with followRedirects := false } }
  | .out => .ok { d with arguments := { a with out := some path } }
  | .verbose => .ok { d with arguments := { a with verbose := true } }

/-- Takes steps in order. -/
def takeAll (page : Page) : Draft → List (Step Setting) → Except Halt Draft
  | d, [] => .ok d
  | d, .use o value :: rest => do takeAll page (← d.take page o (value.getD "")) rest
  | d, .extra word :: rest => takeAll page { d with extras := d.extras ++ [word] } rest
  | _, .error e :: _ => .error (.error page e)

end Draft

/-- A usage error as an end of the program. -/
def orHalt {α : Type} (page : Page) (r : Except UsageError α) : Except Halt α :=
  match r with
  | .ok a => .ok a
  | .error e => .error (.error page e)

/-- Reads the arguments of a command. A request is needed. -/
def readDraft (page : Page) (words : List String) : Except Halt (SendArguments × List String) := do
  let read ← orHalt page (Word.readAll page.options words)
  let d ← Draft.empty.takeAll page (Step.ofWords page.options read)
  match d.request with
  | none => throw (.error page (.required ["--request"]))
  | some request =>
    return ({ d.arguments with sources := { d.arguments.sources with request := request } },
      d.extras)

/-- Ends the program if words were left aside. -/
def refuseExtras (extras : List String) (c : Invocation) : Except Halt Invocation :=
  if extras.isEmpty then .ok c else .error (.error .program (.unrecognized extras))

/-- A word that names no command. -/
def unknownCommand (word : String) : Halt :=
  .error .program (.option "command" ("invalid choice: " ++ Text.quoted word ++
    " (choose from 'send', 'check-vars')"))

/-- Reads a command by its name and the words that follow; `extras` were left aside before. -/
def readCommand (extras : List String) (name : String) (words : List String) :
    Except Halt Invocation :=
  match name with
  | "send" => do
    let (a, more) ← readDraft .send words
    refuseExtras (extras ++ more) (.send a)
  | "check-vars" => do
    let (a, more) ← readDraft .checkVars words
    refuseExtras (extras ++ more) (.checkVars a.sources)
  | other => .error (unknownCommand other)

/-- Reads what stands in front of a command, and the command. -/
def readLeading (extras : List String) : List String → Except Halt Invocation
  | [] => .error (.error .program (.required ["command"]))
  | word :: rest =>
    if word = "--" then
      if rest.isEmpty then .error (.error .program (.required ["command"]))
      else .error (unknownCommand word)
    else
      match Word.read Page.program.options word with
      | .error e => .error (.error .program e)
      | .ok (.plain name) => readCommand extras name rest
      | .ok (.option o name value) =>
        match Step.ofOption Page.program.options o name value with
        | .error e => .error (.error .program e)
        | .ok _ => .error (.help .program)
      | .ok w => readLeading (extras ++ [w.text]) rest

/-- Reads a command line (`parse_args`). -/
def readCommandLine (words : List String) : Except Halt Invocation := readLeading [] words

end Courier.Command
