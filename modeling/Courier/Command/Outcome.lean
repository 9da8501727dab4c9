import Courier.Client.Build
import Courier.Config
import Courier.Evaluation.Check
import Courier.Exchange.Execute

/-!
# Outcomes of a command

What a command leaves behind: an exit code, what it wrote, the requests that it sent and the files
as they are afterwards. What it writes to the standard streams is text: in which encoding a stream
puts it down is the stream's affair. A fault that is nobody's business to report ends the program
without an exit code of its own.
-/

namespace Courier.Command

/-- The machine that a command runs on: its environment and files, what the client meets, and the
clock. -/
structure Machine where
  environment : ProcessEnvironment
  files : Files
  surroundings : Surroundings
  clock : Clock

/-- A fault that ends the program. -/
inductive Crash where
  | load (e : LoadError)
  | build (e : BuildError)
  | execute (e : ExecuteError)
  | evaluate (f : EvaluationFault)

/-- What a command leaves behind. -/
structure Outcome where
  status : Except Crash Nat
  output : CodeText
  errorOutput : CodeText
  sent : List WireRequest
  files : Files

namespace Outcome

/-- Nothing done yet, with success in view. -/
def start (files : Files) : Outcome := ⟨.ok 0, [], [], [], files⟩

/-- Writes a line to the standard output. -/
def print (o : Outcome) (line : CodeText) : Outcome := { o with output := o.output ++ line ++ "\n" }

/-- Writes a line to the standard error. -/
def report (o : Outcome) (line : CodeText) : Outcome :=
  { o with errorOutput := o.errorOutput ++ line ++ "\n" }

/-- Ends with an exit code. -/
def exit (o : Outcome) (code : Nat) : Outcome := { o with status := .ok code }

/-- Ends the program with a fault. -/
def crash (o : Outcome) (c : Crash) : Outcome := { o with status := .error c }

/-- Ends with a message about a failure. -/
def fail (o : Outcome) (line : CodeText) : Outcome := (o.report line).exit 1

/-- Ends because a file was not loaded. -/
def failLoad (o : Outcome) (e : LoadError) : Outcome :=
  match e with
  | .config e => o.fail ("Error loading config: " ++ e.message)
  | e => o.crash (.load e)

/-- Ends because there is no client. -/
def failBuild (o : Outcome) (e : BuildError) : Outcome :=
  if e.isReported then o.fail ("Error: " ++ e.message) else o.crash (.build e)

/-- Whether the user broke the program off. -/
def isInterrupt : ExecuteError → Bool
  | .foreign f => f.kind == .interrupt
  | _ => false

/-- Ends because there is no response. -/
def failExecute (o : Outcome) (e : ExecuteError) : Outcome :=
  if e.isReported then o.fail ("Error: " ++ e.message)
  else if isInterrupt e then o.fail "\nInterrupted"
  else o.crash (.execute e)

end Outcome

end Courier.Command
