import Courier.Command.CheckVars
import Courier.Command.Send

/-!
# Running a command line

A command line is read and its command is run.
-/

namespace Courier.Command

/-- The outcome of a command line that ends before its command. -/
def Halt.outcome (h : Halt) (m : Machine) : Outcome :=
  ⟨.ok h.code, h.output, h.errorOutput, [], m.files⟩

/-- Runs a command (`dispatch`). -/
def Invocation.run (m : Machine) : Invocation → Outcome
  | .send a => runSend m a
  | .checkVars s => runCheckVars m s

/-- Runs a command line (`main`). -/
def run (m : Machine) (words : List String) : Outcome :=
  match readCommandLine words with
  | .error h => h.outcome m
  | .ok c => c.run m

end Courier.Command
