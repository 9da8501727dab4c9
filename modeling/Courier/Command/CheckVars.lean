import Courier.Command.Inputs

/-!
# Checking variables

The command `check-vars`: it lists the variables that a request refers to and says which of them
have no value.
-/

namespace Courier.Command

/-- The line on one variable. -/
def variableLine (c : VariableCheck) (name : CodeText) : CodeText :=
  "  \x7b\x7b" ++ name ++ "\x7d\x7d: " ++ (if c.missing.contains name then "MISSING" else "ok")

/-- Reports a check. -/
def Outcome.reportCheck (c : VariableCheck) (o : Outcome) : Outcome :=
  if c.references.isEmpty then (o.print "No variable references found").exit 0
  else
    let o := o.print ("Variables referenced: " ++ toString c.references.length)
    let o := (c.references.map (variableLine c)).foldl Outcome.print o
    if c.isValid then (o.print "All variables resolved").exit 0
    else o.fail ("Unresolved variables: " ++ (", " : CodeText).intercalate c.missing)

/-- Runs `check-vars` (`run_check_vars`). -/
def runCheckVars (m : Machine) (s : Sources) : Outcome :=
  let o := Outcome.start m.files
  match s.load m with
  | .error e => o.failLoad e
  | .ok inputs => o.reportCheck (inputs.file.request.checkVariables ⟨inputs.environment, []⟩)

end Courier.Command
