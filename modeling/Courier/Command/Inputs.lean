import Courier.Command.Arguments
import Courier.Command.Outcome
import Courier.Variables

/-!
# Inputs of a command

The files that a command names, loaded in order: the request file, the environment, and the
transport settings, which give way to the choices on the command line.
-/

namespace Courier.Command

/-- A request file with its environment, if one is named. -/
structure Inputs where
  file : RequestFile
  environment : Option Environment

/-- Loads the request file, then the environment (`_load_inputs`). -/
def Sources.load (m : Machine) (s : Sources) : Except LoadError Inputs := do
  let file ← loadRequestFile m.environment m.files s.request
  match s.environment with
  | none => return ⟨file, none⟩
  | some path => return ⟨file, some (← loadEnvironment m.environment m.files path)⟩

namespace SendArguments

/-- Settings with the choices of the command line. A bundle of certificates means that certificates
are checked. -/
def choose (a : SendArguments) (t : Transport) : Transport :=
  { timeout := a.timeout.getD t.timeout
    verifySsl := t.verifySsl || a.verifySsl || a.caBundle.isSome
    caBundle := (a.caBundle.map fun path => .ofString path.text).orElse fun _ => t.caBundle
    followRedirects := t.followRedirects && a.followRedirects }

/-- Loads the transport settings (`build_transport_config`). -/
def transport (m : Machine) (a : SendArguments) : Except LoadError Transport :=
  match a.config with
  | none => .ok (a.choose Transport.standard)
  | some path => (loadTransport m.environment m.files path).map a.choose

end SendArguments

/-- The paths that a command names. -/
def Invocation.paths : Invocation → List FilePath
  | .send a => a.sources.request :: a.sources.environment.toList ++ a.config.toList
  | .checkVars s => s.request :: s.environment.toList

/-- The path of the certificates that a command uses, as far as its files are there. -/
def Invocation.certificates (m : Machine) : Invocation → List FilePath
  | .send a =>
    match a.transport m with
    | .ok t => (t.caBundle.bind CodeText.toString?).toList.map FilePath.ofText
    | .error _ => []
  | .checkVars _ => []

/-- The request with its variables resolved where an environment is named. -/
def Inputs.request (i : Inputs) : Request :=
  match i.environment with
  | none => i.file.request
  | some e => i.file.request.substitute ⟨some e, []⟩

end Courier.Command
