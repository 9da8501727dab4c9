import Courier.Command.Run

/-!
# The program

Runs a command line on the files and the environment of the process. There is no network beneath
it: every request meets a server that cannot be reached.
-/

namespace Courier.Program

open Command

/-- What a request meets. -/
def unreachable : Script := [.fault (Fault.of .connectError "")]

/-- The file or directory of a path, if there is one. -/
def load (p : FilePath) : IO Files := do
  let path := (← IO.currentDir) / p.text
  if ← path.isDir then return [(Files.placeOf p, .directory)]
  if ← path.pathExists then
    return [(Files.placeOf p, .file (← IO.FS.readBinFile path).toList)]
  return []

/-- The files and directories of paths. -/
def loadAll (ps : List FilePath) : IO Files := do
  return (← ps.mapM load).flatten

/-- Writes the files of a command that were not there or had another content. -/
def store (before after : Files) : IO Unit := do
  for (place, node) in after do
    if before.contains (place, node) then continue
    let path := (← IO.currentDir) / "/".intercalate place
    match node with
    | .directory => IO.FS.createDirAll path
    | .file content => IO.FS.writeBinFile path ⟨content.toArray⟩

/-- The environment of the process. -/
def environment : IO ProcessEnvironment := do
  try return .ofBytes (← IO.FS.readBinFile "/proc/self/environ").toList
  catch _ => return []

/-- A boundary of random digits. -/
def boundary : IO String := do
  return String.join ((← IO.getRandomBytes 16).toList.map Text.Utf8.hexByte)

/-- The words for a fault that ends the program. -/
def crashMessage : Crash → String
  | .load (.config e) => e.message
  | .load (.file e) => e.message
  | .load (.notUtf8 f) => f.message
  | .load (.scalar e) => e.message
  | .load (.unwritable f) => f.message
  | .load .overlong => unwritableMessage
  | .build e => e.message.shown
  | .execute e => e.message
  | .evaluate f => f.message

/-- Writes what a command leaves behind and gives its exit code. -/
def finish (before : Files) (o : Outcome) : IO UInt32 := do
  IO.print o.output.shown
  IO.eprint o.errorOutput.shown
  store before o.files
  match o.status with
  | .ok code => return UInt32.ofNat code
  | .error c => do
    IO.eprintln (crashMessage c)
    return 1

/-- The machine with given files. -/
def machine (files : Files) : IO Machine := do
  let time := Double.ofInt ((← IO.monoMsNow) / 1000)
  return ⟨← environment, files, ⟨unreachable, ← boundary, 0⟩, [time]⟩

end Courier.Program

open Courier Courier.Program

/-- Runs a command line. -/
def main (words : List String) : IO UInt32 := do
  match Command.readCommandLine words with
  | .error h => finish [] (h.outcome (← machine []))
  | .ok c => do
    let named ← loadAll c.paths
    let bundles ← loadAll (c.certificates (← machine named))
    let files := named ++ bundles
    finish files (c.run (← machine files))
