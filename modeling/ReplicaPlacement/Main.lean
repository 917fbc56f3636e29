import ReplicaPlacement.Command.Run
import ReplicaPlacement.Store.File

/-!
# The program

Reads the command line, carries the command out on real files and prints the outcome. The exit code
is 0, 2 if not everything asked for was placed or the line is no command, and 1 after a failure.
-/

namespace ReplicaPlacement.Program

open Command

def readText (path : String) : IO (Option String) := do
  try
    let text ← IO.FS.readFile path
    pure (some text)
  catch _ => pure none

def writeBytes (path : String) (bs : Bytes) : IO Unit := IO.FS.writeBinFile path ⟨bs.toArray⟩

def createStore (path : String) : IO (Option Store.Content) := do
  try
    writeBytes path (Store.toFile [])
    pure (some [])
  catch _ => pure none

/-- The content of a store file. A file that is missing or empty becomes a store. -/
def openStore (path : String) : IO (Option Store.Content) := do
  try
    let bytes ← IO.FS.readBinFile path
    if bytes.isEmpty then createStore path else pure (Store.ofFile? bytes.data.toList)
  catch
  | .noFileOrDirectory .. => createStore path
  | _ => pure none

def report (e : Event) : IO Unit :=
  match e.severity with
  | .trace | .debug => pure ()
  | severity => IO.eprintln s!"{severity.text} {e.render ()}"

def environment : Environment IO where
  readText := readText
  openStore := openStore
  saveStore path content := writeBytes path (Store.toFile content)
  report := report

def run (job : Job) : IO UInt32 := do
  match ← (job.run environment).run with
  | .ok outcome =>
    IO.print outcome.output
    IO.eprint outcome.errorOutput
    pure (if outcome.complete then 0 else 2)
  | .error failure =>
    IO.eprintln s!"error: {failure.message}"
    if let some help := failure.help then IO.eprintln s!"help: {help}"
    pure 1

end ReplicaPlacement.Program

def main (args : List String) : IO UInt32 := do
  match ReplicaPlacement.Command.Job.parse args with
  | .ok job => ReplicaPlacement.Program.run job
  | .error .help =>
    IO.print ReplicaPlacement.Command.usage
    pure 0
  | .error e =>
    IO.eprintln s!"error: {e.message}"
    IO.eprint ReplicaPlacement.Command.usage
    pure 2
