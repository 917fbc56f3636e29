import ReplicaPlacement.Command.Run
import ReplicaPlacement.Text.Segments

/-!
# Workspaces

The files that commands read and write, as a value. Paths lead down from one directory, and nothing
outside of it exists. A directory is there as long as a file below it is.
-/

namespace ReplicaPlacement.Command

inductive File where
  | bytes (content : Bytes)
  | store (content : Store.Content)

/-- The names on the way from the directory of the workspace to a file. -/
abbrev Place := List String

structure Workspace where
  /-- The newest file of a place in front. -/
  files : List (Place × File) := []
  reported : List Event := []

namespace Workspace

variable (w : Workspace)

def isDirectory (place : Place) : Bool :=
  place.isEmpty || w.files.any fun f => place.isPrefixOf f.1 && place != f.1

def enter (place : Place) (part : String) : Option Place :=
  if part = "" || part = "." then some place
  else if part = ".." then if place.isEmpty then none else some place.dropLast
  else if w.isDirectory (place ++ [part]) then some (place ++ [part])
  else none

def place? (path : String) : Option Place :=
  match (Text.segments '/' path.toList).map String.ofList with
  | "" :: _ => none
  | parts =>
    let name := parts.getLastD ""
    if ["", ".", ".."].contains name then none
    else (parts.dropLast.foldlM w.enter []).map (· ++ [name])

def file? (path : String) : Option File := (w.place? path).bind fun place => w.files.lookup place

def write (path : String) (f : File) : Workspace :=
  match w.place? path with
  | some place => { w with files := (place, f) :: w.files }
  | none => w

def text? (path : String) : Option String :=
  match w.file? path with
  | some (.bytes content) => Utf8.text? content
  | _ => none

/-- The content of a store. An empty file becomes a store, and so does a missing one in a directory
that is there. -/
def openStore (path : String) : Option Store.Content × Workspace :=
  match w.place? path with
  | none => (none, w)
  | some place =>
    if w.isDirectory place then (none, w)
    else
      match w.files.lookup place with
      | some (.store content) => (some content, w)
      | some (.bytes (_ :: _)) => (none, w)
      | _ => (some [], { w with files := (place, .store []) :: w.files })

def environment : Environment (StateM Workspace) where
  readText path := do pure ((← get).text? path)
  openStore path := modifyGet fun w => w.openStore path
  saveStore path content := modify fun w => w.write path (.store content)
  report e := modify fun w => { w with reported := e :: w.reported }

def run (job : Job) : Except Failure Outcome × Workspace :=
  ((job.run environment).run).run w

end Workspace

end ReplicaPlacement.Command
