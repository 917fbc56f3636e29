import ReplicaPlacement.Ordered
import ReplicaPlacement.Text.Quoted
import ReplicaPlacement.Text.Utf8
import ReplicaPlacement.Trace

/-!
# Ordered byte stores

A store maps byte strings to byte strings, in byte order of the keys. A transaction works on a copy
that takes the place of the content when it is committed. A view keeps the content it was opened on.
-/

namespace ReplicaPlacement.Store

structure Entry where
  key : Bytes
  value : Bytes
  deriving DecidableEq, Repr

/-- Entries in order of their keys, each key once. -/
abbrev Content := List Entry

/-- The entries whose key starts with some bytes: those from the first key that is not below them,
up to the first key that does not start with them. -/
def scan (start : Bytes) (c : Content) : Content :=
  (c.dropWhile fun e => decide (e.key < start)).takeWhile fun e => start.isPrefixOf e.key

def put (key value : Bytes) (c : Content) : Content := Ordered.put Entry.key ⟨key, value⟩ c

def remove (c : Content) (e : Entry) : Content := Ordered.erase Entry.key e.key c

def deletePrefix (start : Bytes) (c : Content) : Content × Nat :=
  let found := scan start c
  (found.foldl remove c, found.length)

def scanTraced (start : Bytes) (c : Content) : Traced Content := do
  Traced.emit .debug fun _ => s!"Scanning with prefix: {Text.quoted (Utf8.lossy start)}"
  let found := scan start c
  Traced.emit .debug fun _ => s!"Scan found {found.length} results"
  pure found

def openingEvent (path : String) : Event := ⟨.info, fun _ => s!"Opening redb database at: {path}"⟩

def openedEvent : Event := ⟨.info, fun _ => "redb database initialized successfully"⟩

/-! ## Sessions -/

structure Session where
  committed : Content := []
  pending : Option Content := none
  /-- The newest view of a name in front. -/
  views : List (String × Content) := []

namespace Session

variable (s : Session)

def begin : Session := { s with pending := some s.committed }

def update (f : Content → Content) : Session := { s with pending := s.pending.map f }

def commit : Session := { s with committed := s.pending.getD s.committed, pending := none }

def rollback : Session := { s with pending := none }

def pin (name : String) : Session := { s with views := (name, s.committed) :: s.views }

def view? (name : String) : Option Content := s.views.lookup name

def reopen : Session := { committed := s.committed }

end Session

end ReplicaPlacement.Store
