import ReplicaPlacement.Cluster.Snapshot
import ReplicaPlacement.Document.Json.Reader
import ReplicaPlacement.Document.Json.Writer
import ReplicaPlacement.Registry.Key
import ReplicaPlacement.Store.Basic

/-!
# The registry

A cluster snapshot kept in a store, one entry per object. It is written and read as a whole: saving
replaces all entries in one transaction, and loading reads one view. Keys outside the registry are
left alone.
-/

namespace ReplicaPlacement

structure Codec where
  write : Value → Bytes
  read? : Bytes → Option Value

def Codec.json : Codec where
  write v := Utf8.encode (Json.compact v)
  read? bytes := (Utf8.text? bytes).bind Json.parse?

namespace Registry

open Store (Content Entry)

def nodeKey (n : Node) : RegistryKey := .node n.name

def poolKey (p : Pool) : RegistryKey := .pool p.node p.name

def replicaKey (r : Replica) : RegistryKey := .replica r.resource r.node

def resourceKey (name : ResourceName) : RegistryKey := .resource name

/-! ## Saving -/

def entryOf {α : Type} [ToValue α] (codec : Codec) (keyOf : α → RegistryKey) (x : α) : Entry :=
  ⟨Utf8.encode (keyOf x).encode, codec.write (toValue x)⟩

def entries (codec : Codec) (i : Inventory) : List Entry :=
  i.nodes.map (entryOf codec nodeKey) ++ i.pools.map (entryOf codec poolKey)
    ++ i.replicas.map (entryOf codec replicaKey) ++ i.resources.map (entryOf codec resourceKey)

def clear (c : Content) : Content × Nat :=
  RegistryKey.prefixes.foldl
    (fun (c, removed) start =>
      let (c, n) := Store.deletePrefix (Utf8.encode start) c
      (c, removed + n))
    (c, 0)

def replace (codec : Codec) (s : Snapshot) (c : Content) : Content :=
  (entries codec s.toInventory).foldl (fun c e => Store.put e.key e.value c) (clear c).1

def save (codec : Codec) (s : Snapshot) (c : Content) : Traced Content := do
  Traced.emit .debug fun _ => s!"Cleared {(clear c).2} previous registry entries"
  let saved := replace codec s c
  Traced.emit .info fun _ =>
    let i := s.toInventory
    s!"Saved registry: {i.nodes.length} nodes, {i.pools.length} storage pools, {i.replicas.length} resources, {i.resources.length} resource definitions"
  pure saved

/-! ## Loading -/

/-- The object of an entry. Its key must be the object's own, in any letter case. -/
def readEntry {α : Type} [FromDocument α] (codec : Codec) (keyOf : α → RegistryKey) (e : Entry) :
    Except StorageError α := do
  let name := Utf8.lossy e.key
  match (codec.read? e.value).bind FromDocument.read? with
  | none => throw (.serialization s!"Failed to deserialize registry entry '{name}'")
  | some x =>
    let key ← RegistryKey.parse name
    if key.same (keyOf x) then pure x else throw (.invalidKey name)

def loadKind {α : Type} [FromDocument α] (codec : Codec) (start : String) (keyOf : α → RegistryKey)
    (view : Content) : Attempt StorageError (List α) := do
  let found ← Attempt.ofTraced (Store.scanTraced (Utf8.encode start) view)
  Attempt.ofExcept (found.mapM (readEntry codec keyOf))

def loadInventory (codec : Codec) (view : Content) : Attempt StorageError Inventory := do
  let nodes ← loadKind codec RegistryKey.nodePrefix nodeKey view
  let pools ← loadKind codec RegistryKey.poolPrefix poolKey view
  let replicas ← loadKind codec RegistryKey.replicaPrefix replicaKey view
  let resources ← loadKind codec RegistryKey.resourcePrefix resourceKey view
  pure { nodes, pools, replicas, resources }

def load (codec : Codec) (view : Content) : Attempt StorageError Snapshot := do
  let i ← loadInventory codec view
  Attempt.debug fun _ =>
    s!"Loaded registry entries: {i.nodes.length} nodes, {i.pools.length} storage pools, {i.replicas.length} resources"
  i.build.mapError .invalidRegistry

end Registry

end ReplicaPlacement
