import ReplicaPlacement.Registry.Error
import ReplicaPlacement.Text.Segments

/-!
# Registry keys

Every object of a cluster has a key in the registry. A key is made of upper-cased names after a
fixed word, so each object has one key however it is spelled, and no two objects share one.
-/

namespace ReplicaPlacement

inductive RegistryKey where
  | node (node : NodeName)
  | pool (node : NodeName) (name : PoolName)
  | replica (resource : ResourceName) (node : NodeName)
  | resource (name : ResourceName)
  deriving DecidableEq

namespace RegistryKey

def nodePrefix : String := "node/"

def poolPrefix : String := "storpool/"

def replicaPrefix : String := "resource/"

def resourcePrefix : String := "rscdfn/"

def prefixes : List String := [nodePrefix, poolPrefix, replicaPrefix, resourcePrefix]

def poolsOn (node : NodeName) : String := poolPrefix ++ node.key ++ "/"

def replicasOf (resource : ResourceName) : String := replicaPrefix ++ resource.key ++ "/"

def encode : RegistryKey → String
  | node host => nodePrefix ++ host.key
  | pool host name => poolsOn host ++ name.key
  | replica res host => replicasOf res ++ host.key
  | resource name => resourcePrefix ++ name.key

instance : ToString RegistryKey := ⟨encode⟩

def same : RegistryKey → RegistryKey → Bool
  | node a, node b => a.same b
  | pool a p, pool b q => a.same b && p.same q
  | replica r a, replica s b => r.same s && a.same b
  | resource a, resource b => a.same b
  | _, _ => false

def ofString? (s : String) : Option RegistryKey :=
  match (Text.segments '/' s.toList).map String.ofList with
  | ["node", host] => (Name.ofString? .node host).map node
  | ["storpool", host, name] => do
    let host ← Name.ofString? .node host
    let name ← Name.ofString? .storagePool name
    pure (pool host name)
  | ["resource", res, host] => do
    let res ← Name.ofString? .resource res
    let host ← Name.ofString? .node host
    pure (replica res host)
  | ["rscdfn", name] => (Name.ofString? .resource name).map resource
  | _ => none

def parse (s : String) : Except StorageError RegistryKey :=
  match ofString? s with
  | some k => .ok k
  | none => .error (.invalidKey s)

end RegistryKey

end ReplicaPlacement
