import ReplicaPlacement.Cluster.Error
import ReplicaPlacement.Cluster.Provider
import ReplicaPlacement.Ordered

/-!
# Parts of a cluster

Nodes with properties, storage pools on nodes, and replicas of resources with volumes in pools.
-/

namespace ReplicaPlacement

abbrev Property := String × String

structure Node where
  name : NodeName
  /-- In key order, each key once. -/
  props : List Property := []
  connected : Bool := true
  deriving DecidableEq

structure Pool where
  name : PoolName
  node : NodeName
  provider : ProviderKind
  /-- In KiB, if known. -/
  freeSpace : Option UInt64 := none
  totalCapacity : Option UInt64 := none
  deriving DecidableEq

structure Volume where
  number : UInt32
  pool : PoolName
  size : UInt64 := 0
  deriving DecidableEq

structure Replica where
  resource : ResourceName
  node : NodeName
  diskless : Bool := false
  volumes : List Volume := []
  deriving DecidableEq

namespace Node

def prop? (n : Node) (key : String) : Option String := n.props.lookup key

def setProp (n : Node) (key value : String) : Node :=
  { n with props := Ordered.put Prod.fst (key, value) n.props }

end Node

namespace Pool

def describe (p : Pool) : String := s!"storage pool '{p.name}' on node '{p.node}'"

def knownFree (p : Pool) : UInt64 := p.freeSpace.getD 0

end Pool

namespace Replica

def describe (r : Replica) : String := s!"resource '{r.resource}' on node '{r.node}'"

def addVolume (r : Replica) (pool : PoolName) (size : UInt64) : Replica :=
  { r with volumes := r.volumes ++ [⟨UInt32.ofNat r.volumes.length, pool, size⟩] }

def uses (r : Replica) (pool : PoolName) : Bool := r.volumes.any fun v => v.pool.same pool

end Replica

end ReplicaPlacement
