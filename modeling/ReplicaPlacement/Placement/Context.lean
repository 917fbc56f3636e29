import ReplicaPlacement.Cluster.Snapshot
import ReplicaPlacement.Placement.Error

/-!
# Existing deployments

What the replicas that a resource has already mean for new ones: their nodes are taken, and the
provider kind of their pools is fixed.
-/

namespace ReplicaPlacement

structure PlacementContext where
  /-- Nodes with a replica, diskless ones included, in name order. -/
  deployedNodes : List NodeName := []
  /-- The kind of the pools that hold data of the resource. -/
  provider : Option ProviderKind := none
  deriving DecidableEq

namespace PlacementContext

def fix (resource : ResourceName) (kind : ProviderKind) :
    Option ProviderKind → Except PlacementError (Option ProviderKind)
  | none => .ok (some kind)
  | some fixed =>
    if fixed = kind then .ok (some fixed)
    else .error (.providerConflict resource.text fixed kind)

def addVolume (s : Snapshot) (resource : ResourceName) (r : Replica) (kind : Option ProviderKind)
    (v : Volume) : Except PlacementError (Option ProviderKind) :=
  match s.pool? r.node v.pool with
  | none =>
    .error (.internal
      s!"Volume {v.number} of {r.describe} refers to unknown storage pool '{v.pool}'")
  | some p => if p.provider.isDiskless then .ok kind else fix resource p.provider kind

def addReplica (s : Snapshot) (resource : ResourceName) (kind : Option ProviderKind) (r : Replica) :
    Except PlacementError (Option ProviderKind) :=
  if r.diskless then .ok kind else r.volumes.foldlM (addVolume s resource r) kind

def ofResource (s : Snapshot) (resource : ResourceName) : Except PlacementError PlacementContext :=
  let replicas := s.replicasOf resource
  (replicas.foldlM (addReplica s resource) none).map fun kind => ⟨replicas.map (·.node), kind⟩

end PlacementContext

end ReplicaPlacement
