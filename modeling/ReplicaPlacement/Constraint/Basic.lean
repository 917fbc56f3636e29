import ReplicaPlacement.Constraint.PropertyFilter
import ReplicaPlacement.Cluster.Inventory

/-!
# Placement constraints
-/

namespace ReplicaPlacement

structure ConstraintSet where
  replicaCount : UInt64 := 2
  forcedPool : Option PoolName := none
  /-- Do not place next to these resources. -/
  notPlaceWith : List ResourceName := []
  /-- Nor next to registered resources whose name matches this pattern. -/
  notPlaceWithPattern : Option String := none
  replicasOnSame : List PropertyFilter := []
  replicasOnDifferent : List PropertyFilter := []
  /-- Ignore the replicas that the resource has already. -/
  skipAlreadyPlaced : Bool := false
  /-- Free space that a pool needs, in KiB. -/
  size : UInt64 := 0
  deriving DecidableEq

namespace ConstraintSet

def filters (c : ConstraintSet) : List PropertyFilter := c.replicasOnSame ++ c.replicasOnDifferent

def fieldNames : List String :=
  ["replica_count", "forced_storage_pool", "not_place_with", "not_place_with_regex",
    "replicas_on_same", "replicas_on_different", "skip_already_placed", "size_kib"]

instance : ToValue ConstraintSet where
  toValue c := .record [
    ("replica_count", toValue c.replicaCount),
    ("forced_storage_pool", toValue c.forcedPool),
    ("not_place_with", toValue c.notPlaceWith),
    ("not_place_with_regex", toValue c.notPlaceWithPattern),
    ("replicas_on_same", toValue c.replicasOnSame),
    ("replicas_on_different", toValue c.replicasOnDifferent),
    ("skip_already_placed", toValue c.skipAlreadyPlaced),
    ("size_kib", toValue c.size)]

instance : FromDocument ConstraintSet where
  read? v := do
    let fs ← Fields.of? fieldNames v
    let replicaCount ← fs.defaulted "replica_count" 2
    let forcedPool ← fs.defaulted "forced_storage_pool" none
    let notPlaceWith ← fs.defaulted "not_place_with" []
    let notPlaceWithPattern ← fs.defaulted "not_place_with_regex" none
    let replicasOnSame ← fs.defaulted "replicas_on_same" []
    let replicasOnDifferent ← fs.defaulted "replicas_on_different" []
    let skipAlreadyPlaced ← fs.defaulted "skip_already_placed" false
    let size ← fs.defaulted "size_kib" 0
    pure { replicaCount, forcedPool, notPlaceWith, notPlaceWithPattern, replicasOnSame,
           replicasOnDifferent, skipAlreadyPlaced, size }

end ConstraintSet

end ReplicaPlacement
