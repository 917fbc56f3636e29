import ReplicaPlacement.Candidate.Basic
import ReplicaPlacement.Cluster.Inventory

/-!
# Placements

The pools chosen for the replicas of a resource, with what a caller wants to know about the choice
as a whole.
-/

namespace ReplicaPlacement

variable {σ : Type}

structure Placement (σ : Type) where
  resource : ResourceName
  /-- In descending order of scores. -/
  pools : List (Candidate σ)
  totalScore : σ
  allThin : Bool
  minFreeSpace : UInt64

namespace Candidate

def knownFree (c : Candidate σ) : UInt64 := c.freeSpace.getD 0

def fieldNames : List String :=
  ["node", "storage_pool", "provider_kind", "score", "free_space_kib"]

instance [ToValue σ] : ToValue (Candidate σ) where
  toValue c := .record [
    ("node", toValue c.node),
    ("storage_pool", toValue c.pool),
    ("provider_kind", toValue c.provider),
    ("score", toValue c.score),
    ("free_space_kib", toValue c.freeSpace)]

instance [FromDocument σ] : FromDocument (Candidate σ) where
  read? v := do
    let fs ← Fields.of? fieldNames v
    let node ← fs.required "node"
    let pool ← fs.required "storage_pool"
    let provider ← fs.required "provider_kind"
    let score ← fs.required "score"
    let freeSpace ← fs.nullable "free_space_kib"
    pure { node, pool, provider, score, freeSpace }

end Candidate

namespace Placement

def least : List UInt64 → UInt64
  | [] => 0
  | n :: ns => ns.foldl min n

def ofSelection [Score σ] (resource : ResourceName) (selection : List (Candidate σ)) :
    Placement σ where
  resource := resource
  pools := selection
  totalScore := Score.sum (selection.map (·.score))
  allThin := selection.all fun c => c.provider.isThin
  minFreeSpace := least (selection.map Candidate.knownFree)

def nodes (p : Placement σ) : List NodeName := p.pools.map (·.node)

def describePools (p : Placement σ) : String :=
  ", ".intercalate (p.pools.map fun c => s!"{c.pool}@{c.node}")

def fieldNames : List String :=
  ["resource", "pools", "total_score", "all_thin", "min_free_space_kib"]

instance [ToValue σ] : ToValue (Placement σ) where
  toValue p := .record [
    ("resource", toValue p.resource),
    ("pools", toValue p.pools),
    ("total_score", toValue p.totalScore),
    ("all_thin", toValue p.allThin),
    ("min_free_space_kib", toValue p.minFreeSpace)]

instance [FromDocument σ] : FromDocument (Placement σ) where
  read? v := do
    let fs ← Fields.of? fieldNames v
    let resource ← fs.required "resource"
    let pools ← fs.required "pools"
    let totalScore ← fs.required "total_score"
    let allThin ← fs.required "all_thin"
    let minFreeSpace ← fs.required "min_free_space_kib"
    pure { resource, pools, totalScore, allThin, minFreeSpace }

end Placement

end ReplicaPlacement
