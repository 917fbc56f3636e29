import ReplicaPlacement.Proofs.Cluster.WellFormed

/-!
# Finding what is listed

In a well-formed snapshot, looking an object up by its names leads to the object itself, and the
questions about nodes and resources answer for exactly the replicas that the snapshot lists.
-/

namespace ReplicaPlacement.Snapshot

variable {s : Snapshot}

theorem mem_pools {p : Pool} : p ∈ s.toInventory.pools ↔ ∃ d ∈ s.definitions, p ∈ d.pools :=
  List.mem_flatMap

theorem mem_replicas {r : Replica} :
    r ∈ s.toInventory.replicas ↔ ∃ d ∈ s.deployments, r ∈ d.replicas :=
  List.mem_flatMap

namespace WellFormed

variable (h : s.WellFormed)

include h

/-! ## Pools -/

theorem poolsNamed_sorted (name : PoolName) : Ordered.Sorted poolKey (s.poolsNamed name) :=
  Ordered.getD_find?_induction (Ordered.sorted_nil _) h.pools_sorted

theorem mem_poolsNamed_iff {name : PoolName} {p : Pool} :
    p ∈ s.poolsNamed name ↔ p ∈ s.toInventory.pools ∧ p.name.key = name.key := by
  rw [mem_poolsNamed h.definitions_sorted, mem_pools]
  constructor
  · rintro ⟨d, hd, hk, hp⟩
    exact ⟨⟨d, hd, hp⟩, (h.pool_named d hd p hp).trans hk⟩
  · rintro ⟨⟨d, hd, hp⟩, hk⟩
    exact ⟨d, hd, (h.pool_named d hd p hp).symm.trans hk, hp⟩

theorem pool?_eq_some_iff {node : NodeName} {name : PoolName} {p : Pool} :
    s.pool? node name = some p ↔
      p ∈ s.toInventory.pools ∧ p.name.key = name.key ∧ p.node.key = node.key := by
  rw [pool?, Ordered.find?_eq_some_iff (h.poolsNamed_sorted name), h.mem_poolsNamed_iff, and_assoc]
  exact Iff.rfl

theorem pool?_eq_some {p : Pool} (hp : p ∈ s.toInventory.pools) : s.pool? p.node p.name = some p :=
  h.pool?_eq_some_iff.2 ⟨hp, rfl, rfl⟩

theorem hasPool_iff_mem {node : NodeName} {name : PoolName} :
    s.hasPool node name = true ↔
      ∃ p ∈ s.toInventory.pools, p.name.key = name.key ∧ p.node.key = node.key := by
  rw [hasPool, Option.isSome_iff_exists]
  exact exists_congr fun p => h.pool?_eq_some_iff

/-! ## Replicas -/

theorem replicasOf_sorted (name : ResourceName) : Ordered.Sorted replicaKey (s.replicasOf name) :=
  Ordered.getD_find?_induction (Ordered.sorted_nil _) h.replicas_sorted

theorem mem_replicasOf_iff {name : ResourceName} {r : Replica} :
    r ∈ s.replicasOf name ↔ r ∈ s.toInventory.replicas ∧ r.resource.key = name.key := by
  rw [mem_replicasOf h.deployments_sorted, mem_replicas]
  constructor
  · rintro ⟨d, hd, hk, hr⟩
    exact ⟨⟨d, hd, hr⟩, (h.replica_of d hd r hr).trans hk⟩
  · rintro ⟨⟨d, hd, hr⟩, hk⟩
    exact ⟨d, hd, (h.replica_of d hd r hr).symm.trans hk, hr⟩

theorem replicasOn_sorted (node : NodeName) :
    Ordered.Sorted (fun r => r.resource.key) (s.replicasOn node) := by
  refine List.pairwise_filterMap.2 (h.deployments_sorted.imp_of_mem ?_)
  intro d d' hd hd' hlt r hr r' hr'
  have hr : r.resource.key = deploymentKey d := h.replica_of d hd r (Ordered.find?_eq_some hr).1
  have hr' : r'.resource.key = deploymentKey d' := h.replica_of d' hd' r' (Ordered.find?_eq_some hr').1
  rwa [← hr, ← hr'] at hlt

theorem mem_replicasOn_iff {node : NodeName} {r : Replica} :
    r ∈ s.replicasOn node ↔ r ∈ s.toInventory.replicas ∧ r.node.key = node.key := by
  rw [replicasOn, List.mem_filterMap, mem_replicas]
  constructor
  · rintro ⟨d, hd, hr⟩
    obtain ⟨hr, hnode⟩ := Ordered.find?_eq_some hr
    exact ⟨⟨d, hd, hr⟩, hnode⟩
  · rintro ⟨⟨d, hd, hr⟩, hnode⟩
    exact ⟨d, hd, (Ordered.find?_eq_some_iff (h.replicas_sorted d hd)).2 ⟨hr, hnode⟩⟩

theorem mem_resourcesIn {r : Replica} (hr : r ∈ s.toInventory.replicas) {node : NodeName}
    {pool : PoolName} (hnode : r.node.key = node.key) (huses : r.uses pool = true) :
    r.resource ∈ s.resourcesIn node pool :=
  List.mem_map_of_mem (List.mem_filter.2 ⟨h.mem_replicasOn_iff.2 ⟨hr, hnode⟩, huses⟩)

end WellFormed

end ReplicaPlacement.Snapshot
