import ReplicaPlacement.Proofs.Cluster.Faults

/-!
# What is found in a snapshot

Every question to a snapshot is answered from what the inventory lists, whatever the order there and
the letter case of the names: an object is found under its names and no others, and nothing twice.
-/

namespace ReplicaPlacement.Snapshot

variable {i : Inventory} {s : Snapshot}

/-- Every question is answered exactly from what is listed. -/
structure Indexes (s : Snapshot) (i : Inventory) : Prop where
  lists : s.Lists i
  nodes_sorted : Ordered.Sorted nodeKey s.nodes
  node?_eq_some_iff : ∀ name n, s.node? name = some n ↔ n ∈ i.nodes ∧ n.name.key = name.key
  pool?_eq_some_iff : ∀ node name p, s.pool? node name = some p ↔
    p ∈ i.pools ∧ p.name.key = name.key ∧ p.node.key = node.key
  poolsNamed_perm : ∀ name, (s.poolsNamed name).Perm (i.pools.filter fun p => p.name.same name)
  poolsNamed_sorted : ∀ name, Ordered.Sorted (·.node.key) (s.poolsNamed name)
  exists_poolName_iff : ∀ key, (∃ n ∈ s.poolNames, n.key = key) ↔ ∃ p ∈ i.pools, p.name.key = key
  poolNames_sorted : Ordered.Sorted Name.key s.poolNames
  replicasOf_perm : ∀ name, (s.replicasOf name).Perm (i.replicas.filter fun r => r.resource.same name)
  replicasOf_sorted : ∀ name, Ordered.Sorted (·.node.key) (s.replicasOf name)
  mem_resourcesOn_iff : ∀ node name, name ∈ s.resourcesOn node ↔
    ∃ r ∈ i.replicas, r.node.key = node.key ∧ r.resource = name
  resourcesOn_sorted : ∀ node, Ordered.Sorted Name.key (s.resourcesOn node)
  mem_resourcesIn_iff : ∀ node pool name, name ∈ s.resourcesIn node pool ↔
    ∃ r ∈ i.replicas, r.node.key = node.key ∧ (∃ v ∈ r.volumes, v.pool.key = pool.key) ∧ r.resource = name
  resourcesIn_sorted : ∀ node pool, Ordered.Sorted Name.key (s.resourcesIn node pool)
  hasResource_iff : ∀ name, s.hasResource name = true ↔
    (∃ n ∈ i.resources, n.key = name.key) ∨ ∃ r ∈ i.replicas, r.resource.key = name.key
  mem_resources : ∀ n ∈ s.resources, n ∈ i.resources ∨ ∃ r ∈ i.replicas, r.resource = n
  resources_sorted : Ordered.Sorted Name.key s.resources

theorem uses_iff {r : Replica} {pool : PoolName} :
    r.uses pool = true ↔ ∃ v ∈ r.volumes, v.pool.key = pool.key := by
  simp [Replica.uses, Name.same_iff]

theorem mem_resources_of_ofInventory (h : ofInventory i = .ok s) {n : ResourceName}
    (hn : n ∈ s.resources) : n ∈ i.resources ∨ ∃ r ∈ i.replicas, r.resource = n := by
  rw [resources_ofInventory h] at hn
  rcases Ordered.mem_foldl_insert hn with hn | hn
  · exact .inr (List.mem_map.1 hn)
  · exact .inl (Ordered.mem_of_mem_ofList hn)

theorem indexes_of_ofInventory (h : ofInventory i = .ok s) : s.Indexes i := by
  have hs := wellFormed_ofInventory h
  have hlists := lists_of_ofInventory h
  constructor
  case lists => exact hlists
  case nodes_sorted => exact hs.nodes_sorted
  case node?_eq_some_iff =>
    intro name n
    rw [node?, Ordered.find?_eq_some_iff hs.nodes_sorted, hlists.nodes.mem_iff, nodeKey]
  case pool?_eq_some_iff =>
    intro node name p
    rw [hs.pool?_eq_some_iff, hlists.pools.mem_iff]
  case poolsNamed_perm =>
    intro name
    have hperm : (s.poolsNamed name).Perm (s.toInventory.pools.filter fun p => p.name.same name) := by
      refine (List.perm_ext_iff_of_nodup (hs.poolsNamed_sorted name).nodup
        (hs.pools_ordered.nodup.filter _)).2 fun p => ?_
      rw [hs.mem_poolsNamed_iff, List.mem_filter, Name.same_iff]
    exact hperm.trans (hlists.pools.filter _)
  case poolsNamed_sorted => exact hs.poolsNamed_sorted
  case exists_poolName_iff =>
    intro key
    -- No definition is empty, so its name is that of a pool.
    have hne := (groups_ne_nil h).1
    simp only [← hlists.pools.mem_iff, mem_pools, poolNames, List.mem_map]
    constructor
    · rintro ⟨n, ⟨d, hd, rfl⟩, hk⟩
      obtain ⟨p, hp⟩ := List.exists_mem_of_ne_nil _ (hne d hd)
      exact ⟨p, ⟨d, hd, hp⟩, (hs.pool_named d hd p hp).trans hk⟩
    · rintro ⟨p, ⟨d, hd, hp⟩, hk⟩
      exact ⟨d.name, ⟨d, hd, rfl⟩, (hs.pool_named d hd p hp).symm.trans hk⟩
  case poolNames_sorted => exact List.pairwise_map.2 hs.definitions_sorted
  case replicasOf_perm => exact replicasOf_perm h
  case replicasOf_sorted => exact hs.replicasOf_sorted
  case mem_resourcesOn_iff =>
    intro node name
    simp only [resourcesOn, List.mem_map, hs.mem_replicasOn_iff, hlists.replicas.mem_iff, and_assoc]
  case resourcesOn_sorted => exact fun node => List.pairwise_map.2 (hs.replicasOn_sorted node)
  case mem_resourcesIn_iff =>
    intro node pool name
    simp only [resourcesIn, List.mem_map, List.mem_filter, hs.mem_replicasOn_iff,
      hlists.replicas.mem_iff, uses_iff, and_assoc]
  case resourcesIn_sorted =>
    exact fun node pool => List.pairwise_map.2 ((hs.replicasOn_sorted node).filter _)
  case hasResource_iff =>
    intro name
    rw [hasResource, Ordered.contains_iff, exists_resource_iff h]
  case mem_resources => exact fun n => mem_resources_of_ofInventory h
  case resources_sorted => exact hs.resources_sorted

/-- An inventory builds if and only if it is consistent, it is refused for its first fault, and what
is built answers from what is listed. -/
theorem ofInventory_faithful (i : Inventory) :
    ((∃ s, ofInventory i = .ok s) ↔ i.Consistent) ∧
      (∀ e, ofInventory i = .error e ↔ i.faults.head? = some e) ∧
      ∀ s, ofInventory i = .ok s → s.Indexes i :=
  ⟨isOk_ofInventory_iff, fun _ => (settles_ofInventory i).eq_error_iff,
    fun _ => indexes_of_ofInventory⟩

/-! ## A volume in a pool that is not there -/

/-- The second replica repeats the first, but the pool of its volume is looked up before. -/
def danglingInventory : Inventory :=
  { pairInventory with
    replicas := [
      { resource := ⟨"database", by decide⟩, node := beta
        volumes := [⟨0, ssd, 5⟩] },
      { resource := ⟨"Database", by decide⟩, node := beta
        volumes := [⟨0, ssd, 5⟩, ⟨1, ⟨"hdd", by decide⟩, 5⟩] }] }

theorem ofInventory_hall_faithful :
    hallInventory.Consistent ∧ hall.Indexes hallInventory ∧
      ofInventory danglingInventory = .error (.poolNotFound "beta" "hdd") :=
  ⟨(ofInventory_faithful hallInventory).1.1 ⟨hall, ofInventory_hall⟩,
    (ofInventory_faithful hallInventory).2.2 hall ofInventory_hall,
    ((ofInventory_faithful danglingInventory).2.1 _).2 (by decide +kernel)⟩

end ReplicaPlacement.Snapshot
