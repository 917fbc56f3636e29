import ReplicaPlacement.Proofs.Cluster.Build
import ReplicaPlacement.Proofs.Name

/-!
# The same cluster in another spelling

An inventory that lists its objects in another order, and spells names in other letter cases, builds
if and only if the first one does. Up to the spelling of names it builds the same snapshot.
-/

namespace ReplicaPlacement

def Node.canonical (n : Node) : Node := { n with name := n.name.canonical }

def Pool.canonical (p : Pool) : Pool :=
  { p with name := p.name.canonical, node := p.node.canonical }

def Volume.canonical (v : Volume) : Volume := { v with pool := v.pool.canonical }

def Replica.canonical (r : Replica) : Replica :=
  { r with
    resource := r.resource.canonical
    node := r.node.canonical
    volumes := r.volumes.map Volume.canonical }

def PoolDefinition.canonical (d : PoolDefinition) : PoolDefinition where
  name := d.name.canonical
  pools := d.pools.map Pool.canonical

def Deployment.canonical (d : Deployment) : Deployment where
  resource := d.resource.canonical
  replicas := d.replicas.map Replica.canonical

def Inventory.canonical (i : Inventory) : Inventory where
  nodes := i.nodes.map Node.canonical
  pools := i.pools.map Pool.canonical
  replicas := i.replicas.map Replica.canonical
  resources := i.resources.map Name.canonical

def Snapshot.canonical (s : Snapshot) : Snapshot where
  nodes := s.nodes.map Node.canonical
  definitions := s.definitions.map PoolDefinition.canonical
  deployments := s.deployments.map Deployment.canonical
  resources := s.resources.map Name.canonical

/-- The same objects in any order, with their names in any letter case. -/
structure Inventory.Respelled (i i' : Inventory) : Prop where
  nodes : i.canonical.nodes.Perm i'.canonical.nodes
  pools : i.canonical.pools.Perm i'.canonical.pools
  replicas : i.canonical.replicas.Perm i'.canonical.replicas
  resources : i.canonical.resources.Perm i'.canonical.resources

theorem Pool.identity_canonical (p : Pool) : p.canonical.identity = p.identity := by
  simp [identity, canonical]

theorem Replica.identity_canonical (r : Replica) : r.canonical.identity = r.identity := by
  simp [identity, canonical]

theorem Replica.uses_canonical (r : Replica) (pool : PoolName) :
    r.canonical.uses pool.canonical = r.uses pool := by
  simp [uses, canonical, Volume.canonical, Function.comp_def]

/-! ## Consistency -/

namespace Inventory

variable {i i' : Inventory}

theorem consistent_canonical_iff : i.canonical.Consistent ↔ i.Consistent := by
  refine consistent_map_iff rfl rfl rfl (fun n => n.name.key_canonical) Pool.identity_canonical
    Replica.identity_canonical fun r => ?_
  simp [Replica.canonical, Volume.canonical]

theorem Respelled.consistent_iff (h : i.Respelled i') : i.Consistent ↔ i'.Consistent := by
  rw [← consistent_canonical_iff, ← consistent_canonical_iff (i := i')]
  exact ⟨fun hi => hi.perm h.nodes h.pools h.replicas,
    fun hi => hi.perm h.nodes.symm h.pools.symm h.replicas.symm⟩

def Registers (i : Inventory) (key : String) : Prop :=
  (∃ n ∈ i.resources, n.key = key) ∨ ∃ r ∈ i.replicas, r.resource.key = key

theorem registers_canonical {key : String} : i.canonical.Registers key ↔ i.Registers key := by
  simp [Registers, canonical, Replica.canonical]

theorem Respelled.registers_iff (h : i.Respelled i') {key : String} :
    i.Registers key ↔ i'.Registers key := by
  rw [← registers_canonical, ← registers_canonical (i := i')]
  exact or_congr (exists_mem_congr h.resources) (exists_mem_congr h.replicas)

end Inventory

/-! ## Snapshots -/

namespace Snapshot

variable {i i' : Inventory} {s s' : Snapshot}

theorem nodeKey_canonical (n : Node) : nodeKey n.canonical = nodeKey n := n.name.key_canonical

theorem poolKey_canonical (p : Pool) : poolKey p.canonical = poolKey p := p.node.key_canonical

theorem replicaKey_canonical (r : Replica) : replicaKey r.canonical = replicaKey r :=
  r.node.key_canonical

theorem definitionKey_canonical (d : PoolDefinition) : definitionKey d.canonical = definitionKey d :=
  d.name.key_canonical

theorem deploymentKey_canonical (d : Deployment) : deploymentKey d.canonical = deploymentKey d :=
  d.resource.key_canonical

theorem grouped_definitions (h : ofInventory i = .ok s) :
    Ordered.Grouped definitionKey PoolDefinition.pools (·.name.key) poolKey s.canonical.definitions := by
  have hs := wellFormed_ofInventory h
  refine ⟨hs.definitions_sorted.map definitionKey_canonical, ?_, ?_, ?_⟩
  · exact List.forall_mem_map.2 fun d hd => (hs.pools_sorted d hd).map poolKey_canonical
  · refine List.forall_mem_map.2 fun d hd => List.forall_mem_map.2 fun p hp => ?_
    rw [definitionKey_canonical]
    exact p.name.key_canonical.trans (hs.pool_named d hd p hp)
  · exact List.forall_mem_map.2 fun d hd => List.map_eq_nil_iff.not.2 ((groups_ne_nil h).1 d hd)

theorem grouped_deployments (h : ofInventory i = .ok s) :
    Ordered.Grouped deploymentKey Deployment.replicas (·.resource.key) replicaKey
      s.canonical.deployments := by
  have hs := wellFormed_ofInventory h
  refine ⟨hs.deployments_sorted.map deploymentKey_canonical, ?_, ?_, ?_⟩
  · exact List.forall_mem_map.2 fun d hd => (hs.replicas_sorted d hd).map replicaKey_canonical
  · refine List.forall_mem_map.2 fun d hd => List.forall_mem_map.2 fun r hr => ?_
    rw [deploymentKey_canonical]
    exact r.resource.key_canonical.trans (hs.replica_of d hd r hr)
  · exact List.forall_mem_map.2 fun d hd => List.map_eq_nil_iff.not.2 ((groups_ne_nil h).2 d hd)

theorem lists_canonical (h : ofInventory i = .ok s) : s.canonical.Lists i.canonical := by
  have hlists := lists_of_ofInventory h
  refine ⟨hlists.nodes.map _, ?_, ?_⟩
  · have hpools : s.canonical.toInventory.pools = s.toInventory.pools.map Pool.canonical := by
      simp [toInventory, canonical, List.flatMap_map, List.map_flatMap, PoolDefinition.canonical]
    exact hpools ▸ hlists.pools.map _
  · have hreplicas : s.canonical.toInventory.replicas = s.toInventory.replicas.map Replica.canonical := by
      simp [toInventory, canonical, List.flatMap_map, List.map_flatMap, Deployment.canonical]
    exact hreplicas ▸ hlists.replicas.map _

theorem mem_canonical_resources (h : ofInventory i = .ok s) {n : ResourceName} :
    n ∈ s.canonical.resources ↔ n.canonical = n ∧ i.Registers n.key := by
  rw [Inventory.Registers, ← exists_resource_iff h]
  constructor
  · intro hn
    obtain ⟨m, hm, rfl⟩ := List.mem_map.1 hn
    exact ⟨Name.canonical_eq_iff.2 m.key_canonical, m, hm, m.key_canonical.symm⟩
  · rintro ⟨hn, m, hm, hk⟩
    exact List.mem_map.2 ⟨m, hm, (Name.canonical_eq_iff.2 hk).trans hn⟩

/-- Up to the spelling of names a snapshot does not depend on order and spelling in the inventory. -/
theorem canonical_eq_of_respelled (h : i.Respelled i') (hs : ofInventory i = .ok s)
    (hs' : ofInventory i' = .ok s') : s.canonical = s'.canonical := by
  have hwell := wellFormed_ofInventory hs
  have hwell' := wellFormed_ofInventory hs'
  have hlists := lists_canonical hs
  have hlists' := lists_canonical hs'
  have hnodes : s.canonical.nodes = s'.canonical.nodes :=
    (hwell.nodes_sorted.map nodeKey_canonical).eq_of_perm (hwell'.nodes_sorted.map nodeKey_canonical)
      (hlists.nodes.trans (h.nodes.trans hlists'.nodes.symm))
  -- A group is spelled like the member that was listed first, which no longer shows in upper case.
  have hdefinitions : s.canonical.definitions = s'.canonical.definitions := by
    refine (grouped_definitions hs).eq_of_perm (grouped_definitions hs')
      (hlists.pools.trans (h.pools.trans hlists'.pools.symm)) ?_
    refine List.forall_mem_map.2 fun d _ => List.forall_mem_map.2 fun d' _ hkey hpools => ?_
    rw [definitionKey_canonical, definitionKey_canonical] at hkey
    rw [PoolDefinition.canonical, PoolDefinition.canonical, PoolDefinition.mk.injEq]
    exact ⟨Name.canonical_eq_iff.2 hkey, hpools⟩
  have hdeployments : s.canonical.deployments = s'.canonical.deployments := by
    refine (grouped_deployments hs).eq_of_perm (grouped_deployments hs')
      (hlists.replicas.trans (h.replicas.trans hlists'.replicas.symm)) ?_
    refine List.forall_mem_map.2 fun d _ => List.forall_mem_map.2 fun d' _ hkey hreplicas => ?_
    rw [deploymentKey_canonical, deploymentKey_canonical] at hkey
    rw [Deployment.canonical, Deployment.canonical, Deployment.mk.injEq]
    exact ⟨Name.canonical_eq_iff.2 hkey, hreplicas⟩
  have hresources : s.canonical.resources = s'.canonical.resources := by
    refine (hwell.resources_sorted.map Name.key_canonical).eq_of_mem_iff
      (hwell'.resources_sorted.map Name.key_canonical) fun n => ?_
    refine (mem_canonical_resources hs).trans (Iff.trans ?_ (mem_canonical_resources hs').symm)
    exact and_congr_right fun _ => h.registers_iff
  rw [canonical, canonical, Snapshot.mk.injEq]
  exact ⟨hnodes, hdefinitions, hdeployments, hresources⟩

/-! ## Questions -/

variable (s)

theorem node?_canonical (name : NodeName) :
    s.canonical.node? name.canonical = (s.node? name).map Node.canonical := by
  rw [node?, Name.key_canonical]
  exact Ordered.find?_map nodeKey_canonical _ _

theorem poolsNamed_canonical (name : PoolName) :
    s.canonical.poolsNamed name.canonical = (s.poolsNamed name).map Pool.canonical := by
  rw [poolsNamed, Name.key_canonical]
  exact Ordered.getD_find?_map definitionKey_canonical (fun _ => rfl) _ _

theorem pool?_canonical (node : NodeName) (name : PoolName) :
    s.canonical.pool? node.canonical name.canonical = (s.pool? node name).map Pool.canonical := by
  rw [pool?, pool?, poolsNamed_canonical, Name.key_canonical, Ordered.find?_map poolKey_canonical]

theorem replicasOf_canonical (name : ResourceName) :
    s.canonical.replicasOf name.canonical = (s.replicasOf name).map Replica.canonical := by
  rw [replicasOf, Name.key_canonical]
  exact Ordered.getD_find?_map deploymentKey_canonical (fun _ => rfl) _ _

theorem replicasOn_canonical (name : NodeName) :
    s.canonical.replicasOn name.canonical = (s.replicasOn name).map Replica.canonical := by
  have hfind (d : Deployment) : Ordered.find? replicaKey name.key d.canonical.replicas =
      (Ordered.find? replicaKey name.key d.replicas).map Replica.canonical :=
    Ordered.find?_map replicaKey_canonical _ _
  unfold replicasOn canonical
  rw [List.filterMap_map, List.map_filterMap, Name.key_canonical]
  exact List.filterMap_congr fun d _ => hfind d

theorem resourcesOn_canonical (name : NodeName) :
    s.canonical.resourcesOn name.canonical = (s.resourcesOn name).map Name.canonical := by
  rw [resourcesOn, resourcesOn, replicasOn_canonical, List.map_map, List.map_map]
  rfl

theorem resourcesIn_canonical (node : NodeName) (pool : PoolName) :
    s.canonical.resourcesIn node.canonical pool.canonical = (s.resourcesIn node pool).map Name.canonical := by
  have huses : (fun r : Replica => r.uses pool.canonical) ∘ Replica.canonical = fun r => r.uses pool :=
    funext fun r => r.uses_canonical pool
  rw [resourcesIn, resourcesIn, replicasOn_canonical, List.filter_map, huses, List.map_map, List.map_map]
  rfl

end Snapshot

end ReplicaPlacement
