import ReplicaPlacement.Proofs.Cluster.Lookup

/-!
# Which inventories build

An inventory builds if and only if it is consistent: no object is listed twice, and nothing refers
to what is not listed. The snapshot then lists the same objects, and their order in the inventory
does not matter.
-/

namespace ReplicaPlacement

/-! ## Consistency -/

def Pool.identity (p : Pool) : String ×ₗ String := toLex (p.name.key, p.node.key)

def Replica.identity (r : Replica) : String ×ₗ String := toLex (r.resource.key, r.node.key)

theorem exists_mem_congr {α : Type} {xs ys : List α} {P : α → Prop} (h : xs.Perm ys) :
    (∃ x ∈ xs, P x) ↔ ∃ x ∈ ys, P x := by simp only [h.mem_iff]

namespace Inventory

def HasNode (i : Inventory) (name : NodeName) : Prop := ∃ n ∈ i.nodes, n.name.key = name.key

def HasPool (i : Inventory) (node : NodeName) (name : PoolName) : Prop :=
  ∃ p ∈ i.pools, p.name.key = name.key ∧ p.node.key = node.key

def node? (i : Inventory) (name : NodeName) : Option Node :=
  Ordered.find? Snapshot.nodeKey name.key i.nodes

def kindOf? (i : Inventory) (node : NodeName) (name : PoolName) : Option ProviderKind :=
  (Ordered.find? Pool.identity (toLex (name.key, node.key)) i.pools).map (·.provider)

def replicasOf (i : Inventory) (resource : ResourceName) : List Replica :=
  i.replicas.filter fun r => r.resource.same resource

theorem mem_replicasOf {i : Inventory} {resource : ResourceName} {r : Replica} :
    r ∈ i.replicasOf resource ↔ r ∈ i.replicas ∧ r.resource.key = resource.key := by
  unfold replicasOf
  rw [List.mem_filter, Name.same_iff]

@[mk_iff]
structure Consistent (i : Inventory) : Prop where
  nodes_distinct : i.nodes.Pairwise fun m n => m.name.key ≠ n.name.key
  pools_distinct : i.pools.Pairwise fun p q => p.identity ≠ q.identity
  replicas_distinct : i.replicas.Pairwise fun r q => r.identity ≠ q.identity
  pool_node : ∀ p ∈ i.pools, i.HasNode p.node
  replica_node : ∀ r ∈ i.replicas, i.HasNode r.node
  replica_volumes : ∀ r ∈ i.replicas, ∀ v ∈ r.volumes, i.HasPool r.node v.pool

theorem Consistent.perm {i i' : Inventory} (h : i.Consistent) (hnodes : i.nodes.Perm i'.nodes)
    (hpools : i.pools.Perm i'.pools) (hreplicas : i.replicas.Perm i'.replicas) : i'.Consistent where
  nodes_distinct := h.nodes_distinct.perm hnodes Ne.symm
  pools_distinct := h.pools_distinct.perm hpools Ne.symm
  replicas_distinct := h.replicas_distinct.perm hreplicas Ne.symm
  pool_node p hp := (exists_mem_congr hnodes).1 (h.pool_node p (hpools.mem_iff.2 hp))
  replica_node r hr := (exists_mem_congr hnodes).1 (h.replica_node r (hreplicas.mem_iff.2 hr))
  replica_volumes r hr v hv :=
    (exists_mem_congr hpools).1 (h.replica_volumes r (hreplicas.mem_iff.2 hr) v hv)

/-- Objects may change as long as they keep the identity of what they name. -/
theorem consistent_map_iff {i i' : Inventory} {f : Node → Node} {g : Pool → Pool} {h : Replica → Replica}
    (hnodes : i'.nodes = i.nodes.map f) (hpools : i'.pools = i.pools.map g)
    (hreplicas : i'.replicas = i.replicas.map h) (hf : ∀ n, (f n).name.key = n.name.key)
    (hg : ∀ p, (g p).identity = p.identity) (hh : ∀ r, (h r).identity = r.identity)
    (hvolumes : ∀ r, (h r).volumes.map (·.pool.key) = r.volumes.map (·.pool.key)) :
    i'.Consistent ↔ i.Consistent := by
  have hpool (p : Pool) : (g p).name.key = p.name.key ∧ (g p).node.key = p.node.key := by
    simpa [Pool.identity] using hg p
  have hreplica (r : Replica) : (h r).node.key = r.node.key := congrArg (fun k => (ofLex k).2) (hh r)
  have hnode (key : String) : (∃ n ∈ i'.nodes, n.name.key = key) ↔ ∃ n ∈ i.nodes, n.name.key = key := by
    simp only [hnodes, List.mem_map, exists_exists_and_eq_and, hf]
  have hpoolAt (name node : String) : (∃ p ∈ i'.pools, p.name.key = name ∧ p.node.key = node) ↔
      ∃ p ∈ i.pools, p.name.key = name ∧ p.node.key = node := by
    simp only [hpools, List.mem_map, exists_exists_and_eq_and, hpool]
  have hnodeKeys : (i'.nodes.Pairwise fun m n => m.name.key ≠ n.name.key) ↔
      i.nodes.Pairwise fun m n => m.name.key ≠ n.name.key := by
    simp only [hnodes, List.pairwise_map, hf]
  have hpoolKeys : (i'.pools.Pairwise fun p q => p.identity ≠ q.identity) ↔
      i.pools.Pairwise fun p q => p.identity ≠ q.identity := by
    simp only [hpools, List.pairwise_map, hg]
  have hreplicaKeys : (i'.replicas.Pairwise fun r q => r.identity ≠ q.identity) ↔
      i.replicas.Pairwise fun r q => r.identity ≠ q.identity := by
    simp only [hreplicas, List.pairwise_map, hh]
  have hpoolNodes : (∀ p ∈ i'.pools, i'.HasNode p.node) ↔ ∀ p ∈ i.pools, i.HasNode p.node := by
    simp only [HasNode, hnode, hpools, List.forall_mem_map, hpool]
  have hreplicaNodes : (∀ r ∈ i'.replicas, i'.HasNode r.node) ↔ ∀ r ∈ i.replicas, i.HasNode r.node := by
    simp only [HasNode, hnode, hreplicas, List.forall_mem_map, hreplica]
  have hreplicaVolumes : (∀ r ∈ i'.replicas, ∀ v ∈ r.volumes, i'.HasPool r.node v.pool) ↔
      ∀ r ∈ i.replicas, ∀ v ∈ r.volumes, i.HasPool r.node v.pool := by
    simp only [HasPool, hpoolAt, hreplicas, List.forall_mem_map, hreplica]
    refine forall₂_congr fun r _ => ?_
    have hkeys (P : String → Prop) :
        (∀ v ∈ (h r).volumes, P v.pool.key) ↔ ∀ v ∈ r.volumes, P v.pool.key := by
      rw [← List.forall_mem_map (f := fun v : Volume => v.pool.key), hvolumes, List.forall_mem_map]
    exact hkeys fun key => ∃ p ∈ i.pools, p.name.key = key ∧ p.node.key = r.node.key
  rw [consistent_iff, consistent_iff, hnodeKeys, hpoolKeys, hreplicaKeys, hpoolNodes, hreplicaNodes,
    hreplicaVolumes]

end Inventory

/-! ## Collecting members one at a time -/

/-- A step that takes in a member if it fits and its identity is new. -/
structure Collects {σ α κ ε : Type} (step : σ → α → Except ε σ) (P : σ → Prop) (held : σ → List α)
    (identity : α → κ) (fits : α → Prop) : Prop where
  accepts : ∀ {s x}, P s →
    ((∃ s', step s x = .ok s') ↔ fits x ∧ ∀ y ∈ held s, identity y ≠ identity x)
  adds : ∀ {s s' x}, P s → step s x = .ok s' → P s' ∧ (held s').Perm (x :: held s)

namespace Collects

variable {σ α κ ε : Type} {step : σ → α → Except ε σ} {P : σ → Prop} {held : σ → List α}
  {identity : α → κ} {fits : α → Prop} (h : Collects step P held identity fits)

include h

theorem foldlM_perm {xs : List α} {s s' : σ} (hs : P s) (hrun : xs.foldlM step s = .ok s') :
    P s' ∧ (held s').Perm (xs ++ held s) := by
  induction xs generalizing s with
  | nil =>
    cases hrun
    exact ⟨hs, List.Perm.refl _⟩
  | cons x xs ih =>
    obtain ⟨s₁, h1, h2⟩ := Outcome.foldlM_cons_eq_ok.1 hrun
    obtain ⟨hs₁, hadd⟩ := h.adds hs h1
    obtain ⟨hs', hperm⟩ := ih hs₁ h2
    exact ⟨hs', hperm.trans ((hadd.append_left xs).trans List.perm_middle)⟩

theorem foldlM_isOk_iff {xs : List α} {s : σ} (hs : P s) :
    (∃ s', xs.foldlM step s = .ok s') ↔
      (∀ x ∈ xs, fits x) ∧ xs.Pairwise (fun x y => identity x ≠ identity y) ∧
        ∀ x ∈ xs, ∀ y ∈ held s, identity y ≠ identity x := by
  induction xs generalizing s with
  | nil => simp [pure, Except.pure]
  | cons x xs ih =>
    simp only [Outcome.foldlM_cons_eq_ok, List.forall_mem_cons, List.pairwise_cons]
    constructor
    · rintro ⟨s', s₁, h1, h2⟩
      obtain ⟨hs₁, hadd⟩ := h.adds hs h1
      obtain ⟨hfit, hnew⟩ := (h.accepts hs).1 ⟨s₁, h1⟩
      obtain ⟨hfits, hdistinct, hrest⟩ := (ih hs₁).1 ⟨s', h2⟩
      have hall : ∀ y ∈ xs, ∀ z ∈ x :: held s, identity z ≠ identity y :=
        fun y hy z hz => hrest y hy z (hadd.mem_iff.2 hz)
      exact ⟨⟨hfit, hfits⟩, ⟨fun y hy => hall y hy x List.mem_cons_self, hdistinct⟩, hnew,
        fun y hy z hz => hall y hy z (List.mem_cons_of_mem _ hz)⟩
    · rintro ⟨⟨hfit, hfits⟩, ⟨hx, hdistinct⟩, hnew, hrest⟩
      obtain ⟨s₁, h1⟩ := (h.accepts hs).2 ⟨hfit, hnew⟩
      obtain ⟨hs₁, hadd⟩ := h.adds hs h1
      have hall : ∀ y ∈ xs, ∀ z ∈ held s₁, identity z ≠ identity y := by
        intro y hy z hz
        rcases List.mem_cons.1 (hadd.mem_iff.1 hz) with rfl | hz
        · exact hx y hy
        · exact hrest y hy z hz
      obtain ⟨s', h2⟩ := (ih hs₁).2 ⟨hfits, hdistinct, hall⟩
      exact ⟨s', s₁, h1, h2⟩

end Collects

namespace Snapshot

/-! ## The three kinds of objects -/

theorem collects_nodes : Collects addNode
    (fun s => s.WellFormed ∧ s.definitions = [] ∧ s.deployments = []) (·.nodes) nodeKey
    fun _ => True where
  accepts := by
    intro s n _
    simp only [addNode_eq_ok, exists_and_left, exists_eq, and_true, true_and]
    rw [Bool.eq_false_iff, Ne, hasNode_iff]
    simp [nodeKey]
  adds := by
    rintro s s' n ⟨hs, hdefinitions, hdeployments⟩ hadd
    refine ⟨⟨hs.addNode hadd, ?_⟩, ?_⟩
    · obtain ⟨-, rfl⟩ := addNode_eq_ok.1 hadd
      exact ⟨hdefinitions, hdeployments⟩
    · obtain ⟨hnew, rfl⟩ := addNode_eq_ok.1 hadd
      exact Ordered.insert_perm hnew

theorem collects_pools (nodes : List Node) : Collects addPool
    (fun s => s.WellFormed ∧ s.nodes = nodes ∧ s.deployments = []) (·.toInventory.pools) Pool.identity
    fun p => ∃ n ∈ nodes, n.name.key = p.node.key where
  accepts := by
    rintro s p ⟨hs, rfl, -⟩
    simp only [addPool_eq_ok, exists_and_left, exists_eq, and_true]
    rw [hasNode_iff, Bool.eq_false_iff, Ne, hs.hasPool_iff_mem]
    simp [Pool.identity]
  adds := by
    rintro s s' p ⟨hs, hnodes, hdeployments⟩ hadd
    refine ⟨⟨hs.addPool hadd, ?_⟩, ?_⟩
    · obtain ⟨-, -, rfl⟩ := addPool_eq_ok.1 hadd
      exact ⟨hnodes, hdeployments⟩
    · obtain ⟨-, hnew, rfl⟩ := addPool_eq_ok.1 hadd
      refine Ordered.flatMap_alter_perm rfl fun d hd => ?_
      rw [hasPool, pool?, poolsNamed, hd, Ordered.isSome_find?] at hnew
      exact Ordered.insert_perm hnew

theorem collects_replicas (nodes : List Node) (definitions : List PoolDefinition) : Collects addReplica
    (fun s => s.WellFormed ∧ s.nodes = nodes ∧ s.definitions = definitions) (·.toInventory.replicas)
    Replica.identity
    fun r => (∃ n ∈ nodes, n.name.key = r.node.key) ∧ ∀ v ∈ r.volumes,
      ∃ p ∈ definitions.flatMap (·.pools), p.name.key = v.pool.key ∧ p.node.key = r.node.key where
  accepts := by
    rintro s r ⟨hs, rfl, rfl⟩
    simp only [addReplica_eq_ok, exists_and_left, exists_eq, and_true]
    rw [hasNode_iff, Bool.eq_false_iff, Ne, Ordered.contains_iff, and_assoc]
    refine and_congr_right fun _ => and_congr ?_ ?_
    · exact forall₂_congr fun v _ => hs.hasPool_iff_mem
    · simp only [hs.mem_replicasOf_iff, not_exists, not_and, and_imp, Replica.identity]
      simp [replicaKey]
  adds := by
    rintro s s' r ⟨hs, hnodes, hdefinitions⟩ hadd
    refine ⟨⟨hs.addReplica hadd, ?_⟩, ?_⟩
    · obtain ⟨-, -, -, rfl⟩ := addReplica_eq_ok.1 hadd
      exact ⟨hnodes, hdefinitions⟩
    · obtain ⟨-, -, hnew, rfl⟩ := addReplica_eq_ok.1 hadd
      refine Ordered.flatMap_alter_perm rfl fun d hd => ?_
      rw [replicasOf, hd] at hnew
      exact Ordered.insert_perm hnew

/-! ## The whole inventory -/

variable {i : Inventory} {s : Snapshot} {names : List ResourceName}

structure Lists (s : Snapshot) (i : Inventory) : Prop where
  nodes : s.nodes.Perm i.nodes
  pools : s.toInventory.pools.Perm i.pools
  replicas : s.toInventory.replicas.Perm i.replicas

theorem nodes_perm (h : i.nodes.foldlM addNode { resources := Ordered.ofList Name.key i.resources } =
    .ok s) :
    (s.WellFormed ∧ s.definitions = [] ∧ s.deployments = []) ∧ s.nodes.Perm i.nodes := by
  have hrun := collects_nodes.foldlM_perm ⟨wellFormed_empty i.resources, rfl, rfl⟩ h
  rwa [List.append_nil] at hrun

theorem pools_perm {s₁ : Snapshot} (hs₁ : s₁.WellFormed ∧ s₁.definitions = [] ∧ s₁.deployments = [])
    (h : i.pools.foldlM addPool s₁ = .ok s) :
    (s.WellFormed ∧ s.nodes = s₁.nodes ∧ s.deployments = []) ∧
      s.toInventory.pools.Perm i.pools := by
  obtain ⟨hs₁, hdefinitions, hdeployments⟩ := hs₁
  have hrun := (collects_pools s₁.nodes).foldlM_perm ⟨hs₁, rfl, hdeployments⟩ h
  have hheld : s₁.toInventory.pools = [] := by rw [toInventory, hdefinitions, List.flatMap_nil]
  rwa [hheld, List.append_nil] at hrun

theorem replicas_perm {s₂ : Snapshot} (hs₂ : s₂.WellFormed ∧ s₂.deployments = [])
    (h : i.replicas.foldlM addReplica s₂ = .ok s) :
    (s.WellFormed ∧ s.nodes = s₂.nodes ∧ s.definitions = s₂.definitions) ∧
      s.toInventory.replicas.Perm i.replicas := by
  have hrun := (collects_replicas s₂.nodes s₂.definitions).foldlM_perm ⟨hs₂.1, rfl, rfl⟩ h
  have hheld : s₂.toInventory.replicas = [] := by rw [toInventory, hs₂.2, List.flatMap_nil]
  rwa [hheld, List.append_nil] at hrun

theorem lists_of_ofInventory (h : ofInventory i = .ok s) : s.Lists i := by
  rw [ofInventory_eq] at h
  obtain ⟨s₁, h1, h⟩ := Outcome.bind_eq_ok.1 h
  obtain ⟨s₂, h2, h3⟩ := Outcome.bind_eq_ok.1 h
  obtain ⟨hs₁, hnodes⟩ := nodes_perm h1
  obtain ⟨⟨hs₂, hnodes₂, hdeployments₂⟩, hpools⟩ := pools_perm hs₁ h2
  obtain ⟨⟨-, hnodes₃, hdefinitions₃⟩, hreplicas⟩ := replicas_perm ⟨hs₂, hdeployments₂⟩ h3
  constructor
  case nodes => rwa [hnodes₃, hnodes₂]
  case pools => rwa [toInventory, hdefinitions₃]
  case replicas => exact hreplicas

theorem isOk_addNodes : (∃ s, i.nodes.foldlM addNode
      { resources := Ordered.ofList Name.key i.resources } = .ok s) ↔
    i.nodes.Pairwise fun m n => m.name.key ≠ n.name.key := by
  rw [collects_nodes.foldlM_isOk_iff ⟨wellFormed_empty i.resources, rfl, rfl⟩]
  simp [nodeKey]

theorem isOk_addPools {s₁ : Snapshot}
    (hs₁ : s₁.WellFormed ∧ s₁.definitions = [] ∧ s₁.deployments = [])
    (hnodes : s₁.nodes.Perm i.nodes) : (∃ s, i.pools.foldlM addPool s₁ = .ok s) ↔
      (∀ p ∈ i.pools, i.HasNode p.node) ∧ i.pools.Pairwise fun p q => p.identity ≠ q.identity := by
  obtain ⟨hs₁, hdefinitions, hdeployments⟩ := hs₁
  rw [(collects_pools s₁.nodes).foldlM_isOk_iff ⟨hs₁, rfl, hdeployments⟩]
  refine and_congr (forall₂_congr fun p _ => exists_mem_congr hnodes) ?_
  simp [toInventory, hdefinitions]

theorem isOk_addReplicas {s₂ : Snapshot} (hs₂ : s₂.WellFormed ∧ s₂.deployments = [])
    (hnodes : s₂.nodes.Perm i.nodes) (hpools : s₂.toInventory.pools.Perm i.pools) :
    (∃ s, i.replicas.foldlM addReplica s₂ = .ok s) ↔
      (∀ r ∈ i.replicas, i.HasNode r.node ∧ ∀ v ∈ r.volumes, i.HasPool r.node v.pool) ∧
        i.replicas.Pairwise fun r q => r.identity ≠ q.identity := by
  rw [(collects_replicas s₂.nodes s₂.definitions).foldlM_isOk_iff ⟨hs₂.1, rfl, rfl⟩]
  refine and_congr (forall₂_congr fun r _ => and_congr (exists_mem_congr hnodes) ?_) ?_
  · exact forall₂_congr fun v _ => exists_mem_congr hpools
  · simp [toInventory, hs₂.2]

theorem isOk_ofInventory_iff : (∃ s, ofInventory i = .ok s) ↔ i.Consistent := by
  rw [ofInventory_eq]
  simp only [Outcome.bind_eq_ok]
  constructor
  · rintro ⟨s, s₁, h1, s₂, h2, h3⟩
    obtain ⟨hs₁, hnodes⟩ := nodes_perm h1
    obtain ⟨⟨hs₂, hnodes₂, hdeployments₂⟩, hpools⟩ := pools_perm hs₁ h2
    obtain ⟨hpool, hdistinct⟩ := (isOk_addPools hs₁ hnodes).1 ⟨s₂, h2⟩
    rw [← hnodes₂] at hnodes
    obtain ⟨hreplica, hdistinct'⟩ :=
      (isOk_addReplicas ⟨hs₂, hdeployments₂⟩ hnodes hpools).1 ⟨s, h3⟩
    exact ⟨isOk_addNodes.1 ⟨s₁, h1⟩, hdistinct, hdistinct', hpool, fun r hr => (hreplica r hr).1,
      fun r hr => (hreplica r hr).2⟩
  · intro h
    obtain ⟨s₁, h1⟩ := isOk_addNodes.2 h.nodes_distinct
    obtain ⟨hs₁, hnodes⟩ := nodes_perm h1
    obtain ⟨s₂, h2⟩ := (isOk_addPools hs₁ hnodes).2 ⟨h.pool_node, h.pools_distinct⟩
    obtain ⟨⟨hs₂, hnodes₂, hdeployments₂⟩, hpools⟩ := pools_perm hs₁ h2
    rw [← hnodes₂] at hnodes
    obtain ⟨s, h3⟩ := (isOk_addReplicas ⟨hs₂, hdeployments₂⟩ hnodes hpools).2
      ⟨fun r hr => ⟨h.replica_node r hr, h.replica_volumes r hr⟩, h.replicas_distinct⟩
    exact ⟨s, s₁, h1, s₂, h2, h3⟩

/-! ## Order does not matter -/

theorem WellFormed.pools_ordered (h : s.WellFormed) :
    Ordered.Sorted Pool.identity s.toInventory.pools :=
  Ordered.sorted_flatMap h.definitions_sorted h.pools_sorted h.pool_named

theorem WellFormed.replicas_ordered (h : s.WellFormed) :
    Ordered.Sorted Replica.identity s.toInventory.replicas :=
  Ordered.sorted_flatMap h.deployments_sorted h.replicas_sorted h.replica_of

theorem WellFormed.consistent (h : s.WellFormed) : s.toInventory.Consistent where
  nodes_distinct := h.nodes_sorted.imp fun hlt => hlt.ne
  pools_distinct := h.pools_ordered.imp fun hlt => hlt.ne
  replicas_distinct := h.replicas_ordered.imp fun hlt => hlt.ne
  pool_node := by
    intro p hp
    obtain ⟨d, hd, hp⟩ := mem_pools.1 hp
    exact hasNode_iff.1 (h.pool_node d hd p hp)
  replica_node := by
    intro r hr
    obtain ⟨d, hd, hr⟩ := mem_replicas.1 hr
    exact hasNode_iff.1 (h.replica_node d hd r hr)
  replica_volumes := by
    intro r hr v hv
    obtain ⟨d, hd, hr⟩ := mem_replicas.1 hr
    exact h.hasPool_iff_mem.1 (h.replica_volumes d hd r hr v hv)

theorem resources_ofInventory (h : ofInventory i = .ok s) : s.resources =
    (i.replicas.map (·.resource)).foldl (fun acc n => Ordered.insert Name.key n acc)
      (Ordered.ofList Name.key i.resources) := by
  rw [ofInventory_eq] at h
  obtain ⟨s₁, h1, h⟩ := Outcome.bind_eq_ok.1 h
  obtain ⟨s₂, h2, h3⟩ := Outcome.bind_eq_ok.1 h
  have hnodes : s₁.resources = Ordered.ofList Name.key i.resources := by
    refine Outcome.foldlM_invariant (P := fun s => s.resources = Ordered.ofList Name.key i.resources)
      ?_ rfl h1
    rintro s s' n - hs hadd
    obtain ⟨-, rfl⟩ := addNode_eq_ok.1 hadd
    exact hs
  have hpools : s₂.resources = s₁.resources := by
    refine Outcome.foldlM_invariant (P := fun s => s.resources = s₁.resources) ?_ rfl h2
    rintro s s' p - hs hadd
    obtain ⟨-, -, rfl⟩ := addPool_eq_ok.1 hadd
    exact hs
  rw [List.foldl_map, ← hnodes, ← hpools]
  refine Outcome.foldlM_tracks Snapshot.resources ?_ h3
  rintro s s' r - hadd
  obtain ⟨-, -, -, rfl⟩ := addReplica_eq_ok.1 hadd
  rfl

theorem resources_eq_of_registered (h : ofInventory i = .ok s) (hsorted : Ordered.Sorted Name.key names)
    (hnames : i.resources.Perm names)
    (hregistered : ∀ r ∈ i.replicas, ∃ n ∈ names, n.key = r.resource.key) : s.resources = names := by
  rw [resources_ofInventory h, Ordered.ofList_eq_of_sorted hsorted hnames]
  apply Ordered.foldl_insert_eq_self hsorted
  intro n hn
  obtain ⟨r, hr, rfl⟩ := List.mem_map.1 hn
  exact Ordered.contains_iff.2 (hregistered r hr)

theorem exists_resource_iff (h : ofInventory i = .ok s) {key : String} :
    (∃ n ∈ s.resources, n.key = key) ↔
      (∃ n ∈ i.resources, n.key = key) ∨ ∃ r ∈ i.replicas, r.resource.key = key := by
  rw [resources_ofInventory h, Ordered.exists_mem_foldl_insert_iff, Ordered.exists_mem_ofList_iff]
  simp

/-- The parts of a snapshot build it again, in whatever order they are listed. -/
theorem WellFormed.rebuild (hs : s.WellFormed) (hnodes : i.nodes.Perm s.nodes)
    (hpools : i.pools.Perm s.toInventory.pools) (hreplicas : i.replicas.Perm s.toInventory.replicas)
    (hresources : i.resources.Perm s.resources) :
    ∃ s', ofInventory i = .ok s' ∧ s'.toInventory = s.toInventory := by
  have hconsistent : i.Consistent :=
    hs.consistent.perm hnodes.symm hpools.symm hreplicas.symm
  obtain ⟨s', hs'⟩ := isOk_ofInventory_iff.2 hconsistent
  have hwell := wellFormed_ofInventory hs'
  have hlists := lists_of_ofInventory hs'
  have hn : s'.nodes = s.nodes :=
    hwell.nodes_sorted.eq_of_perm hs.nodes_sorted (hlists.nodes.trans hnodes)
  have hp : s'.toInventory.pools = s.toInventory.pools :=
    hwell.pools_ordered.eq_of_perm hs.pools_ordered (hlists.pools.trans hpools)
  have hr : s'.toInventory.replicas = s.toInventory.replicas :=
    hwell.replicas_ordered.eq_of_perm hs.replicas_ordered (hlists.replicas.trans hreplicas)
  have hnames : s'.resources = s.resources := by
    refine resources_eq_of_registered hs' hs.resources_sorted hresources fun r hr => ?_
    obtain ⟨d, hd, hr⟩ := mem_replicas.1 (hreplicas.mem_iff.1 hr)
    exact Ordered.contains_iff.1 (hs.replica_registered d hd r hr)
  refine ⟨s', hs', ?_⟩
  simp only [toInventory, Inventory.mk.injEq] at hp hr ⊢
  exact ⟨hn, hp, hr, hnames⟩

/-! ## Questions to the inventory -/

theorem node?_of_ofInventory (h : ofInventory i = .ok s) (name : NodeName) :
    s.node? name = i.node? name :=
  Ordered.find?_perm (wellFormed_ofInventory h).nodes_sorted (lists_of_ofInventory h).nodes name.key

theorem kind_of_ofInventory (h : ofInventory i = .ok s) (node : NodeName) (name : PoolName) :
    (s.pool? node name).map (·.provider) = i.kindOf? node name := by
  have hwell := wellFormed_ofInventory h
  have hpool : s.pool? node name =
      Ordered.find? Pool.identity (toLex (name.key, node.key)) s.toInventory.pools := by
    ext p
    rw [hwell.pool?_eq_some_iff, Ordered.find?_eq_some_iff hwell.pools_ordered]
    simp [Pool.identity]
  rw [hpool, Ordered.find?_perm hwell.pools_ordered (lists_of_ofInventory h).pools]
  rfl

theorem replicasOf_perm (h : ofInventory i = .ok s) (resource : ResourceName) :
    (s.replicasOf resource).Perm (i.replicasOf resource) := by
  have hwell := wellFormed_ofInventory h
  have hlists := lists_of_ofInventory h
  have hnodup : (i.replicasOf resource).Nodup :=
    (hlists.replicas.nodup_iff.1 hwell.replicas_ordered.nodup).filter _
  refine (List.perm_ext_iff_of_nodup (hwell.replicasOf_sorted resource).nodup hnodup).2 fun r => ?_
  rw [hwell.mem_replicasOf_iff, hlists.replicas.mem_iff, Inventory.mem_replicasOf]

/-! ## Snapshots as they occur -/

/-- The snapshot was built, from nodes whose properties are maps in key order. -/
def Built (s : Snapshot) : Prop :=
  ∃ i : Inventory, (∀ n ∈ i.nodes, Ordered.Sorted Prod.fst n.props) ∧ ofInventory i = .ok s

theorem Built.wellFormed (h : s.Built) : s.WellFormed := by
  obtain ⟨i, -, hi⟩ := h
  exact wellFormed_ofInventory hi

theorem Built.props_sorted (h : s.Built) : ∀ n ∈ s.nodes, Ordered.Sorted Prod.fst n.props := by
  obtain ⟨i, hprops, hi⟩ := h
  exact fun n hn => hprops n ((lists_of_ofInventory hi).nodes.mem_iff.1 hn)

end Snapshot

end ReplicaPlacement
