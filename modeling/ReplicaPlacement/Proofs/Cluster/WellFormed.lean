import ReplicaPlacement.Cluster.Snapshot
import ReplicaPlacement.Proofs.Ordered
import ReplicaPlacement.Proofs.Outcome

/-!
# What every snapshot satisfies

A snapshot that was built from an inventory is sorted on every level, groups what belongs together,
and refers to nothing that is not in it. Each object that is added keeps this.
-/

namespace ReplicaPlacement.Snapshot

/-- The index is in order, and nothing in it refers to what is not there. -/
structure WellFormed (s : Snapshot) : Prop where
  nodes_sorted : Ordered.Sorted nodeKey s.nodes
  definitions_sorted : Ordered.Sorted definitionKey s.definitions
  pools_sorted : ∀ d ∈ s.definitions, Ordered.Sorted poolKey d.pools
  pool_named : ∀ d ∈ s.definitions, ∀ p ∈ d.pools, p.name.key = d.name.key
  pool_node : ∀ d ∈ s.definitions, ∀ p ∈ d.pools, s.hasNode p.node = true
  deployments_sorted : Ordered.Sorted deploymentKey s.deployments
  replicas_sorted : ∀ d ∈ s.deployments, Ordered.Sorted replicaKey d.replicas
  replica_of : ∀ d ∈ s.deployments, ∀ r ∈ d.replicas, r.resource.key = d.resource.key
  replica_node : ∀ d ∈ s.deployments, ∀ r ∈ d.replicas, s.hasNode r.node = true
  replica_volumes : ∀ d ∈ s.deployments, ∀ r ∈ d.replicas, ∀ v ∈ r.volumes,
    s.hasPool r.node v.pool = true
  resources_sorted : Ordered.Sorted Name.key s.resources
  replica_registered : ∀ d ∈ s.deployments, ∀ r ∈ d.replicas, s.hasResource r.resource = true

variable {s s' : Snapshot}

/-! ## What a name leads to -/

theorem hasNode_iff {name : NodeName} :
    s.hasNode name = true ↔ ∃ n ∈ s.nodes, n.name.key = name.key :=
  Ordered.contains_iff

theorem isSome_node? {name : NodeName} : (s.node? name).isSome = s.hasNode name :=
  Ordered.isSome_find?

theorem mem_poolsNamed (h : Ordered.Sorted definitionKey s.definitions) {name : PoolName} {p : Pool} :
    p ∈ s.poolsNamed name ↔ ∃ d ∈ s.definitions, d.name.key = name.key ∧ p ∈ d.pools :=
  Ordered.mem_getD_find? h

theorem hasPool_iff (h : Ordered.Sorted definitionKey s.definitions) {node : NodeName}
    {name : PoolName} :
    s.hasPool node name = true ↔
      ∃ d ∈ s.definitions, d.name.key = name.key ∧ ∃ p ∈ d.pools, p.node.key = node.key := by
  rw [hasPool, pool?, Ordered.isSome_find?, Ordered.contains_iff]
  constructor
  · rintro ⟨p, hp, hk⟩
    obtain ⟨d, hd, hn, hp⟩ := (mem_poolsNamed h).1 hp
    exact ⟨d, hd, hn, p, hp, hk⟩
  · rintro ⟨d, hd, hn, p, hp, hk⟩
    exact ⟨p, (mem_poolsNamed h).2 ⟨d, hd, hn, hp⟩, hk⟩

theorem mem_replicasOf (h : Ordered.Sorted deploymentKey s.deployments) {name : ResourceName}
    {r : Replica} :
    r ∈ s.replicasOf name ↔ ∃ d ∈ s.deployments, d.resource.key = name.key ∧ r ∈ d.replicas :=
  Ordered.mem_getD_find? h

/-! ## Adding an object -/

theorem wellFormed_empty (names : List ResourceName) :
    WellFormed { resources := Ordered.ofList Name.key names } where
  nodes_sorted := Ordered.sorted_nil _
  definitions_sorted := Ordered.sorted_nil _
  pools_sorted := by simp
  pool_named := by simp
  pool_node := by simp
  deployments_sorted := Ordered.sorted_nil _
  replicas_sorted := by simp
  replica_of := by simp
  replica_node := by simp
  replica_volumes := by simp
  resources_sorted := Ordered.sorted_ofList _
  replica_registered := by simp

theorem addNode_eq_ok {n : Node} : s.addNode n = .ok s' ↔
    s.hasNode n.name = false ∧ s' = { s with nodes := Ordered.insert nodeKey n s.nodes } := by
  cases hn : s.hasNode n.name <;> simp [addNode, hn, eq_comm (b := s')]

theorem WellFormed.addNode {n : Node} (h : s.WellFormed) (hs : s.addNode n = .ok s') :
    s'.WellFormed := by
  obtain ⟨-, rfl⟩ := addNode_eq_ok.1 hs
  have hmono : ∀ name, s.hasNode name = true →
      hasNode { s with nodes := Ordered.insert nodeKey n s.nodes } name = true := by
    intro name hn
    obtain ⟨m, hm, hk⟩ := hasNode_iff.1 hn
    exact hasNode_iff.2 ⟨m, Ordered.mem_insert_of_mem hm, hk⟩
  exact { h with
    nodes_sorted := Ordered.sorted_insert h.nodes_sorted
    pool_node := fun d hd p hp => hmono _ (h.pool_node d hd p hp)
    replica_node := fun d hd r hr => hmono _ (h.replica_node d hd r hr) }

theorem addPool_eq_ok {p : Pool} : s.addPool p = .ok s' ↔
    s.hasNode p.node = true ∧ s.hasPool p.node p.name = false ∧
      s' = { s with definitions :=
        Ordered.alter definitionKey p.name.key (PoolDefinition.extend p) s.definitions } := by
  cases hn : s.hasNode p.node <;> cases hp : s.hasPool p.node p.name <;>
    simp [addPool, hn, hp, eq_comm (b := s')]

theorem definition_extend {p : Pool} (h : s.WellFormed) (hnode : s.hasNode p.node = true) :
    let d := PoolDefinition.extend p (Ordered.find? definitionKey p.name.key s.definitions)
    d.name.key = p.name.key ∧ Ordered.Sorted poolKey d.pools ∧
      (∃ q ∈ d.pools, q.node.key = p.node.key) ∧
      (∀ q ∈ d.pools, q.name.key = d.name.key ∧ s.hasNode q.node = true) := by
  cases hf : Ordered.find? definitionKey p.name.key s.definitions with
  | none =>
    refine ⟨rfl, List.pairwise_singleton _ _, ⟨p, by simp [PoolDefinition.extend], rfl⟩, ?_⟩
    intro q hq
    obtain rfl : q = p := by simpa [PoolDefinition.extend] using hq
    exact ⟨rfl, hnode⟩
  | some d =>
    obtain ⟨hd, hk⟩ := Ordered.find?_eq_some hf
    refine ⟨hk, Ordered.sorted_insert (h.pools_sorted d hd), Ordered.mem_insert_self p d.pools, ?_⟩
    intro q hq
    rcases Ordered.mem_insert _ hq with rfl | hq
    · exact ⟨hk.symm, hnode⟩
    · exact ⟨h.pool_named d hd q hq, h.pool_node d hd q hq⟩

theorem WellFormed.addPool {p : Pool} (h : s.WellFormed) (hs : s.addPool p = .ok s') :
    s'.WellFormed := by
  obtain ⟨hnode, -, rfl⟩ := addPool_eq_ok.1 hs
  obtain ⟨hkey, hsorted, -, hpools⟩ := definition_extend h hnode
  have hmem := fun d => Ordered.mem_alter (k := p.name.key) (f := PoolDefinition.extend p)
    h.definitions_sorted (y := d)
  have hdefs := Ordered.sorted_alter h.definitions_sorted hkey
  refine { h with
    definitions_sorted := hdefs
    pools_sorted := ?pools_sorted
    pool_named := ?pool_named
    pool_node := ?pool_node
    replica_volumes := ?replica_volumes }
  case pools_sorted =>
    intro d hd
    rcases (hmem d).1 hd with rfl | ⟨hd, -⟩
    · exact hsorted
    · exact h.pools_sorted d hd
  case pool_named =>
    intro d hd q hq
    rcases (hmem d).1 hd with rfl | ⟨hd, -⟩
    · exact (hpools q hq).1
    · exact h.pool_named d hd q hq
  case pool_node =>
    intro d hd q hq
    rcases (hmem d).1 hd with rfl | ⟨hd, -⟩
    · exact (hpools q hq).2
    · exact h.pool_node d hd q hq
  case replica_volumes =>
    -- A definition that grows keeps its pools, so every volume still finds its own.
    intro e he r hr v hv
    obtain ⟨d, hd, hn, q, hq, hk⟩ :=
      (hasPool_iff h.definitions_sorted).1 (h.replica_volumes e he r hr v hv)
    refine (hasPool_iff hdefs).2 ?_
    by_cases hsame : d.name.key = p.name.key
    · have hf : Ordered.find? definitionKey p.name.key s.definitions = some d :=
        (Ordered.find?_eq_some_iff h.definitions_sorted).2 ⟨hd, hsame⟩
      refine ⟨_, (hmem _).2 (.inl rfl), ?_⟩
      rw [hf]
      exact ⟨hn, q, Ordered.mem_insert_of_mem hq, hk⟩
    · exact ⟨d, (hmem d).2 (.inr ⟨hd, hsame⟩), hn, q, hq, hk⟩

theorem checkVolumes_eq_ok {r : Replica} {vs : List Volume} :
    s.checkVolumes r vs = .ok () ↔ ∀ v ∈ vs, s.hasPool r.node v.pool = true := by
  induction vs with
  | nil => simp [checkVolumes]
  | cons v vs ih =>
    unfold checkVolumes
    split_ifs with hv
    · rw [ih, List.forall_mem_cons]
      simp [hv]
    · simp [hv]

theorem addReplica_eq_ok {r : Replica} : s.addReplica r = .ok s' ↔
    s.hasNode r.node = true ∧ (∀ v ∈ r.volumes, s.hasPool r.node v.pool = true) ∧
      Ordered.contains replicaKey r.node.key (s.replicasOf r.resource) = false ∧
      s' = { s with
        deployments := Ordered.alter deploymentKey r.resource.key (Deployment.extend r) s.deployments
        resources := Ordered.insert Name.key r.resource s.resources } := by
  unfold addReplica
  rw [← checkVolumes_eq_ok]
  cases s.hasNode r.node <;> cases s.checkVolumes r r.volumes <;>
    cases Ordered.contains replicaKey r.node.key (s.replicasOf r.resource) <;>
    simp [bind, Except.bind, pure, Except.pure, throw, throwThe, MonadExceptOf.throw, eq_comm]

theorem deployment_extend {r : Replica} (h : s.WellFormed) :
    let d := Deployment.extend r (Ordered.find? deploymentKey r.resource.key s.deployments)
    d.resource.key = r.resource.key ∧ Ordered.Sorted replicaKey d.replicas ∧
      (∀ q ∈ d.replicas, q = r ∨ ∃ d' ∈ s.deployments, d'.resource.key = r.resource.key ∧
        q ∈ d'.replicas) := by
  cases hf : Ordered.find? deploymentKey r.resource.key s.deployments with
  | none =>
    refine ⟨rfl, List.pairwise_singleton _ _, fun q hq => .inl ?_⟩
    simpa [Deployment.extend] using hq
  | some d =>
    obtain ⟨hd, hk⟩ := Ordered.find?_eq_some hf
    refine ⟨hk, Ordered.sorted_insert (h.replicas_sorted d hd), ?_⟩
    intro q hq
    exact (Ordered.mem_insert _ hq).imp_right fun hq => ⟨d, hd, hk, hq⟩

theorem WellFormed.addReplica {r : Replica} (h : s.WellFormed) (hs : s.addReplica r = .ok s') :
    s'.WellFormed := by
  obtain ⟨hnode, hvolumes, -, rfl⟩ := addReplica_eq_ok.1 hs
  obtain ⟨hkey, hsorted, hreplicas⟩ := deployment_extend (r := r) h
  have hmem := fun d => Ordered.mem_alter (k := r.resource.key) (f := Deployment.extend r)
    h.deployments_sorted (y := d)
  -- Every replica is the new one or an old one, and what the old ones satisfy is untouched.
  have hall : ∀ d ∈ Ordered.alter deploymentKey r.resource.key (Deployment.extend r) s.deployments,
      ∀ q ∈ d.replicas, (q = r ∧ d.resource.key = r.resource.key) ∨
        ∃ d' ∈ s.deployments, d'.resource.key = d.resource.key ∧ q ∈ d'.replicas := by
    intro d hd q hq
    rcases (hmem d).1 hd with rfl | ⟨hd, -⟩
    · rcases hreplicas q hq with rfl | ⟨d', hd', hk, hq⟩
      · exact .inl ⟨rfl, hkey⟩
      · exact .inr ⟨d', hd', hk.trans hkey.symm, hq⟩
    · exact .inr ⟨d, hd, rfl, hq⟩
  refine { h with
    deployments_sorted := Ordered.sorted_alter h.deployments_sorted hkey
    resources_sorted := Ordered.sorted_insert h.resources_sorted
    replicas_sorted := ?replicas_sorted
    replica_of := ?replica_of
    replica_node := ?replica_node
    replica_volumes := ?replica_volumes
    replica_registered := ?replica_registered }
  case replicas_sorted =>
    intro d hd
    rcases (hmem d).1 hd with rfl | ⟨hd, -⟩
    · exact hsorted
    · exact h.replicas_sorted d hd
  case replica_of =>
    intro d hd q hq
    rcases hall d hd q hq with ⟨rfl, hk⟩ | ⟨d', hd', hk, hq⟩
    · exact hk.symm
    · exact (h.replica_of d' hd' q hq).trans hk
  case replica_node =>
    intro d hd q hq
    rcases hall d hd q hq with ⟨rfl, -⟩ | ⟨d', hd', -, hq⟩
    · exact hnode
    · exact h.replica_node d' hd' q hq
  case replica_volumes =>
    intro d hd q hq
    rcases hall d hd q hq with ⟨rfl, -⟩ | ⟨d', hd', -, hq⟩
    · exact hvolumes
    · exact h.replica_volumes d' hd' q hq
  case replica_registered =>
    intro d hd q hq
    rcases hall d hd q hq with ⟨rfl, -⟩ | ⟨d', hd', -, hq⟩
    · exact Ordered.contains_iff.2 (Ordered.mem_insert_self _ _)
    · obtain ⟨n, hn, hk⟩ := Ordered.contains_iff.1 (h.replica_registered d' hd' q hq)
      exact Ordered.contains_iff.2 ⟨n, Ordered.mem_insert_of_mem hn, hk⟩

theorem ofInventory_eq (i : Inventory) : ofInventory i =
    (i.nodes.foldlM addNode { resources := Ordered.ofList Name.key i.resources }).bind fun s =>
      (i.pools.foldlM addPool s).bind fun s => i.replicas.foldlM addReplica s := rfl

theorem ofInventory_induction {i : Inventory} {P : Snapshot → Prop} (h : ofInventory i = .ok s)
    (hempty : P { resources := Ordered.ofList Name.key i.resources })
    (hnode : ∀ s s' n, P s → addNode s n = .ok s' → P s')
    (hpool : ∀ s s' p, P s → addPool s p = .ok s' → P s')
    (hreplica : ∀ s s' r, P s → addReplica s r = .ok s' → P s') : P s := by
  rw [ofInventory_eq] at h
  obtain ⟨s₁, h1, h⟩ := Outcome.bind_eq_ok.1 h
  obtain ⟨s₂, h2, h3⟩ := Outcome.bind_eq_ok.1 h
  have hnodes := Outcome.foldlM_invariant (fun s s' n _ => hnode s s' n) hempty h1
  have hpools := Outcome.foldlM_invariant (fun s s' p _ => hpool s s' p) hnodes h2
  exact Outcome.foldlM_invariant (fun s s' r _ => hreplica s s' r) hpools h3

theorem wellFormed_ofInventory {i : Inventory} (h : ofInventory i = .ok s) : s.WellFormed :=
  ofInventory_induction h (wellFormed_empty i.resources) (fun _ _ _ h => h.addNode)
    (fun _ _ _ h => h.addPool) fun _ _ _ h => h.addReplica

/-- A group is spelled like the member that was added first, and none is given up. -/
theorem groups_spelled {i : Inventory} (h : ofInventory i = .ok s) :
    (∀ d ∈ s.definitions, ∃ p ∈ d.pools, p.name = d.name) ∧
      ∀ d ∈ s.deployments, ∃ r ∈ d.replicas, r.resource = d.resource := by
  refine ofInventory_induction
    (P := fun s => (∀ d ∈ s.definitions, ∃ p ∈ d.pools, p.name = d.name) ∧
      ∀ d ∈ s.deployments, ∃ r ∈ d.replicas, r.resource = d.resource) h (by simp) ?_ ?_ ?_
  · intro s s' n hs hadd
    obtain ⟨-, rfl⟩ := addNode_eq_ok.1 hadd
    exact hs
  · rintro s s' p ⟨hpools, hreplicas⟩ hadd
    obtain ⟨-, -, rfl⟩ := addPool_eq_ok.1 hadd
    refine ⟨fun d hd => ?_, hreplicas⟩
    rcases Ordered.mem_alter_or hd with (rfl | ⟨e, he, rfl⟩) | hd
    · exact ⟨p, List.mem_singleton_self p, rfl⟩
    · obtain ⟨q, hq, hname⟩ := hpools e he
      exact ⟨q, Ordered.mem_insert_of_mem hq, hname⟩
    · exact hpools d hd
  · rintro s s' r ⟨hpools, hreplicas⟩ hadd
    obtain ⟨-, -, -, rfl⟩ := addReplica_eq_ok.1 hadd
    refine ⟨hpools, fun d hd => ?_⟩
    rcases Ordered.mem_alter_or hd with (rfl | ⟨e, he, rfl⟩) | hd
    · exact ⟨r, List.mem_singleton_self r, rfl⟩
    · obtain ⟨q, hq, hresource⟩ := hreplicas e he
      exact ⟨q, Ordered.mem_insert_of_mem hq, hresource⟩
    · exact hreplicas d hd

theorem groups_ne_nil {i : Inventory} (h : ofInventory i = .ok s) :
    (∀ d ∈ s.definitions, d.pools ≠ []) ∧ ∀ d ∈ s.deployments, d.replicas ≠ [] := by
  obtain ⟨hpools, hreplicas⟩ := groups_spelled h
  refine ⟨fun d hd => ?_, fun d hd => ?_⟩
  · obtain ⟨p, hp, -⟩ := hpools d hd
    exact List.ne_nil_of_mem hp
  · obtain ⟨r, hr, -⟩ := hreplicas d hd
    exact List.ne_nil_of_mem hr

/-! ## A cluster of two nodes -/

def alpha : NodeName := ⟨"alpha", by decide⟩

def beta : NodeName := ⟨"beta", by decide⟩

def ssd : PoolName := ⟨"ssd", by decide⟩

/-- Two nodes with a pool each. The second node cannot be reached. -/
def pairInventory : Inventory where
  nodes := [{ name := alpha }, { name := beta, connected := false }]
  pools := [
    { name := ssd, node := alpha, provider := .lvm, freeSpace := some 10 },
    { name := ssd, node := beta, provider := .lvm, freeSpace := some 20 }]

def pair : Snapshot where
  nodes := pairInventory.nodes
  definitions := [⟨ssd, pairInventory.pools⟩]

theorem ofInventory_pair : ofInventory pairInventory = .ok pair := by decide +kernel

/-! ## A hall of six nodes -/

def kilo : NodeName := ⟨"kilo", by decide⟩

def lima : NodeName := ⟨"lima", by decide⟩

def mike : NodeName := ⟨"mike", by decide⟩

def nova : NodeName := ⟨"nova", by decide⟩

def blog : ResourceName := ⟨"blog", by decide⟩

def news : ResourceName := ⟨"news", by decide⟩

def wiki : ResourceName := ⟨"wiki", by decide⟩

/-- Each node with its rack, its zone and what is free in its pool. -/
def hallPlan : List (NodeName × String × String × UInt64) :=
  [(alpha, "r1", "a", 60), (beta, "r2", "a", 50), (kilo, "r2", "a", 40), (lima, "r3", "a", 30),
    (mike, "r4", "b", 20), (nova, "r5", "a", 10)]

def replicaInHall (resource : ResourceName) (node : NodeName) : Replica where
  resource := resource
  node := node
  volumes := [⟨0, ssd, 5⟩]

/-- Two resources have a replica, on the first node and on the last one. -/
def hall : Snapshot where
  nodes := hallPlan.map fun (name, rack, zone, _) => { name, props := [("rack", rack), ("zone", zone)] }
  definitions := [⟨ssd, hallPlan.map fun (node, _, _, free) =>
    { name := ssd, node, provider := .lvm, freeSpace := some free }⟩]
  deployments := [⟨news, [replicaInHall news nova]⟩, ⟨wiki, [replicaInHall wiki alpha]⟩]
  resources := [blog, news, wiki]

/-- What is in the hall, listed from the last to the first. -/
def hallInventory : Inventory where
  nodes := hall.nodes.reverse
  pools := hall.toInventory.pools.reverse
  replicas := hall.toInventory.replicas.reverse
  resources := [wiki, blog]

theorem ofInventory_hall : ofInventory hallInventory = .ok hall := by decide +kernel

end ReplicaPlacement.Snapshot
