import ReplicaPlacement.Proofs.Cluster.WellFormed

/-!
# Changing objects without renaming them

A change of nodes and pools that keeps their names commutes with looking them up, and with building
a snapshot.
-/

namespace ReplicaPlacement

structure KeepsNames (g : Node → Node) (h : Pool → Pool) : Prop where
  node_name : ∀ n, (g n).name = n.name
  pool_name : ∀ p, (h p).name = p.name
  pool_node : ∀ p, (h p).node = p.node

def Inventory.altered (g : Node → Node) (h : Pool → Pool) (i : Inventory) : Inventory :=
  { i with nodes := i.nodes.map g, pools := i.pools.map h }

def PoolDefinition.altered (h : Pool → Pool) (d : PoolDefinition) : PoolDefinition :=
  { d with pools := d.pools.map h }

def Snapshot.altered (g : Node → Node) (h : Pool → Pool) (s : Snapshot) : Snapshot :=
  { s with nodes := s.nodes.map g, definitions := s.definitions.map (PoolDefinition.altered h) }

namespace Snapshot

variable {g : Node → Node} {h : Pool → Pool} (hn : KeepsNames g h) {s : Snapshot}

include hn

/-! ## Looking things up -/

theorem nodeKey_altered (n : Node) : nodeKey (g n) = nodeKey n := congrArg Name.key (hn.node_name n)

theorem poolKey_altered (p : Pool) : poolKey (h p) = poolKey p := congrArg Name.key (hn.pool_node p)

omit hn in
theorem definitionKey_altered (d : PoolDefinition) : definitionKey (d.altered h) = definitionKey d := rfl

theorem node?_altered (name : NodeName) : (s.altered g h).node? name = (s.node? name).map g :=
  Ordered.find?_map (nodeKey_altered hn) _ _

theorem hasNode_altered (name : NodeName) : (s.altered g h).hasNode name = s.hasNode name :=
  Ordered.contains_map (nodeKey_altered hn) _ _

omit hn in
theorem poolsNamed_altered (name : PoolName) :
    (s.altered g h).poolsNamed name = (s.poolsNamed name).map h :=
  Ordered.getD_find?_map definitionKey_altered (fun _ => rfl) _ _

theorem pool?_altered (node : NodeName) (name : PoolName) :
    (s.altered g h).pool? node name = (s.pool? node name).map h := by
  rw [pool?, pool?, poolsNamed_altered, Ordered.find?_map (poolKey_altered hn)]

theorem hasPool_altered (node : NodeName) (name : PoolName) :
    (s.altered g h).hasPool node name = s.hasPool node name := by
  rw [hasPool, hasPool, pool?_altered hn, Option.isSome_map]

/-! ## Building -/

theorem addNode_altered (s : Snapshot) (n : Node) :
    (s.altered g h).addNode (g n) = (s.addNode n).map (altered g h) := by
  have hinsert : Ordered.insert nodeKey (g n) (s.altered g h).nodes =
      (Ordered.insert nodeKey n s.nodes).map g :=
    Ordered.insert_map (nodeKey_altered hn) _ _
  unfold addNode
  rw [hinsert, hasNode_altered hn, hn.node_name]
  cases s.hasNode n.name <;> rfl

theorem extend_altered (p : Pool) (d : Option PoolDefinition) :
    PoolDefinition.extend (h p) (d.map (PoolDefinition.altered h)) =
      (PoolDefinition.extend p d).altered h := by
  cases d with
  | none => exact congrArg (fun name => (⟨name, [h p]⟩ : PoolDefinition)) (hn.pool_name p)
  | some d =>
    have hinsert : Ordered.insert poolKey (h p) (d.altered h).pools =
        (Ordered.insert poolKey p d.pools).map h :=
      Ordered.insert_map (poolKey_altered hn) _ _
    exact congrArg (fun pools => (⟨d.name, pools⟩ : PoolDefinition)) hinsert

theorem addPool_altered (s : Snapshot) (p : Pool) :
    (s.altered g h).addPool (h p) = (s.addPool p).map (altered g h) := by
  have halter : Ordered.alter definitionKey p.name.key (PoolDefinition.extend (h p))
      (s.altered g h).definitions =
        (Ordered.alter definitionKey p.name.key (PoolDefinition.extend p) s.definitions).map
          (PoolDefinition.altered h) :=
    Ordered.alter_map definitionKey_altered (extend_altered hn p) _
  have hdescribe : (h p).describe = p.describe := by
    unfold Pool.describe
    rw [hn.pool_name, hn.pool_node]
  unfold addPool
  rw [hdescribe, hn.pool_name, hn.pool_node, halter, hasNode_altered hn, hasPool_altered hn]
  cases s.hasNode p.node <;> cases s.hasPool p.node p.name <;> rfl

theorem checkVolumes_altered (r : Replica) (vs : List Volume) :
    (s.altered g h).checkVolumes r vs = s.checkVolumes r vs := by
  induction vs with
  | nil => rfl
  | cons v vs ih => rw [checkVolumes, checkVolumes, hasPool_altered hn, ih]

theorem addReplica_altered (s : Snapshot) (r : Replica) :
    (s.altered g h).addReplica r = (s.addReplica r).map (altered g h) := by
  have hreplicas : (s.altered g h).replicasOf r.resource = s.replicasOf r.resource := rfl
  unfold addReplica
  rw [hasNode_altered hn, checkVolumes_altered hn, hreplicas]
  cases s.hasNode r.node <;> cases s.checkVolumes r r.volumes <;>
    cases Ordered.contains replicaKey r.node.key (s.replicasOf r.resource) <;> rfl

/-- Building a snapshot and changing it can be done in either order. -/
theorem ofInventory_altered (i : Inventory) :
    ofInventory (i.altered g h) = (ofInventory i).map (altered g h) := by
  have hnodes : (i.altered g h).nodes.foldlM addNode
      { resources := Ordered.ofList Name.key (i.altered g h).resources } =
        (i.nodes.foldlM addNode { resources := Ordered.ofList Name.key i.resources }).map
          (altered g h) :=
    Outcome.foldlM_map_map (g := altered g h) (addNode_altered hn) i.nodes
      { resources := Ordered.ofList Name.key i.resources }
  have hpools (s : Snapshot) : (i.altered g h).pools.foldlM addPool (s.altered g h) =
      (i.pools.foldlM addPool s).map (altered g h) :=
    Outcome.foldlM_map_map (addPool_altered hn) i.pools s
  have hreplicas (s : Snapshot) : (i.altered g h).replicas.foldlM addReplica (s.altered g h) =
      (i.replicas.foldlM addReplica s).map (altered g h) := by
    have hmap := Outcome.foldlM_map_map (g := altered g h) (h := id) (addReplica_altered hn)
      i.replicas s
    rwa [List.map_id] at hmap
  rw [ofInventory_eq, ofInventory_eq, hnodes]
  refine Outcome.map_bind_of_commutes (fun s => ?_) _
  rw [hpools]
  exact Outcome.map_bind_of_commutes hreplicas _

end Snapshot

end ReplicaPlacement
