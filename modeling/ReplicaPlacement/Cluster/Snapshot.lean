import ReplicaPlacement.Cluster.Inventory
import ReplicaPlacement.Trace

/-!
# Cluster snapshots

A checked and indexed inventory. Objects are added one at a time, so an error is always that of the
first object that does not fit. Within the index everything is sorted by name, and
`Snapshot.toInventory` lists it in that order.
-/

namespace ReplicaPlacement

/-- The pools that share a name. The name is spelled as in the first pool listed. -/
structure PoolDefinition where
  name : PoolName
  pools : List Pool
  deriving DecidableEq

structure Deployment where
  resource : ResourceName
  replicas : List Replica
  deriving DecidableEq

structure Snapshot where
  nodes : List Node := []
  definitions : List PoolDefinition := []
  deployments : List Deployment := []
  /-- Every registered resource, and every one with a replica. -/
  resources : List ResourceName := []
  deriving DecidableEq

namespace Snapshot

def nodeKey (n : Node) : String := n.name.key

def definitionKey (d : PoolDefinition) : String := d.name.key

def poolKey (p : Pool) : String := p.node.key

def deploymentKey (d : Deployment) : String := d.resource.key

def replicaKey (r : Replica) : String := r.node.key

variable (s : Snapshot)

/-! ## Questions -/

def node? (name : NodeName) : Option Node := Ordered.find? nodeKey name.key s.nodes

def poolNames : List PoolName := s.definitions.map (·.name)

def poolsNamed (name : PoolName) : List Pool :=
  ((Ordered.find? definitionKey name.key s.definitions).map (·.pools)).getD []

def pool? (node : NodeName) (name : PoolName) : Option Pool :=
  Ordered.find? poolKey node.key (s.poolsNamed name)

def replicasOf (name : ResourceName) : List Replica :=
  ((Ordered.find? deploymentKey name.key s.deployments).map (·.replicas)).getD []

def replicasOn (node : NodeName) : List Replica :=
  s.deployments.filterMap fun d => Ordered.find? replicaKey node.key d.replicas

def resourcesOn (node : NodeName) : List ResourceName :=
  (s.replicasOn node).map (·.resource)

def resourcesIn (node : NodeName) (pool : PoolName) : List ResourceName :=
  ((s.replicasOn node).filter fun r => r.uses pool).map (·.resource)

def hasResource (name : ResourceName) : Bool := Ordered.contains Name.key name.key s.resources

def hasNode (name : NodeName) : Bool := Ordered.contains nodeKey name.key s.nodes

def hasPool (node : NodeName) (name : PoolName) : Bool := (s.pool? node name).isSome

/-! ## Building -/

def addNode (n : Node) : Except ClusterError Snapshot :=
  if s.hasNode n.name then
    .error (.invalidSnapshot s!"node '{n.name}' is listed twice"
      "Node names are case-insensitive and must be unique")
  else .ok { s with nodes := Ordered.insert nodeKey n s.nodes }

def PoolDefinition.extend (p : Pool) : Option PoolDefinition → PoolDefinition
  | none => ⟨p.name, [p]⟩
  | some d => { d with pools := Ordered.insert poolKey p d.pools }

def addPool (p : Pool) : Except ClusterError Snapshot :=
  if !s.hasNode p.node then .error (.nodeNotFound p.node.text)
  else if s.hasPool p.node p.name then
    .error (.invalidSnapshot s!"{p.describe} is listed twice"
      "A node can host only one storage pool per name")
  else
    .ok { s with
      definitions :=
        Ordered.alter definitionKey p.name.key (PoolDefinition.extend p) s.definitions }

def Deployment.extend (r : Replica) : Option Deployment → Deployment
  | none => ⟨r.resource, [r]⟩
  | some d => { d with replicas := Ordered.insert replicaKey r d.replicas }

def checkVolumes (r : Replica) : List Volume → Except ClusterError Unit
  | [] => .ok ()
  | v :: vs =>
    if s.hasPool r.node v.pool then checkVolumes r vs
    else .error (.poolNotFound r.node.text v.pool.text)

def addReplica (r : Replica) : Except ClusterError Snapshot := do
  if !s.hasNode r.node then throw (.nodeNotFound r.node.text)
  s.checkVolumes r r.volumes
  if Ordered.contains replicaKey r.node.key (s.replicasOf r.resource) then
    throw (.invalidSnapshot s!"{r.describe} is listed twice"
      "A node can host only one replica of a resource")
  pure { s with
    deployments := Ordered.alter deploymentKey r.resource.key (Deployment.extend r) s.deployments
    resources := Ordered.insert Name.key r.resource s.resources }

def ofInventory (i : Inventory) : Except ClusterError Snapshot := do
  let empty : Snapshot := { resources := Ordered.ofList Name.key i.resources }
  let withNodes ← i.nodes.foldlM addNode empty
  let withPools ← i.pools.foldlM addPool withNodes
  i.replicas.foldlM addReplica withPools

def toInventory : Inventory where
  nodes := s.nodes
  pools := s.definitions.flatMap (·.pools)
  replicas := s.deployments.flatMap (·.replicas)
  resources := s.resources

end Snapshot

def Inventory.build (i : Inventory) : Attempt ClusterError Snapshot := do
  let s ← Attempt.ofExcept (Snapshot.ofInventory i)
  let (nodes, pools, resources) := (s.nodes.length, s.definitions.length, s.resources.length)
  Attempt.debug fun _ =>
    s!"Cluster snapshot indexed: {nodes} nodes, {pools} storage pool definitions, {resources} resource definitions"
  pure s

instance : ToValue Snapshot := ⟨fun s => toValue s.toInventory⟩

instance : FromDocument Snapshot where
  read? v := (FromDocument.read? v).bind fun i => (Snapshot.ofInventory i).toOption

end ReplicaPlacement
