import ReplicaPlacement.Cluster.Basic

/-!
# Inventories

The plain lists a cluster is described by, as files hold them.
-/

namespace ReplicaPlacement

/-- Everything a cluster consists of, in any order and not yet checked. -/
structure Inventory where
  nodes : List Node := []
  pools : List Pool := []
  replicas : List Replica := []
  resources : List ResourceName := []
  deriving DecidableEq

instance (kind : NameKind) : ToValue (Name kind) := ⟨fun n => .text n.text⟩

instance (kind : NameKind) : FromDocument (Name kind) where
  read? v := (Readable.text? v).bind (Name.ofString? kind)

namespace Node

def fieldNames : List String := ["name", "props", "connected"]

instance : ToValue Node where
  toValue n := .record [
    ("name", toValue n.name),
    ("props", .record (n.props.map fun (k, v) => (k, .text v))),
    ("connected", toValue n.connected)]

/-- A map from text to text. Of equal keys the last stays. -/
def readProps? {ν : Type} [Readable ν] (v : ν) : Option (List Property) :=
  (Readable.entries? v).bind fun entries =>
    (entries.mapM fun e => (Readable.text? e.2).map fun s => (e.1, s)).map
      (Ordered.ofList Prod.fst)

instance : FromDocument Node where
  read? v := do
    let fs ← Fields.of? fieldNames v
    let name ← fs.required "name"
    let props ←
      match fs.find? "props" with
      | none => some []
      | some v => readProps? v
    let connected ← fs.defaulted "connected" true
    pure { name, props, connected }

end Node

namespace Pool

def fieldNames : List String :=
  ["name", "node", "provider_kind", "free_space_kib", "total_capacity_kib"]

instance : ToValue Pool where
  toValue p := .record [
    ("name", toValue p.name),
    ("node", toValue p.node),
    ("provider_kind", toValue p.provider),
    ("free_space_kib", toValue p.freeSpace),
    ("total_capacity_kib", toValue p.totalCapacity)]

instance : FromDocument Pool where
  read? v := do
    let fs ← Fields.of? fieldNames v
    let name ← fs.required "name"
    let node ← fs.required "node"
    let provider ← fs.required "provider_kind"
    let freeSpace ← fs.defaulted "free_space_kib" none
    let totalCapacity ← fs.defaulted "total_capacity_kib" none
    pure { name, node, provider, freeSpace, totalCapacity }

end Pool

namespace Volume

def fieldNames : List String := ["number", "storage_pool", "size_kib"]

instance : ToValue Volume where
  toValue v := .record [
    ("number", toValue v.number),
    ("storage_pool", toValue v.pool),
    ("size_kib", toValue v.size)]

instance : FromDocument Volume where
  read? v := do
    let fs ← Fields.of? fieldNames v
    let number ← fs.required "number"
    let pool ← fs.required "storage_pool"
    let size ← fs.defaulted "size_kib" 0
    pure { number, pool, size }

end Volume

namespace Replica

def fieldNames : List String := ["name", "node", "diskless", "volumes"]

instance : ToValue Replica where
  toValue r := .record [
    ("name", toValue r.resource),
    ("node", toValue r.node),
    ("diskless", toValue r.diskless),
    ("volumes", toValue r.volumes)]

instance : FromDocument Replica where
  read? v := do
    let fs ← Fields.of? fieldNames v
    let resource ← fs.required "name"
    let node ← fs.required "node"
    let diskless ← fs.defaulted "diskless" false
    let volumes ← fs.defaulted "volumes" []
    pure { resource, node, diskless, volumes }

end Replica

namespace Inventory

def fieldNames : List String := ["nodes", "storage_pools", "resources", "resource_definitions"]

instance : ToValue Inventory where
  toValue i := .record [
    ("nodes", toValue i.nodes),
    ("storage_pools", toValue i.pools),
    ("resources", toValue i.replicas),
    ("resource_definitions", toValue i.resources)]

instance : FromDocument Inventory where
  read? v := do
    let fs ← Fields.of? fieldNames v
    let nodes ← fs.defaulted "nodes" []
    let pools ← fs.defaulted "storage_pools" []
    let replicas ← fs.defaulted "resources" []
    let resources ← fs.defaulted "resource_definitions" []
    pure { nodes, pools, replicas, resources }

end Inventory

end ReplicaPlacement
