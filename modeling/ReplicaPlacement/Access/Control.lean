import ReplicaPlacement.Access.Policy
import ReplicaPlacement.Cluster.Inventory

/-!
# Access control lists

Explicit grants over a default. The last grant for a subject and an object counts. The system
subject is always in control.
-/

namespace ReplicaPlacement

/-- One entry of a list: a node, a pool definition, or with both names one pool. -/
structure AccessGrant where
  subject : Subject
  node : Option NodeName := none
  pool : Option PoolName := none
  access : Option AccessLevel := none
  deriving DecidableEq

structure AccessList where
  default : Option AccessLevel := none
  grants : List AccessGrant := []
  deriving DecidableEq

def SecuredObject.ofNames? : Option NodeName → Option PoolName → Option SecuredObject
  | some host, some name => some (.pool host name)
  | some host, none => some (.node host)
  | none, some name => some (.poolDefinition name)
  | none, none => none

/-- A table of grants, later ones in front. -/
structure GrantTable where
  default : Option AccessLevel := none
  grants : List ((Subject × ObjectKey) × Option AccessLevel) := []

namespace GrantTable

def grant (t : GrantTable) (subject : Subject) (object : SecuredObject)
    (access : Option AccessLevel) : GrantTable :=
  { t with grants := ((subject, object.key), access) :: t.grants }

def lookup (t : GrantTable) (subject : Subject) (object : ObjectKey) : Option AccessLevel :=
  (t.grants.lookup (subject, object)).getD t.default

def policy (t : GrantTable) : AccessPolicy where
  granted subject object :=
    if subject = systemSubject then some .control else t.lookup subject object.key

end GrantTable

namespace AccessList

def addGrant (t : GrantTable) (g : AccessGrant) : Except ClusterError GrantTable :=
  match SecuredObject.ofNames? g.node g.pool with
  | some object => .ok (t.grant g.subject object g.access)
  | none => .error (.invalidAcl g.subject "the grant names no node and no storage pool")

def table (l : AccessList) : Except ClusterError GrantTable :=
  l.grants.foldlM addGrant { default := l.default }

end AccessList

namespace AccessGrant

def fieldNames : List String := ["subject", "node", "storage_pool", "access"]

def nameField {kind : NameKind} (field : String) : Option (Name kind) → List (String × Value)
  | none => []
  | some n => [(field, toValue n)]

instance : ToValue AccessGrant where
  toValue g := .record (
    [("subject", toValue g.subject)] ++ nameField "node" g.node
      ++ nameField "storage_pool" g.pool ++ [("access", toValue g.access)])

instance : FromDocument AccessGrant where
  read? v := do
    let fs ← Fields.of? fieldNames v
    let subject ← fs.required "subject"
    let node ← fs.defaulted "node" none
    let pool ← fs.defaulted "storage_pool" none
    let access ← fs.defaulted "access" none
    pure { subject, node, pool, access }

end AccessGrant

namespace AccessList

def fieldNames : List String := ["default", "grants"]

instance : ToValue AccessList where
  toValue l := .record [("default", toValue l.default), ("grants", toValue l.grants)]

instance : FromDocument AccessList where
  read? v := do
    let fs ← Fields.of? fieldNames v
    let default ← fs.defaulted "default" none
    let grants ← fs.defaulted "grants" []
    pure { default, grants }

end AccessList

end ReplicaPlacement
