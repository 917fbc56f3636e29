import ReplicaPlacement.Cluster.Snapshot
import ReplicaPlacement.Placement.Error

/-!
# Checks on pools

Four checks decide whether a pool can take a new replica. They run in a fixed order, so that no
check looks at data of a pool that an earlier one has excluded.
-/

namespace ReplicaPlacement

structure PoolRequest where
  snapshot : Snapshot
  policy : AccessPolicy
  subject : Subject
  size : UInt64

inductive Exclusion where
  | noAccess (object : SecuredObject)
  | diskless
  | disconnected (node : NodeName)
  | tooSmall (requested available : UInt64)
  deriving DecidableEq

def Exclusion.text : Exclusion → String
  | noAccess object => s!"No {AccessLevel.use} access on {object}"
  | diskless => "Storage pool is diskless"
  | disconnected node => s!"Node '{node}' is not connected"
  | tooSmall requested available =>
    s!"Insufficient free space: requested {requested} KiB, available {available} KiB"

inductive PoolCheck where
  | hasAccess
  | notDiskless
  | nodeConnected
  | hasFreeSpace
  deriving DecidableEq, Repr

namespace PoolCheck

def all : List PoolCheck := [hasAccess, notDiskless, nodeConnected, hasFreeSpace]

def name : PoolCheck → String
  | hasAccess => "HasAccess"
  | notDiskless => "NotDiskless"
  | nodeConnected => "NodeConnected"
  | hasFreeSpace => "HasFreeSpace"

def access (q : PoolRequest) (p : Pool) : Option Exclusion :=
  let definition := SecuredObject.poolDefinition p.name
  let node := SecuredObject.node p.node
  if !q.policy.has q.subject definition .use then some (.noAccess definition)
  else if !q.policy.has q.subject node .use then some (.noAccess node)
  else none

def connection (q : PoolRequest) (p : Pool) : Except PlacementError (Option Exclusion) :=
  match q.snapshot.node? p.node with
  | none => .error (.internal s!"{p.describe} refers to an unknown node")
  | some n => .ok (if n.connected then none else some (.disconnected n.name))

/-- Thin pools have room for everything. The free space of others must be visible. -/
def space (q : PoolRequest) (p : Pool) : Attempt PlacementError (Option Exclusion) :=
  if p.provider.isThin then pure none
  else do
    Attempt.ofExcept ((q.policy.require q.subject (.pool p.node p.name) .view).mapError
      (.accessDenied "query free space"))
    let free := p.knownFree
    if free < q.size then pure (some (.tooSmall q.size free))
    else
      Attempt.debug fun _ => s!"{p.describe} has {free} KiB free"
      pure none

def run (q : PoolRequest) (p : Pool) : PoolCheck → Attempt PlacementError (Option Exclusion)
  | hasAccess => pure (access q p)
  | notDiskless => pure (if p.provider.isDiskless then some .diskless else none)
  | nodeConnected => Attempt.ofExcept (connection q p)
  | hasFreeSpace => space q p

def firstExclusion (q : PoolRequest) (p : Pool) :
    List PoolCheck → Attempt PlacementError (Option (PoolCheck × Exclusion))
  | [] => pure none
  | c :: cs => do
    match ← run q p c with
    | some e => pure (some (c, e))
    | none => firstExclusion q p cs

end PoolCheck

end ReplicaPlacement
