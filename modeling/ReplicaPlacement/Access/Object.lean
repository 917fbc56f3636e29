import ReplicaPlacement.Document.Readable
import ReplicaPlacement.Name

/-!
# Access levels and secured objects
-/

namespace ReplicaPlacement

/-- What a subject may do with an object. Each level includes the ones before it. -/
inductive AccessLevel where
  | view
  | use
  | change
  | control
  deriving DecidableEq, Repr

namespace AccessLevel

def all : List AccessLevel := [view, use, change, control]

def rank : AccessLevel → Nat
  | view => 0
  | use => 1
  | change => 2
  | control => 3

def covers (granted requested : AccessLevel) : Bool := requested.rank ≤ granted.rank

/-- The spelling in documents. -/
def word : AccessLevel → String
  | view => "view"
  | use => "use"
  | change => "change"
  | control => "control"

/-- The spelling in messages. -/
def text : AccessLevel → String
  | view => "VIEW"
  | use => "USE"
  | change => "CHANGE"
  | control => "CONTROL"

instance : ToString AccessLevel := ⟨text⟩

instance : ToValue AccessLevel := ⟨fun l => .text l.word⟩

instance : FromDocument AccessLevel := ⟨variantAmong? word all⟩

end AccessLevel

inductive SecuredObject where
  /-- All pools of a name. -/
  | poolDefinition (name : PoolName)
  | node (name : NodeName)
  | pool (node : NodeName) (name : PoolName)
  deriving DecidableEq

/-- The identity of a secured object, which does not depend on how its names are spelled. -/
inductive ObjectKey where
  | poolDefinition (name : String)
  | node (name : String)
  | pool (node name : String)
  deriving DecidableEq, Repr

namespace SecuredObject

def key : SecuredObject → ObjectKey
  | .poolDefinition name => .poolDefinition name.key
  | .node name => .node name.key
  | .pool host name => .pool host.key name.key

def describe : SecuredObject → String
  | .poolDefinition name => s!"storage pool definition '{name}'"
  | .node name => s!"node '{name}'"
  | .pool host name => s!"storage pool '{name}' on node '{host}'"

instance : ToString SecuredObject := ⟨describe⟩

end SecuredObject

end ReplicaPlacement
