import ReplicaPlacement.Candidate.Basic
import ReplicaPlacement.Constraint.Basic
import ReplicaPlacement.Text.Quoted

/-!
# What a selection fixes

Each candidate that joins a selection narrows what may join next: its node is used, its provider
kind is fixed, property values that all must share are fixed, and values that all must differ on
are claimed. `State.add` takes a candidate in. `State.undo` takes it out again, given a note of
what it changed.
-/

namespace ReplicaPlacement.Selection

structure NodeValues where
  same : List (Option String)
  different : List (Option String)
  deriving DecidableEq, Repr

structure Choice (σ : Type) where
  rank : Nat
  candidate : Candidate σ
  values : NodeValues

structure Filters where
  same : List PropertyFilter
  different : List PropertyFilter

def Filters.ofConstraints (c : ConstraintSet) : Filters :=
  ⟨c.replicasOnSame, c.replicasOnDifferent⟩

structure State where
  /-- Identities of nodes that take no further replica, the newest first. -/
  usedNodes : List String
  provider : Option ProviderKind
  /-- For each filter the value that all share, once there is one. -/
  pins : List (Option String)
  /-- For each filter the values that are taken, the newest first. -/
  claims : List (List String)
  deriving DecidableEq, Repr

inductive Rejection where
  | nodeUsed (node : NodeName)
  | providerDiffers (own selected : ProviderKind)
  | valueDiffers (key : String) (value : Option String) (required : String)
  | valueTaken (key value : String)
  deriving DecidableEq

def Rejection.text : Rejection → String
  | nodeUsed node => s!"node '{node}' is already used"
  | providerDiffers own selected => s!"provider kind {own} does not match selected {selected}"
  | valueDiffers key value required =>
    s!"property '{key}' is {Text.quotedOption value} but the selection requires '{required}'"
  | valueTaken key value => s!"property '{key}' value '{value}' is already taken"

namespace State

variable {σ : Type}

/-- The first filter with a shared value that the node does not have. A missing value counts as a
different one. -/
def differing? :
    List PropertyFilter → List (Option String) → List (Option String) → Option Rejection
  | f :: fs, some required :: pins, value :: values =>
    if value = some required then differing? fs pins values
    else some (.valueDiffers f.key value required)
  | _ :: fs, none :: pins, _ :: values => differing? fs pins values
  | _, _, _ => none

def taken? :
    List PropertyFilter → List (List String) → List (Option String) → Option Rejection
  | f :: fs, claimed :: claims, some value :: values =>
    if claimed.contains value then some (.valueTaken f.key value) else taken? fs claims values
  | _ :: fs, _ :: claims, none :: values => taken? fs claims values
  | _, _, _ => none

def otherProvider? (own : ProviderKind) : Option ProviderKind → Option Rejection
  | none => none
  | some selected => if own = selected then none else some (.providerDiffers own selected)

def rejection? (filters : Filters) (st : State) (c : Choice σ) : Option Rejection :=
  if st.usedNodes.contains c.candidate.node.key then some (.nodeUsed c.candidate.node)
  else
    (otherProvider? c.candidate.provider st.provider
      <|> differing? filters.same st.pins c.values.same)
      <|> taken? filters.different st.claims c.values.different

/-- Takes the values of a node in: free pins get them, and they are claimed. -/
def addNode (st : State) (node : NodeName) (values : NodeValues) : State :=
  { st with
    usedNodes := node.key :: st.usedNodes
    pins := List.zipWith (fun pin value => pin <|> value) st.pins values.same
    claims := List.zipWith (fun claimed value => value.toList ++ claimed) st.claims
      values.different }

def add (st : State) (c : Choice σ) : State :=
  { st.addNode c.candidate.node c.values with
    provider := st.provider <|> some c.candidate.provider }

structure Changes where
  /-- The filters that got a shared value. -/
  pinned : List Bool
  /-- The filters for which a value was claimed. -/
  claimed : List Bool
  locked : Bool
  deriving DecidableEq, Repr

def changes (st : State) (c : Choice σ) : Changes where
  pinned := List.zipWith (fun pin value => pin.isNone && value.isSome) st.pins c.values.same
  claimed := List.zipWith (fun _ value => value.isSome) st.claims c.values.different
  locked := st.provider.isNone

def undo (st : State) (ch : Changes) (c : Choice σ) : State where
  usedNodes := st.usedNodes.erase c.candidate.node.key
  provider := if ch.locked then none else st.provider
  pins := List.zipWith (fun changed pin => if changed then none else pin) ch.pinned st.pins
  claims := List.zipWith (fun changed claimed => if changed then claimed.tail else claimed)
    ch.claimed st.claims

end State

end ReplicaPlacement.Selection
