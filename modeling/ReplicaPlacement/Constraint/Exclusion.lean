import ReplicaPlacement.Candidate.Basic
import ReplicaPlacement.Cluster.Snapshot
import ReplicaPlacement.Constraint.Basic
import ReplicaPlacement.Inspect

/-!
# Constraints on single candidates

Before the search, candidates go that no selection may hold: those outside the forced pool, those
next to an excluded resource, and those whose node lacks a pinned property value.

Next to an excluded resource means on a node that hosts one. If every candidate is on such a node,
it means only in a pool that holds one.
-/

namespace ReplicaPlacement

abbrev NameTest := String → Bool

/-- A pattern language. Some texts are no pattern. -/
abbrev PatternLanguage := String → Option NameTest

structure CheckedConstraints where
  constraints : ConstraintSet
  pattern : Option NameTest

def ConstraintSet.check (c : ConstraintSet) (language : PatternLanguage) :
    Except PlacementError CheckedConstraints := do
  c.filters.forM PropertyFilter.validate
  match c.notPlaceWithPattern with
  | none => pure ⟨c, none⟩
  | some text =>
    match language text with
    | some test => pure ⟨c, some test⟩
    | none => throw (.invalidPattern text)

namespace CheckedConstraints

variable {σ : Type} [Score σ] (c : CheckedConstraints) (s : Snapshot)

def excludedResources : List ResourceName :=
  let named := Ordered.ofList Name.key c.constraints.notPlaceWith
  match c.pattern with
  | none => named
  | some test =>
    (s.resources.filter fun r => test r.text).foldl (fun acc r => Ordered.insert Name.key r acc)
      named

def anyExcluded (excluded resources : List ResourceName) : Bool :=
  resources.any fun r => Ordered.contains Name.key r.key excluded

def eligible (groups : List (CandidateGroup σ)) : List (Candidate σ) :=
  (groups.filter fun g => c.constraints.forcedPool.all fun forced => forced.same g.name).flatMap
    (·.candidates)

def onFreeNode (excluded : List ResourceName) (x : Candidate σ) : Bool :=
  !anyExcluded excluded (s.resourcesOn x.node)

def inFreePool (excluded : List ResourceName) (x : Candidate σ) : Bool :=
  !anyExcluded excluded (s.resourcesIn x.node x.pool)

/-- Drops candidates on nodes with an excluded resource. If none is left, drops only those in pools
with one. -/
def keepApart (cs : List (Candidate σ)) : Traced (List (Candidate σ)) := do
  let excluded := c.excludedResources s
  if excluded.isEmpty then pure cs
  else
    Traced.emit .debug fun _ =>
      s!"Not placing next to resources: {Name.inspectAll excluded}"
    let onFree := cs.filter (onFreeNode s excluded)
    if !onFree.isEmpty then
      Traced.emit .debug fun _ => s!"{onFree.length} candidates after node exclusion"
      pure onFree
    else
      let inFree := cs.filter (inFreePool s excluded)
      Traced.emit .debug fun _ =>
        s!"Node exclusion left no candidates, {inFree.length} remain after storage pool exclusion"
      pure inFree

def pinned : List PropertyFilter := c.constraints.replicasOnSame.filter fun f => f.pinned.isSome

def propertyOf (x : Candidate σ) (f : PropertyFilter) : Option String :=
  (s.node? x.node).bind fun n => n.prop? f.key

def mismatch? (fs : List PropertyFilter) (x : Candidate σ) : Option PropertyFilter :=
  fs.find? fun f => propertyOf s x f != f.pinned

def keepPinned (fs : List PropertyFilter) : List (Candidate σ) → Traced (List (Candidate σ))
  | [] => pure []
  | x :: xs => do
    match mismatch? s fs x with
    | none =>
      let rest ← keepPinned fs xs
      pure (x :: rest)
    | some f =>
      let value := propertyOf s x f
      Traced.emit .debug fun _ =>
        s!"{x.describe} dropped: property '{f.key}' is {Text.quotedOption value}, required {Text.quotedOption f.pinned}"
      keepPinned fs xs

def admissible (groups : List (CandidateGroup σ)) : Traced (List (Candidate σ)) := do
  let eligible := c.eligible groups
  Traced.emit .debug fun _ => s!"{eligible.length} candidates after storage pool filter"
  let apart ← c.keepApart s eligible
  if c.pinned.isEmpty then pure apart
  else
    let kept ← keepPinned s c.pinned apart
    Traced.emit .debug fun _ => s!"{kept.length} candidates after pinned property filter"
    pure kept

end CheckedConstraints

end ReplicaPlacement
