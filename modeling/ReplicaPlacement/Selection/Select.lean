import ReplicaPlacement.Placement.Context
import ReplicaPlacement.Selection.Search

/-!
# Selecting the best candidates

Candidates are ranked by descending score, and a depth-first search starts at each place of the
ranking in turn. The first result with the highest total wins. Starting further down stops as soon
as not even the best scores left could add up to more.
-/

namespace ReplicaPlacement.Selection

variable {σ : Type} [Score σ]

structure Best (σ : Type) where
  chosen : List (Choice σ)
  total : σ

def totalOf (cs : List (Choice σ)) : σ := Score.sum (cs.map (·.candidate.score))

/-- No selection of so many candidates from a ranking has a higher total. -/
def upperBound (count : Nat) (ranked : List (Choice σ)) : σ := totalOf (ranked.take count)

def describe (cs : List (Choice σ)) : String := Candidate.describeAll (cs.map (·.candidate))

/-- The better of the best so far and a new result. Of equal totals the older stays. -/
def improve (best : Option (Best σ)) (chosen : List (Choice σ)) : Traced (Option (Best σ)) := do
  let total := totalOf chosen
  if Score.improves total (best.map (·.total)) then
    Traced.emit .debug fun _ =>
      s!"Found selection with score {Score.text total}: {describe chosen}"
    pure (some ⟨chosen, total⟩)
  else
    Traced.emit .trace fun _ =>
      let bestText := (best.map fun b => Score.text b.total).getD "-inf"
      s!"Skipping selection with score {Score.text total} (best {bestText}): {describe chosen}"
    pure best

def branchAndBound (filters : Filters) (count : Nat) (st : State) (best : Option (Best σ)) :
    List (Choice σ) → Traced (Option (Best σ))
  | [] => pure best
  | c :: cs => do
    match ← search filters count st (c :: cs) with
    | none => pure best
    | some chosen =>
      let best ← improve best chosen
      if cs.length < count then
        Traced.emit .trace fun _ => "Not enough remaining candidates, search finished"
        pure best
      else
        let bound := upperBound count cs
        if Score.exhausted bound (best.map (·.total)) then
          Traced.emit .trace fun _ =>
            s!"Remaining selections score at most {Score.text bound}, search finished"
          pure best
        else branchAndBound filters count st best cs

def nodeValues (s : Snapshot) (filters : Filters) (name : NodeName) :
    Except PlacementError NodeValues :=
  match s.node? name with
  | none => .error (.internal s!"Node '{name}' is not in the snapshot")
  | some n =>
    .ok ⟨filters.same.map fun f => n.prop? f.key, filters.different.map fun f => n.prop? f.key⟩

def State.ofFilters (filters : Filters) (provider : Option ProviderKind) : State where
  usedNodes := []
  provider := provider
  pins := filters.same.map (·.pinned)
  claims := filters.different.map (·.pinned.toList)

/-- What is fixed before the search: by the constraints, and by existing replicas unless they are
to be ignored. -/
def initialState (s : Snapshot) (c : ConstraintSet) (context : PlacementContext) :
    Except PlacementError State :=
  let filters := Filters.ofConstraints c
  let st := State.ofFilters filters context.provider
  if c.skipAlreadyPlaced then .ok st
  else
    context.deployedNodes.foldlM
      (fun st node => (nodeValues s filters node).map fun values => st.addNode node values) st

/-- Candidates by descending score; equal scores keep their order. -/
def ranking (cs : List (Candidate σ)) : List (Candidate σ) :=
  cs.mergeSort fun a b => Score.ranks a.score b.score

def choiceOf (s : Snapshot) (filters : Filters) (x : Candidate σ × Nat) :
    Except PlacementError (Choice σ) :=
  (nodeValues s filters x.1.node).map fun values => ⟨x.2, x.1, values⟩

def choicesOf (s : Snapshot) (filters : Filters) (ranked : List (Candidate σ)) :
    Except PlacementError (List (Choice σ)) :=
  ranked.zipIdx.mapM (choiceOf s filters)

def select (s : Snapshot) (c : ConstraintSet) (context : PlacementContext) (logCandidates : Bool)
    (candidates : List (Candidate σ)) : Attempt PlacementError (Option (List (Candidate σ))) := do
  let count := c.replicaCount.toNat
  if count = 0 then pure (some [])
  else
    let ranked := ranking candidates
    if logCandidates then
      ranked.forM fun x => Attempt.debug fun _ => s!"Sorted candidate: {x.describe}"
    if ranked.length < count then
      Attempt.debug fun _ => s!"Only {ranked.length} candidates for {count} replicas"
      pure none
    else
      let filters := Filters.ofConstraints c
      let choices ← Attempt.ofExcept (choicesOf s filters ranked)
      let st ← Attempt.ofExcept (initialState s c context)
      let best ← Attempt.ofTraced (branchAndBound filters count st none choices)
      pure (best.map fun b => b.chosen.map (·.candidate))

end ReplicaPlacement.Selection
