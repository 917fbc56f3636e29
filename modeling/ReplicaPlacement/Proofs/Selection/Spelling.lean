import ReplicaPlacement.Proofs.Cluster.Spelling
import ReplicaPlacement.Proofs.Selection.BranchAndBound

/-!
# The search in another spelling

The search compares nodes by their identity and otherwise looks at no name, so from candidates that
are spelled in upper case it selects the same ones.
-/

namespace ReplicaPlacement

variable {σ : Type}

def Candidate.canonical (x : Candidate σ) : Candidate σ :=
  { x with pool := x.pool.canonical, node := x.node.canonical }

def ConstraintSet.canonical (c : ConstraintSet) : ConstraintSet :=
  { c with
    forcedPool := c.forcedPool.map Name.canonical
    notPlaceWith := c.notPlaceWith.map Name.canonical }

def PlacementContext.canonical (context : PlacementContext) : PlacementContext :=
  { context with deployedNodes := context.deployedNodes.map Name.canonical }

theorem Snapshot.propOf?_canonical (s : Snapshot) (name : NodeName) (key : String) :
    s.canonical.propOf? name.canonical key = s.propOf? name key := by
  rw [propOf?, propOf?, node?_canonical]
  cases s.node? name <;> rfl

namespace Selection

def Choice.canonical (x : Choice σ) : Choice σ := { x with candidate := x.candidate.canonical }

def Best.canonical (b : Best σ) : Best σ := { b with chosen := b.chosen.map Choice.canonical }

/-! ## Where the search starts -/

section Start

variable (s : Snapshot) (filters : Filters)

theorem valuesOf_canonical (name : NodeName) :
    valuesOf s.canonical filters name.canonical = valuesOf s filters name := by
  simp only [valuesOf, Snapshot.propOf?_canonical]

theorem ranking_canonical [Score σ] (cs : List (Candidate σ)) :
    ranking (cs.map Candidate.canonical) = (ranking cs).map Candidate.canonical := by
  symm
  apply List.map_mergeSort
  intro x _ y _
  rfl

theorem rankedChoices_canonical (ranked : List (Candidate σ)) :
    rankedChoices s.canonical filters (ranked.map Candidate.canonical) =
      (rankedChoices s filters ranked).map Choice.canonical := by
  unfold rankedChoices
  rw [List.zipIdx_map, List.map_map, List.map_map]
  refine List.map_congr_left fun x _ => ?_
  exact congrArg (Choice.mk x.2 x.1.canonical) (valuesOf_canonical s filters x.1.node)

theorem deployed_canonical (c : ConstraintSet) (context : PlacementContext) :
    deployed c.canonical context.canonical = (deployed c context).map Name.canonical := by
  unfold deployed
  cases hskip : c.skipAlreadyPlaced <;> simp [ConstraintSet.canonical, PlacementContext.canonical, hskip]

theorem fixedValue_canonical (nodes : List NodeName) :
    fixedValue s.canonical (nodes.map Name.canonical) = fixedValue s nodes := by
  funext f
  simp only [fixedValue, List.findSome?_map, Function.comp_def, Snapshot.propOf?_canonical]

theorem startState_canonical (c : ConstraintSet) (context : PlacementContext) :
    startState s.canonical c.canonical context.canonical = startState s c context := by
  unfold startState stateOf
  rw [deployed_canonical, fixedValue_canonical]
  simp only [List.map_map, List.filterMap_map, Function.comp_def, Name.key_canonical,
    Snapshot.propOf?_canonical]
  rfl

end Start

/-! ## Searching -/

variable {filters : Filters}

theorem add_canonical (st : State) (x : Choice σ) : st.add x.canonical = st.add x := by
  simp [State.add, State.addNode, Choice.canonical, Candidate.canonical]

theorem isNone_rejection?_canonical (st : State) (x : Choice σ) :
    (st.rejection? filters x.canonical).isNone = (st.rejection? filters x).isNone := by
  unfold State.rejection?
  simp only [Choice.canonical, Candidate.canonical, Name.key_canonical]
  split <;> rfl

theorem firstAdmissible?_canonical (st : State) (k : Nat) (cs : List (Choice σ)) :
    firstAdmissible? filters st k (cs.map Choice.canonical) =
      (firstAdmissible? filters st k cs).map (List.map Choice.canonical) := by
  induction cs generalizing st k with
  | nil => cases k <;> rfl
  | cons x cs ih =>
    cases k with
    | zero => rfl
    | succ k =>
      rw [List.map_cons, firstAdmissible?_cons, firstAdmissible?_cons, isNone_rejection?_canonical,
        add_canonical, ih, ih]
      cases (st.rejection? filters x).isNone <;> cases firstAdmissible? filters (st.add x) k cs <;> rfl

theorem branchAndBound_canonical [Score σ] {st : State} {cs : List (Choice σ)}
    (hst : st.Shaped filters) (hcs : ∀ x ∈ cs, x.Shaped filters) (count : Nat)
    (best : Option (Best σ)) :
    (branchAndBound filters count st (best.map Best.canonical) (cs.map Choice.canonical)).value =
      (branchAndBound filters count st best cs).value.map Best.canonical :=
  branchAndBound_map (g := Choice.canonical) (fun _ => rfl) hst hst
    (fun x hx => ⟨hcs x hx, (hcs x hx).1, (hcs x hx).2⟩)
    (fun ys _ => firstAdmissible?_canonical st count ys) best

end Selection

end ReplicaPlacement
