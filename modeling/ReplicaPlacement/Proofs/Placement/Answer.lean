import ReplicaPlacement.Proofs.Candidate.Offered
import ReplicaPlacement.Proofs.Placement.Sound

/-!
# The answer of a placement

On a snapshot that was built from an inventory, a placement fails exactly with the first of its
faults. Without faults it gives the answer that is worked out from the pools on offer.
-/

namespace ReplicaPlacement

variable {σ : Type} [Score σ]

namespace Selection

variable {s : Snapshot} {c : ConstraintSet} {context : PlacementContext} {log : Bool}
  {candidates : List (Candidate σ)}

def selected (s : Snapshot) (c : ConstraintSet) (context : PlacementContext)
    (candidates : List (Candidate σ)) : Option (List (Candidate σ)) :=
  if c.replicaCount.toNat = 0 then some []
  else
    (branchAndBound (Filters.ofConstraints c) c.replicaCount.toNat (startState s c context) none
      (rankedChoices s (Filters.ofConstraints c) (ranking candidates))).value.map
        fun b => b.chosen.map (·.candidate)

theorem select_eq_selected (h : NodesKnown s context candidates) :
    (select s c context log candidates).result = .ok (selected s c context candidates) := by
  unfold selected
  by_cases hcount : c.replicaCount.toNat = 0
  · rw [if_pos hcount]
    exact select_eq_ok.2 (Or.inl ⟨hcount, rfl⟩)
  · rw [if_neg hcount]
    exact select_result h (Nat.pos_of_ne_zero hcount)

/-- A selection depends on the snapshot only through the properties of its nodes. -/
theorem selected_congr {s' : Snapshot} (h : ∀ name key, s'.propOf? name key = s.propOf? name key)
    (c : ConstraintSet) (context : PlacementContext) (candidates : List (Candidate σ)) :
    selected s' c context candidates = selected s c context candidates := by
  have hfixed (nodes : List NodeName) : fixedValue s' nodes = fixedValue s nodes := by
    funext f
    simp only [fixedValue, h]
  have hvalues (filters : Filters) : valuesOf s' filters = valuesOf s filters := by
    funext name
    simp only [valuesOf, h]
  have hstart : startState s' c context = startState s c context := by
    simp only [startState, stateOf, hfixed, h]
  have hchoices (filters : Filters) (ranked : List (Candidate σ)) :
      rankedChoices s' filters ranked = rankedChoices s filters ranked := by
    simp only [rankedChoices, hvalues]
  unfold selected
  rw [hstart, hchoices]

end Selection

namespace Autoplacer

variable (a : Autoplacer σ) (s : Snapshot) (subject : Subject) (resource : ResourceName)
  (c : ConstraintSet)

/-! ## Faults and answer -/

def deployedFaults : List Fault :=
  if c.skipAlreadyPlaced || c.filters.isEmpty then []
  else (PlacementContext.observed s resource).deployedNodes.flatMap fun node =>
    a.policy.viewFaults subject "read node properties" (.node node)

def request : PoolRequest := ⟨s, a.policy, subject, c.size⟩

def faults : List Fault :=
  c.faults a.language ++ Fault.conflicts resource (s.dataKinds resource) ++
    a.deployedFaults s subject resource c ++
      s.definitions.flatMap ((a.request s subject c).definitionFaults a.scorer)

def admissibleOffers : List (Candidate σ) :=
  (CheckedConstraints.admissible ⟨c, c.notPlaceWithPattern.bind a.language⟩ s
    ((a.request s subject c).offers a.scorer)).value

def answer : Option (Placement σ) :=
  (Selection.selected s c (PlacementContext.observed s resource) (a.admissibleOffers s subject c)).map
    (Placement.ofSelection resource)

variable {a s subject resource c}

theorem checkDeployedAccess_eq_failing :
    a.checkDeployedAccess subject c (PlacementContext.observed s resource) = Outcome.failing
      ((a.deployedFaults s subject resource c).map (Fault.error a.policy subject a.scorer)) () := by
  unfold checkDeployedAccess deployedFaults
  split
  · rfl
  · rw [List.map_flatMap]
    exact Outcome.forM_eq_failing fun node _ => AccessPolicy.require_view _ _ _ _ _

theorem result_admissibleCandidates (hs : s.WellFormed) :
    (a.admissibleCandidates s subject ⟨c, c.notPlaceWithPattern.bind a.language⟩).result =
      Outcome.failing
        ((s.definitions.flatMap ((a.request s subject c).definitionFaults a.scorer)).map
          (Fault.error a.policy subject a.scorer)) (a.admissibleOffers s subject c) := by
  unfold admissibleCandidates
  rw [Attempt.result_bind]
  exact (congrArg (fun x => Except.bind x _)
    (PoolRequest.result_candidates (q := a.request s subject c) hs)).trans
      (Outcome.failing_bind_ok rfl)

theorem nodesKnown_admissibleOffers (hs : s.WellFormed) :
    Selection.NodesKnown s (PlacementContext.observed s resource) (a.admissibleOffers s subject c) := by
  constructor
  case candidate_nodes =>
    intro x hx
    obtain ⟨g, hg, hxg, -⟩ := (CheckedConstraints.mem_admissible hx).in_group
    obtain ⟨d, hd, -, hpools⟩ := PoolRequest.mem_offers hg
    obtain ⟨p, hp, -, rfl⟩ := hpools x hxg
    exact hs.pool_node d hd p hp
  case deployed_nodes =>
    intro n hn
    obtain ⟨r, hr, rfl⟩ := List.mem_map.1 hn
    obtain ⟨d, hd, hr⟩ := Snapshot.mem_replicas.1 (hs.mem_replicasOf_iff.1 hr).1
    exact hs.replica_node d hd r hr

theorem place_eq_failing (hs : s.WellFormed) :
    (a.place s subject resource c).result = Outcome.failing
      ((a.faults s subject resource c).map (Fault.error a.policy subject a.scorer))
      (a.answer s subject resource c) := by
  rw [result_place, ConstraintSet.check_eq_failing a.policy subject a.scorer, faults,
    List.append_assoc, List.append_assoc, List.map_append, List.map_append, List.map_append]
  apply Outcome.failing_bind
  rw [PlacementContext.ofResource_eq_failing hs, Fault.map_error_conflicts]
  apply Outcome.failing_bind
  rw [checkDeployedAccess_eq_failing]
  apply Outcome.failing_bind
  rw [result_admissibleCandidates hs]
  apply Outcome.failing_bind_ok
  rw [Selection.select_eq_selected (nodesKnown_admissibleOffers hs)]
  rfl

/-- A placement fails exactly with the first of its faults, and without any it is decided. What
faults are listed by is in name order. -/
theorem place_eq_error_iff {i : Inventory} (h : Snapshot.ofInventory i = .ok s) :
    (∀ e, (a.place s subject resource c).result = .error e ↔
      (a.faults s subject resource c).head?.map (Fault.error a.policy subject a.scorer) = some e) ∧
    ((∃ r, (a.place s subject resource c).result = .ok r) ↔ a.faults s subject resource c = []) ∧
    Ordered.Sorted Snapshot.replicaKey (s.replicasOf resource) ∧
    Ordered.Sorted Snapshot.definitionKey s.definitions ∧
    ∀ d ∈ s.definitions, Ordered.Sorted Snapshot.poolKey d.pools := by
  have hs := Snapshot.wellFormed_ofInventory h
  rw [place_eq_failing hs]
  refine ⟨fun e => ?_, ?_, hs.replicasOf_sorted resource, hs.definitions_sorted, hs.pools_sorted⟩
  · rw [Outcome.failing_eq_error, List.head?_map]
  · simp only [Outcome.failing_eq_ok, List.map_eq_nil_iff, exists_and_left, exists_eq', and_true]

/-! ## Pools that nobody sees -/

def hidingPools : AccessPolicy where
  granted _ object :=
    match object with
    | .pool _ _ => none
    | _ => some .control

def guarded : Autoplacer Float := .ofConfig hidingPools {} fun _ => none

theorem place_pair_guarded :
    (guarded.place Snapshot.pair "guest" database Selection.oneReplica).result =
      .error (.accessDenied "query free space"
        ⟨"guest", "storage pool 'ssd' on node 'alpha'", .view, none⟩) :=
  ((place_eq_error_iff Snapshot.ofInventory_pair).1 _).2 (by decide +kernel)

end Autoplacer

end ReplicaPlacement
