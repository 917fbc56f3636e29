import ReplicaPlacement.Proofs.Selection.FirstBest

/-!
# Which property filters matter

Neither the order of the filters nor how often one is listed makes a difference to a selection. Nor
do filters on a property that no node in question has, unless they pin a value that all nodes must
have. Two searches under such filters keep states of different shapes, but they reject the same
candidates at every point.
-/

namespace ReplicaPlacement.Selection

variable {σ : Type} {s : Snapshot} {c c' : ConstraintSet} {context : PlacementContext}
  {candidates : List (Candidate σ)}

/-! ## Filters that make no difference -/

/-- No candidate's node and no deployed node has the property. -/
def Uncarried (s : Snapshot) (context : PlacementContext) (candidates : List (Candidate σ))
    (key : String) : Prop :=
  (∀ x ∈ candidates, s.propOf? x.node key = none) ∧
    ∀ n ∈ context.deployedNodes, s.propOf? n key = none

/-- Both ask the same of all candidates. They may list other filters on properties that no node has,
if nothing is pinned that all must share. -/
structure SameRules (s : Snapshot) (context : PlacementContext) (candidates : List (Candidate σ))
    (c c' : ConstraintSet) : Prop where
  count_eq : c'.replicaCount = c.replicaCount
  skip_eq : c'.skipAlreadyPlaced = c.skipAlreadyPlaced
  same : ∀ f, (f.pinned = none → ¬ Uncarried s context candidates f.key) →
    (f ∈ c'.replicasOnSame ↔ f ∈ c.replicasOnSame)
  different : ∀ f, ¬ Uncarried s context candidates f.key →
    (f ∈ c'.replicasOnDifferent ↔ f ∈ c.replicasOnDifferent)

theorem SameRules.symm (h : SameRules s context candidates c c') :
    SameRules s context candidates c' c where
  count_eq := h.count_eq.symm
  skip_eq := h.skip_eq.symm
  same f hf := (h.same f hf).symm
  different f hf := (h.different f hf).symm

theorem Uncarried.of_taken {key : String} (h : Uncarried s context candidates key)
    {earlier : List (Candidate σ)} (hearlier : earlier ⊆ candidates) :
    ∀ n ∈ takenNodes c context earlier, s.propOf? n key = none := by
  refine List.forall_mem_append.2 ⟨fun n hn => ?_, List.forall_mem_map.2 fun x hx => h.1 x (hearlier hx)⟩
  unfold deployed at hn
  split at hn
  · cases hn
  · exact h.2 n hn

namespace SameRules

variable {earlier : List (Candidate σ)}

theorem deployed_eq (h : SameRules s context candidates c c') :
    deployed c' context = deployed c context := by
  rw [deployed, deployed, h.skip_eq]

theorem mayFollow (h : SameRules s context candidates c c') (hearlier : earlier ⊆ candidates)
    {x : Candidate σ} (hx : x ∈ candidates) (hfollows : MayFollow s c context earlier x) :
    MayFollow s c' context earlier x := by
  have htaken : takenNodes c' context earlier = takenNodes c context earlier := by
    rw [takenNodes, takenNodes, h.deployed_eq]
  constructor
  case node_free =>
    rw [htaken]
    exact hfollows.node_free
  case kind_fits => exact hfollows.kind_fits
  case same_fits =>
    rw [htaken]
    intro f hf v hv
    -- A value is shared only if it is pinned or some node has it.
    have hmatters : f.pinned = none → ¬ Uncarried s context candidates f.key := by
      intro hpinned huncarried
      have hnone := List.findSome?_eq_none_iff.2 (huncarried.of_taken (c := c) hearlier)
      rw [fixedValue, hpinned, hnone] at hv
      cases hv
    exact hfollows.same_fits f ((h.same f hmatters).1 hf) v hv
  case different_fits =>
    rw [htaken]
    intro f hf v hv
    have hcarried : ¬ Uncarried s context candidates f.key := by
      intro huncarried
      rw [huncarried.1 x hx] at hv
      cases hv
    exact hfollows.different_fits f ((h.different f hcarried).1 hf) v hv

theorem mayFollow_iff (h : SameRules s context candidates c c') (hearlier : earlier ⊆ candidates)
    {x : Candidate σ} (hx : x ∈ candidates) :
    MayFollow s c' context earlier x ↔ MayFollow s c context earlier x :=
  ⟨h.symm.mayFollow hearlier hx, h.mayFollow hearlier hx⟩

end SameRules

/-! ## Searching under the same rules -/

def Choice.underFilters (s : Snapshot) (filters : Filters) (x : Choice σ) : Choice σ :=
  { x with values := valuesOf s filters x.candidate.node }

theorem Choice.shaped_underFilters {filters : Filters} (x : Choice σ) :
    (x.underFilters s filters).Shaped filters := by
  constructor <;> simp [underFilters, valuesOf]

theorem rankedChoices_underFilters (filters filters' : Filters) (ranked : List (Candidate σ)) :
    (rankedChoices s filters ranked).map (Choice.underFilters s filters') =
      rankedChoices s filters' ranked := by
  unfold rankedChoices
  rw [List.map_map]
  rfl

namespace SameRules

variable {earlier : List (Candidate σ)} {cs : List (Choice σ)}

theorem isNone_rejection?_eq (h : SameRules s context candidates c c') (hearlier : earlier ⊆ candidates)
    {x : Choice σ} (hx : x.candidate ∈ candidates)
    (hvalues : x.values = valuesOf s (Filters.ofConstraints c) x.candidate.node) :
    ((stateAfter s c' context earlier).rejection? (Filters.ofConstraints c')
        (x.underFilters s (Filters.ofConstraints c'))).isNone =
      ((stateAfter s c context earlier).rejection? (Filters.ofConstraints c) x).isNone := by
  rw [Bool.eq_iff_iff, Option.isNone_iff_eq_none, Option.isNone_iff_eq_none,
    rejection?_stateAfter hvalues, rejection?_stateAfter rfl]
  exact h.mayFollow_iff hearlier hx

/-- The states differ in shape, but at each point the same candidates join. -/
theorem firstAdmissible?_eq (h : SameRules s context candidates c c') (hearlier : earlier ⊆ candidates)
    (hcs : ∀ x ∈ cs, x.candidate ∈ candidates ∧
      x.values = valuesOf s (Filters.ofConstraints c) x.candidate.node) (k : Nat) :
    firstAdmissible? (Filters.ofConstraints c') (stateAfter s c' context earlier) k
        (cs.map (Choice.underFilters s (Filters.ofConstraints c'))) =
      (firstAdmissible? (Filters.ofConstraints c) (stateAfter s c context earlier) k cs).map
        (List.map (Choice.underFilters s (Filters.ofConstraints c'))) := by
  induction cs generalizing k earlier with
  | nil => cases k <;> rfl
  | cons x cs ih =>
    obtain ⟨⟨hx, hvalues⟩, hcs⟩ := List.forall_mem_cons.1 hcs
    cases k with
    | zero => rfl
    | succ k =>
      have hjoined : earlier ++ [x.candidate] ⊆ candidates :=
        List.append_subset.2 ⟨hearlier, List.cons_subset.2 ⟨hx, List.nil_subset _⟩⟩
      rw [List.map_cons, firstAdmissible?_cons, firstAdmissible?_cons,
        h.isNone_rejection?_eq hearlier hx hvalues, add_stateAfter hvalues, add_stateAfter rfl,
        ih hearlier hcs]
      -- The search under the filters goes on from the same candidates.
      have hrest : firstAdmissible? (Filters.ofConstraints c')
          (stateAfter s c' context (earlier ++
            [(x.underFilters s (Filters.ofConstraints c')).candidate])) k
          (cs.map (Choice.underFilters s (Filters.ofConstraints c'))) = _ := ih hjoined hcs k
      rw [hrest]
      cases (State.rejection? (Filters.ofConstraints c) (stateAfter s c context earlier) x).isNone <;>
        cases firstAdmissible? (Filters.ofConstraints c)
          (stateAfter s c context (earlier ++ [x.candidate])) k cs <;> rfl

theorem result_select_eq [Score σ] (h : SameRules s context candidates c c') (log : Bool) :
    (select s c' context log candidates).result = (select s c context log candidates).result := by
  have hranked : ∀ x ∈ rankedChoices s (Filters.ofConstraints c) (ranking candidates),
      x.candidate ∈ candidates ∧ x.values = valuesOf s (Filters.ofConstraints c) x.candidate.node := by
    intro x hx
    refine ⟨?_, values_of_mem_rankedChoices hx⟩
    have hmem := List.mem_map_of_mem (f := (·.candidate)) hx
    rw [map_candidate_rankedChoices] at hmem
    exact mem_ranking.1 hmem
  -- At every start both searches find the same candidates, each with the values of its own filters.
  have hfound (ys : List (Choice σ))
      (hys : ys.Sublist (rankedChoices s (Filters.ofConstraints c) (ranking candidates))) :
      firstAdmissible? (Filters.ofConstraints c') (startState s c' context) c.replicaCount.toNat
          (ys.map (Choice.underFilters s (Filters.ofConstraints c'))) =
        (firstAdmissible? (Filters.ofConstraints c) (startState s c context) c.replicaCount.toNat
          ys).map (List.map (Choice.underFilters s (Filters.ofConstraints c'))) := by
    rw [← stateAfter_nil (σ := σ), ← stateAfter_nil (σ := σ)]
    exact h.firstAdmissible?_eq (List.nil_subset _) (fun x hx => hranked x (hys.subset hx)) _
  have hdriver := branchAndBound_map (g := Choice.underFilters s (Filters.ofConstraints c'))
    (fun _ => rfl) shaped_startState shaped_startState
    (fun x hx => ⟨shaped_of_mem_rankedChoices hx, x.shaped_underFilters⟩) hfound none
  rw [rankedChoices_underFilters, Option.map_none] at hdriver
  have hchosen (best : Option (Best σ)) :
      (best.map (Best.map (Choice.underFilters s (Filters.ofConstraints c')))).map
        (fun b => b.chosen.map (·.candidate)) = best.map fun b => b.chosen.map (·.candidate) := by
    rw [candidates_map (g := Choice.underFilters s _) (h := id) fun _ => rfl, List.map_id_fun,
      Option.map_id, id]
  rw [result_select, result_select, h.count_eq, h.deployed_eq, hdriver, hchosen]

end SameRules

/-- A selection depends on the sets of its filters alone. It does not depend on a filter whose
property no node in question has, unless the filter pins a value that all must share. -/
theorem select_filter_sets [Score σ] (s : Snapshot) (c : ConstraintSet) (context : PlacementContext)
    (log : Bool) (candidates : List (Candidate σ)) :
    (∀ same different : List PropertyFilter, (∀ f, f ∈ same ↔ f ∈ c.replicasOnSame) →
      (∀ f, f ∈ different ↔ f ∈ c.replicasOnDifferent) →
      (select s { c with replicasOnSame := same, replicasOnDifferent := different } context log
        candidates).result = (select s c context log candidates).result) ∧
    ∀ f : PropertyFilter, Uncarried s context candidates f.key →
      (f.pinned = none → ∀ same : List PropertyFilter,
        (∀ g, g ∈ same ↔ g = f ∨ g ∈ c.replicasOnSame) →
        (select s { c with replicasOnSame := same } context log candidates).result =
          (select s c context log candidates).result) ∧
      ∀ different : List PropertyFilter, (∀ g, g ∈ different ↔ g = f ∨ g ∈ c.replicasOnDifferent) →
        (select s { c with replicasOnDifferent := different } context log candidates).result =
          (select s c context log candidates).result := by
  refine ⟨fun same different hsame hdifferent => ?_, fun f hf => ⟨?_, ?_⟩⟩
  · have hrules : SameRules s context candidates c
        { c with replicasOnSame := same, replicasOnDifferent := different } :=
      ⟨rfl, rfl, fun f _ => hsame f, fun f _ => hdifferent f⟩
    exact hrules.result_select_eq log
  · intro hpinned same hsame
    have hrules : SameRules s context candidates c { c with replicasOnSame := same } := by
      refine ⟨rfl, rfl, fun g hg => (hsame g).trans (or_iff_right ?_), fun _ _ => Iff.rfl⟩
      rintro rfl
      exact hg hpinned hf
    exact hrules.result_select_eq log
  · intro different hdifferent
    have hrules : SameRules s context candidates c { c with replicasOnDifferent := different } := by
      refine ⟨rfl, rfl, fun _ _ => Iff.rfl, fun g hg => (hdifferent g).trans (or_iff_right ?_)⟩
      rintro rfl
      exact hg hf
    exact hrules.result_select_eq log

/-! ## Racks, and no zones -/

def rackPair : Snapshot :=
  { Snapshot.pair with
    nodes := [
      { name := Snapshot.alpha, props := [("rack", "r1")] },
      { name := Snapshot.beta, props := [("rack", "r2")] }] }

def rackApart : ConstraintSet where
  replicasOnDifferent := [⟨"rack", none⟩]

theorem uncarried_zone : Uncarried rackPair {} (pairCandidates (1 / 2 : ℚ) (3 / 2)) "zone" := by
  refine ⟨?_, nofun⟩
  simp only [pairCandidates, List.forall_mem_cons, List.not_mem_nil, false_implies, implies_true,
    and_true]
  decide +kernel

theorem select_rackPair_filter_sets :
    let answer (c : ConstraintSet) :=
      (select rackPair c {} false (pairCandidates (1 / 2 : ℚ) (3 / 2))).result
    answer { rackApart with replicasOnDifferent := [⟨"rack", none⟩, ⟨"rack", none⟩] } =
        answer rackApart ∧
      answer { rackApart with replicasOnSame := [⟨"zone", none⟩] } = answer rackApart ∧
      answer { rackApart with replicasOnDifferent := [⟨"rack", none⟩, ⟨"zone", some "a"⟩] } =
        answer rackApart := by
  obtain ⟨hsets, hadded⟩ :=
    select_filter_sets rackPair rackApart {} false (pairCandidates (1 / 2 : ℚ) (3 / 2))
  refine ⟨?_, ?_, ?_⟩
  · exact hsets [] _ (by simp [rackApart]) (by simp [rackApart])
  · exact (hadded ⟨"zone", none⟩ uncarried_zone).1 rfl _ (by simp [rackApart])
  · exact (hadded ⟨"zone", some "a"⟩ uncarried_zone).2 _ (by simp [rackApart, or_comm])

end ReplicaPlacement.Selection
