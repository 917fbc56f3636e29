import ReplicaPlacement.Proofs.Binary64
import ReplicaPlacement.Proofs.Placement.Sound
import ReplicaPlacement.Proofs.Selection.Complete

/-!
# Nothing is placed only if nothing can be

The search looks at every way to choose candidates in the order of the ranking, so without an answer
there is none, as long as the total of the first way counts as more than minus infinity. Candidates
of a placement have finite scores, whose sum is minus infinity or above it.
-/

namespace ReplicaPlacement

open Binary64 (negInfinity)
open Selection (FirstTotal NodesKnown OrderAdmissible firstPlaced firstPlaced_eq_none_iff
  firstPlaced_isLeast ranking select)

/-! ## Finite scores -/

theorem Selection.FirstTotal.counts {s : Snapshot} {c : ConstraintSet} {context : PlacementContext}
    {candidates : List (Candidate Float)} (hfinite : ∀ x ∈ candidates, x.score.isFinite = true)
    (h : FirstTotal s c context (ranking candidates) fun t => (t == negInfinity) = false) :
    FirstTotal s c context (ranking candidates) Selection.Counts := by
  intro first hfirst
  have hscores : ∀ t ∈ (first.map (ranking candidates).get).map (·.score), t.isFinite = true := by
    intro t ht
    obtain ⟨x, hx, rfl⟩ := List.mem_map.1 ht
    obtain ⟨i, -, rfl⟩ := List.mem_map.1 hx
    exact hfinite _ (Selection.mem_ranking.1 (List.get_mem _ i))
  exact decide_eq_true (Binary64.negInfinity_lt (Binary64.isNaN_sum hscores) (h first hfirst))

namespace Autoplacer

theorem Stages.finite {a : Autoplacer Float} {s : Snapshot} {subject : Subject}
    {resource : ResourceName} {c : ConstraintSet} {checked : CheckedConstraints}
    {context : PlacementContext} {candidates : List (Candidate Float)}
    (h : a.Stages s subject resource c checked context candidates) :
    ∀ x ∈ candidates, x.score.isFinite = true := by
  intro x hx
  obtain ⟨d, -, p, -, hmade, -⟩ := h.candidate hx
  exact hmade.finite

/-! ## The answer -/

/-- With the first total above minus infinity, something is selected exactly if some places are
admissible; and nothing is placed only if none are, unless the first total is minus infinity. -/
theorem select_complete :
    (∀ (s : Snapshot) (c : ConstraintSet) (context : PlacementContext) (log : Bool)
      (candidates : List (Candidate Float)),
      NodesKnown s context candidates → 0 < c.replicaCount.toNat →
      FirstTotal s c context (ranking candidates) (negInfinity < ·) →
      ((∃ chosen, (select s c context log candidates).result = .ok (some chosen)) ↔
          ∃ places, OrderAdmissible s c context (ranking candidates) places) ∧
        ((¬ ∃ places, OrderAdmissible s c context (ranking candidates) places) →
          (select s c context log candidates).result = .ok none)) ∧
    ∀ (a : Autoplacer Float) (s : Snapshot) (subject : Subject) (resource : ResourceName)
      (c : ConstraintSet), (a.place s subject resource c).result = .ok none →
      ∃ checked context candidates, a.Stages s subject resource c checked context candidates ∧
        (FirstTotal s c context (ranking candidates) (fun t => (t == negInfinity) = false) →
          ¬ ∃ places, OrderAdmissible s c context (ranking candidates) places) := by
  constructor
  · intro s c context log candidates hknown hcount hfirst
    -- What is above the lowest total counts, so it replaces the start of the comparison.
    have hcounts : FirstTotal s c context (ranking candidates) Selection.Counts :=
      fun first hleast => decide_eq_true (hfirst first hleast)
    rcases Selection.select_decides log hknown hcount hcounts with
      ⟨hsome, chosen, hselect⟩ | ⟨hnone, hselect⟩
    · exact ⟨⟨fun _ => hsome, fun _ => ⟨chosen, hselect⟩⟩, fun hnot => absurd hsome hnot⟩
    · refine ⟨⟨?_, fun ⟨places, hplaces⟩ => absurd hplaces (hnone places)⟩, fun _ => hselect⟩
      rintro ⟨chosen, hchosen⟩
      rw [hselect] at hchosen
      cases hchosen
  · intro a s subject resource c hplace
    obtain ⟨checked, context, candidates, hstages, selection, hselect, hr⟩ := place_eq_ok.1 hplace
    obtain rfl : selection = none := Option.map_eq_none_iff.1 hr.symm
    refine ⟨checked, context, candidates, hstages, ?_⟩
    rintro hfirst ⟨places, hplaces⟩
    exact Selection.not_orderAdmissible_of_select hselect (hfirst.counts hstages.finite) places hplaces

/-! ### In one rack of the hall -/

open Snapshot (hall)

def inOneRack (count : UInt64) : ConstraintSet where
  replicaCount := count
  replicasOnSame := [⟨"rack", none⟩]

def evenOffers : List (Candidate Float) := (hall.poolsNamed Snapshot.ssd).map fun p => .ofPool p 1.0

theorem ranking_evenOffers : ranking evenOffers = evenOffers :=
  List.mergeSort_of_pairwise (by decide +kernel)

theorem nodesKnown_evenOffers : NodesKnown hall {} evenOffers := ⟨by decide, nofun⟩

/-- No other node is in the rack of the first one, so the search takes it back. -/
theorem firstPlaced_two : ∃ chosen, firstPlaced hall (inOneRack 2) {} evenOffers = some chosen ∧
    chosen.map (·.candidate) = [evenOffers[1], evenOffers[2]] := ⟨_, rfl, rfl⟩

theorem firstPlaced_three : firstPlaced hall (inOneRack 3) {} evenOffers = none := rfl

theorem stages_evenOffers : uniform.Stages hall systemSubject Snapshot.blog (inOneRack 3)
    ⟨inOneRack 3, none⟩ {} evenOffers where
  checked_eq := rfl
  context_eq := rfl
  may_view := rfl
  candidates_eq := rfl

theorem select_hall_complete :
    (∃ chosen, (select hall (inOneRack 2) {} false evenOffers).result = .ok (some chosen)) ∧
      ∃ checked context candidates,
        uniform.Stages hall systemSubject Snapshot.blog (inOneRack 3) checked context candidates ∧
          (FirstTotal hall (inOneRack 3) context (ranking candidates)
              (fun t => (t == negInfinity) = false) →
            ¬ ∃ places, OrderAdmissible hall (inOneRack 3) context (ranking candidates) places) := by
  constructor
  · obtain ⟨chosen, hplaced, hcandidates⟩ := firstPlaced_two
    rw [← ranking_evenOffers] at hplaced
    obtain ⟨first, hleast, hmap⟩ := firstPlaced_isLeast hplaced
    have hfirst : FirstTotal hall (inOneRack 2) {} (ranking evenOffers) (negInfinity < ·) := by
      intro other hother
      rw [hother.unique hleast, ← hmap, hcandidates]
      decide +kernel
    exact (select_complete.1 _ _ _ _ _ nodesKnown_evenOffers (by decide) hfirst).1.2 ⟨first, hleast.1⟩
  · have hnone : ∀ places, ¬ OrderAdmissible hall (inOneRack 3) {} (ranking evenOffers) places := by
      rw [ranking_evenOffers]
      exact firstPlaced_eq_none_iff.1 firstPlaced_three
    have hselect : (select hall (inOneRack 3) {} uniform.logCandidates evenOffers).result = .ok none := by
      refine (select_complete.1 _ _ _ _ _ nodesKnown_evenOffers (by decide) ?_).2 ?_
      · exact fun first hfirst => absurd hfirst.1 (hnone first)
      · exact fun ⟨places, hplaces⟩ => hnone places hplaces
    exact select_complete.2 _ _ _ _ _ (place_eq_ok.2 ⟨_, _, _, stages_evenOffers, none, hselect, rfl⟩)

end Autoplacer

/-! ## Scores that are not numbers -/

namespace Selection

/-- A score that is not a number never counts, so the only admissible place is passed over. -/
theorem select_onAlpha_nan :
    NodesKnown Snapshot.pair {} [onAlpha (0.0 / 0.0)] ∧ 0 < oneReplica.replicaCount.toNat ∧
      FirstTotal Snapshot.pair oneReplica {} (ranking [onAlpha (0.0 / 0.0)])
        (fun t => (t == negInfinity) = false) ∧
      (∃ places, OrderAdmissible Snapshot.pair oneReplica {} (ranking [onAlpha (0.0 / 0.0)]) places) ∧
      (select Snapshot.pair oneReplica {} false [onAlpha (0.0 / 0.0)]).result = .ok none := by
  have hfollow : MayFollow Snapshot.pair oneReplica {} [] (onAlpha (0.0 / 0.0)) :=
    mayFollow_first nofun nofun
  refine ⟨nodesKnown_onAlpha _, by decide, ?_, ?_, ?_⟩
  · rw [ranking_singleton, firstTotal_singleton_iff rfl]
    intro _
    decide +kernel
  · rw [ranking_singleton]
    exact ⟨[0], (orderAdmissible_singleton_iff rfl).2 ⟨rfl, hfollow⟩⟩
  · rw [select_singleton (nodesKnown_onAlpha _) rfl hfollow, if_neg]
    decide +kernel

end Selection

end ReplicaPlacement
