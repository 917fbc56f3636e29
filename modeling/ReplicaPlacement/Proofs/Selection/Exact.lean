import Mathlib.Algebra.Order.BigOperators.Group.List
import Mathlib.Data.String.Defs
import Mathlib.Order.Lattice
import ReplicaPlacement.Selection.Select

/-!
# Exact scores

Scores that are added and compared without rounding, such as rational numbers. A ranking of them
goes down, and the best scores add up to the highest total.
-/

namespace ReplicaPlacement

/-- Numbers without rounding serve as scores. Every total improves on none. -/
instance Score.exact {σ : Type} [AddCommMonoid σ] [LinearOrder σ] [ToString σ] : Score σ where
  zero := 0
  add := (· + ·)
  improves x best := best.all fun b => decide (b < x)
  exhausted bound best := best.any fun b => decide (bound ≤ b)
  ranks a b := decide (b ≤ a)
  isFinite _ := true
  text := toString

namespace Selection

variable {σ : Type} [AddCommMonoid σ] [LinearOrder σ] [ToString σ]

theorem improves_iff {x : σ} {best : Option σ} :
    Score.improves x best = true ↔ ∀ b, best = some b → b < x := by
  cases best <;> simp [Score.improves]

theorem exhausted_iff {bound : σ} {best : Option σ} :
    Score.exhausted bound best = true ↔ ∃ b, best = some b ∧ bound ≤ b := by
  cases best <;> simp [Score.exhausted]

theorem sum_eq (xs : List σ) : Score.sum xs = xs.sum := List.sum_eq_foldl.symm

theorem totalOf_eq (cs : List (Choice σ)) : totalOf cs = (cs.map (·.candidate.score)).sum :=
  sum_eq _

theorem totalOf_cons (x : Choice σ) (chosen : List (Choice σ)) :
    totalOf (x :: chosen) = x.candidate.score + totalOf chosen := by
  rw [totalOf_eq, totalOf_eq, List.map_cons, List.sum_cons]

def Descending (cs : List (Candidate σ)) : Prop := cs.Pairwise fun a b => b.score ≤ a.score

theorem ranks_trans (a b c : Candidate σ) (hab : Score.ranks a.score b.score = true)
    (hbc : Score.ranks b.score c.score = true) : Score.ranks a.score c.score = true :=
  decide_eq_true ((of_decide_eq_true hbc).trans (of_decide_eq_true hab))

theorem ranks_total (a b : Candidate σ) :
    (Score.ranks a.score b.score || Score.ranks b.score a.score) = true := by
  simp only [Score.ranks, Bool.or_eq_true, decide_eq_true_eq]
  exact le_total _ _

theorem descending_ranking (cs : List (Candidate σ)) : Descending (ranking cs) :=
  (List.pairwise_mergeSort ranks_trans ranks_total cs).imp fun h => of_decide_eq_true h

theorem ranking_eq_self {cs : List (Candidate σ)} (h : Descending cs) : ranking cs = cs :=
  List.mergeSort_of_pairwise (h.imp decide_eq_true)

variable [IsOrderedAddMonoid σ]

omit [ToString σ] in
theorem sum_le_sum_take {xs chosen : List σ} (hxs : xs.Pairwise fun a b => b ≤ a)
    (h : chosen.Sublist xs) : chosen.sum ≤ (xs.take chosen.length).sum := by
  induction xs generalizing chosen with
  | nil =>
    cases List.sublist_nil.1 h
    exact le_refl _
  | cons x xs ih =>
    cases chosen with
    | nil => exact le_refl _
    | cons y chosen =>
      obtain ⟨hx, hxs⟩ := List.pairwise_cons.1 hxs
      have hyx : y ≤ x := by
        rcases List.mem_cons.1 (h.subset List.mem_cons_self) with rfl | hy
        · exact le_refl _
        · exact hx y hy
      rw [List.length_cons, List.take_succ_cons, List.sum_cons, List.sum_cons]
      exact add_le_add hyx (ih hxs h.tail)

end Selection

end ReplicaPlacement
