import ReplicaPlacement.Proofs.Selection.Complete
import ReplicaPlacement.Proofs.Selection.Exact

/-!
# More candidates

A stable sort of more candidates keeps the order of those that were there before. So candidates that
could be selected one after another still can, whatever is added between them.
-/

namespace ReplicaPlacement.Selection

section Sorting

variable {α : Type} {le : α → α → Bool} (htrans : ∀ a b c, le a b = true → le b c = true → le a c = true)
  (htotal : ∀ a b, (le a b || le b a) = true)

include htrans htotal

/-- A new head goes right behind what ranks strictly above it. -/
theorem mergeSort_cons_eq (a : α) (xs : List α) : (a :: xs).mergeSort le =
    (xs.mergeSort le).filter (fun b => !le a b) ++ a :: (xs.mergeSort le).filter (le a) := by
  obtain ⟨above, below, hcons, hxs, habove⟩ := List.mergeSort_cons htrans htotal a xs
  have hsorted := List.pairwise_mergeSort htrans htotal (a :: xs)
  rw [hcons] at hsorted
  have hbelow : ∀ b ∈ below, le a b = true := by
    intro b hb
    exact (List.pairwise_cons.1 (List.pairwise_append.1 hsorted).2.1).1 b hb
  have habove' : above.filter (le a) = [] := by
    apply List.filter_eq_nil_iff.2
    intro b hb
    simpa using habove b hb
  have hbelow' : below.filter (fun b => !le a b) = [] := by
    apply List.filter_eq_nil_iff.2
    intro b hb
    simpa using hbelow b hb
  rw [hcons, hxs, List.filter_append, List.filter_append, List.filter_eq_self.2 habove, hbelow', habove',
    List.filter_eq_self.2 hbelow, List.append_nil, List.nil_append]

theorem mergeSort_sublist {xs ys : List α} (h : xs.Sublist ys) :
    (xs.mergeSort le).Sublist (ys.mergeSort le) := by
  induction h with
  | slnil => exact List.Sublist.refl _
  | cons a h ih =>
    obtain ⟨above, below, hcons, hys, -⟩ := List.mergeSort_cons htrans htotal a _
    rw [hcons]
    rw [hys] at ih
    exact ih.trans ((List.sublist_cons_self a below).append_left above)
  | cons_cons a h ih =>
    rw [mergeSort_cons_eq htrans htotal, mergeSort_cons_eq htrans htotal]
    exact (ih.filter _).append ((ih.filter _).cons_cons a)

end Sorting

variable {σ : Type} [AddCommMonoid σ] [LinearOrder σ] [ToString σ] {s : Snapshot} {c : ConstraintSet}
  {context : PlacementContext} {candidates more : List (Candidate σ)}

theorem ranking_sublist (h : candidates.Sublist more) : (ranking candidates).Sublist (ranking more) :=
  mergeSort_sublist (fun a b c => ranks_trans a b c) (fun a b => ranks_total a b) h

omit [AddCommMonoid σ] [LinearOrder σ] [ToString σ] in
theorem exists_orderAdmissible {ranked chosen : List (Candidate σ)} (hsub : chosen.Sublist ranked)
    (hcount : chosen.length = c.replicaCount.toNat) (horder : InOrder s c context [] chosen) :
    ∃ places, OrderAdmissible s c context ranked places := by
  rw [← List.map_get_finRange ranked] at hsub
  obtain ⟨places, hplaces, rfl⟩ := List.sublist_map_iff.1 hsub
  rw [List.length_map] at hcount
  exact ⟨places, hcount, sublist_finRange_iff.1 hplaces, horder⟩

theorem exists_select_of_sublist {log : Bool} {chosen : List (Candidate σ)}
    (h : candidates.Sublist more) (hknown : NodesKnown s context more)
    (hselect : (select s c context log candidates).result = .ok (some chosen)) :
    ∃ chosen', (select s c context log more).result = .ok (some chosen') := by
  by_cases hzero : c.replicaCount.toNat = 0
  · exact ⟨[], select_eq_ok.2 (Or.inl ⟨hzero, rfl⟩)⟩
  · obtain ⟨hsub, hcount, horder⟩ := select_sound hselect
    have hplaces := exists_orderAdmissible (hsub.trans (ranking_sublist h)) hcount horder
    -- Without rounding every total is better than none.
    have hfirst : FirstTotal s c context (ranking more) Counts := fun _ _ => rfl
    rcases select_decides log hknown (Nat.pos_of_ne_zero hzero) hfirst with ⟨-, hsome⟩ | ⟨hnone, -⟩
    · exact hsome
    · obtain ⟨places, hplaces⟩ := hplaces
      exact absurd hplaces (hnone places)

end ReplicaPlacement.Selection
