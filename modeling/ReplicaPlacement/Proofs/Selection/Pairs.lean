import ReplicaPlacement.Proofs.Selection.FirstBest

/-!
# One or two replicas are selected best

Whatever the constraints are, a selection of at most two candidates has the highest total of all
admissible ones. Each candidate that can come first is where one of the searches starts, and of
those that can come second the search takes the one that ranks highest.
-/

namespace ReplicaPlacement.Selection

variable {σ : Type} [AddCommMonoid σ] [LinearOrder σ] [ToString σ] [IsOrderedAddMonoid σ]
  {filters : Filters} {st : State} {k : Nat} {cs chosen : List (Choice σ)}

/-- As long as one candidate is missing at most, none that may join ranks above what is found. -/
theorem exists_found_of_selectable (hk : k ≤ 1)
    (hdesc : cs.Pairwise fun a b => b.candidate.score ≤ a.candidate.score)
    (h : Selectable filters st k cs chosen) :
    ∃ found, firstAdmissible? filters st k cs = some found ∧ totalOf chosen ≤ totalOf found := by
  obtain rfl | rfl : k = 0 ∨ k = 1 := by omega
  · obtain rfl : chosen = [] := List.eq_nil_of_length_eq_zero h.count_eq
    exact ⟨[], by rw [firstAdmissible?], le_refl _⟩
  · obtain ⟨y, rfl⟩ := List.length_eq_one_iff.1 h.count_eq
    induction cs with
    | nil => cases h.sublist
    | cons x xs ih =>
      obtain ⟨hx, hxs⟩ := List.pairwise_cons.1 hdesc
      cases hreject : st.rejection? filters x with
      | none =>
        refine ⟨[x], by simp [firstAdmissible?, hreject], ?_⟩
        rw [totalOf_cons, totalOf_cons]
        refine add_le_add ?_ (le_refl _)
        rcases List.mem_cons.1 (h.sublist.subset List.mem_cons_self) with rfl | hy
        · exact le_refl _
        · exact hx y hy
      | some reason =>
        -- The head may not join, so it is not the one that was chosen.
        rcases selectable_cons_iff.1 h with htail | ⟨hnone, -⟩
        · obtain ⟨found, hfound, hle⟩ := ih hxs htail
          exact ⟨found, by rw [firstAdmissible?, hreject, hfound], hle⟩
        · rw [hreject] at hnone
          cases hnone

theorem exists_start_of_selectable (hk : k ≤ 1)
    (hdesc : cs.Pairwise fun a b => b.candidate.score ≤ a.candidate.score)
    (h : Selectable filters st (k + 1) cs chosen) :
    ∃ start found, foundAt filters (k + 1) st cs start = some found ∧
      totalOf chosen ≤ totalOf found := by
  induction cs with
  | nil =>
    obtain rfl := List.sublist_nil.1 h.sublist
    cases h.count_eq
  | cons x xs ih =>
    have hxs := (List.pairwise_cons.1 hdesc).2
    rcases selectable_cons_iff.1 h with htail | ⟨hx, rest, rfl, hrest⟩
    · obtain ⟨start, found, hfound, hle⟩ := ih hxs htail
      exact ⟨start + 1, found, hfound, hle⟩
    · obtain ⟨found, hfound, hle⟩ := exists_found_of_selectable hk hxs hrest
      refine ⟨0, x :: found, by simp [foundAt, firstAdmissible?, hx, hfound], ?_⟩
      rw [totalOf_cons, totalOf_cons]
      exact add_le_add (le_refl _) hle

variable {s : Snapshot} {c : ConstraintSet} {context : PlacementContext} {log : Bool}
  {candidates : List (Candidate σ)}

/-- With one or two replicas, and under any constraints, the selection is admissible and has the
highest total of all that are. Nothing is selected only if nothing is admissible. -/
theorem select_optimal_of_le_two (hknown : NodesKnown s context candidates)
    (hcount : c.replicaCount ≤ 2) :
    (∃ places, OrderAdmissible s c context (ranking candidates) places ∧
        (select s c context log candidates).result =
          .ok (some (places.map (ranking candidates).get)) ∧
        ∀ other, OrderAdmissible s c context (ranking candidates) other →
          total (other.map (ranking candidates).get) ≤
            total (places.map (ranking candidates).get)) ∨
      (select s c context log candidates).result = .ok none ∧
        ∀ other, ¬ OrderAdmissible s c context (ranking candidates) other := by
  have hle : c.replicaCount.toNat ≤ 2 := UInt64.le_iff_toNat_le.1 hcount
  rcases Nat.eq_zero_or_pos c.replicaCount.toNat with hzero | hpos
  · -- Without replicas there is only the empty selection.
    refine Or.inl ⟨[], ⟨hzero.symm, .nil, trivial⟩, select_eq_ok.2 (Or.inl ⟨hzero, rfl⟩), ?_⟩
    intro other hother
    obtain rfl : other = [] := List.eq_nil_of_length_eq_zero (hother.count_eq.trans hzero)
    exact le_refl _
  · obtain ⟨k, hk⟩ : ∃ k, c.replicaCount.toNat = k + 1 := Nat.exists_eq_add_one.2 hpos
    have hfind {other : List (Fin (ranking candidates).length)}
        (hother : OrderAdmissible s c context (ranking candidates) other) :
        ∃ start found, foundAt (Filters.ofConstraints c) c.replicaCount.toNat
          (startState s c context) (rankedChoices s (Filters.ofConstraints c) (ranking candidates))
          start = some found ∧ total (other.map (ranking candidates).get) ≤ totalOf found := by
      have hselectable := hother.selectable
      rw [← total_choiceAt, hk] at *
      exact exists_start_of_selectable (by omega) rankedChoices_descending hselectable
    rcases select_cases (c := c) hknown hpos with
      ⟨hnone, hselect⟩ | ⟨start, chosen, hfirst, hselect⟩
    · refine Or.inr ⟨hselect, fun other hother => ?_⟩
      obtain ⟨start, found, hfound, -⟩ := hfind hother
      rw [hnone] at hfound
      cases hfound
    · have hchosen := selectable_of_firstAdmissible? hfirst.found_there
      -- Found from a place on, it is admissible on the whole ranking.
      have hwhole : Selectable _ _ _ _ chosen :=
        ⟨hchosen.sublist.trans (List.drop_sublist start _), hchosen.count_eq, hchosen.joins⟩
      obtain ⟨places, hplaces, rfl⟩ := hwhole.exists_places
      rw [candidates_choiceAt] at hselect
      refine Or.inl ⟨places, hplaces, hselect, fun other hother => ?_⟩
      obtain ⟨start', found, hfound, htotal⟩ := hfind hother
      have hhighest := hfirst.highest start' found hfound
      rw [total_choiceAt] at hhighest
      exact htotal.trans hhighest

def zoneRackAndRow : ConstraintSet where
  replicasOnSame := [⟨"zone", none⟩]
  replicasOnDifferent := [⟨"rack", none⟩, ⟨"row", some "r1"⟩]

theorem select_pair_optimal_of_le_two :
    let ranked : List (Candidate ℚ) := ranking (pairCandidates (1 / 2) (3 / 2))
    (∃ places, OrderAdmissible Snapshot.pair zoneRackAndRow {} ranked places ∧
        (select Snapshot.pair zoneRackAndRow {} false
          (pairCandidates (1 / 2 : ℚ) (3 / 2))).result = .ok (some (places.map ranked.get)) ∧
        ∀ other, OrderAdmissible Snapshot.pair zoneRackAndRow {} ranked other →
          total (other.map ranked.get) ≤ total (places.map ranked.get)) ∨
      (select Snapshot.pair zoneRackAndRow {} false
          (pairCandidates (1 / 2 : ℚ) (3 / 2))).result = .ok none ∧
        ∀ other, ¬ OrderAdmissible Snapshot.pair zoneRackAndRow {} ranked other :=
  select_optimal_of_le_two (nodesKnown_pair _ _) (by decide)

end ReplicaPlacement.Selection
