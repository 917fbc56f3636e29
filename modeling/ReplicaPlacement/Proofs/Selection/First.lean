import Mathlib.Data.List.FinRange
import Mathlib.Data.List.Lex
import Mathlib.Data.List.Sort
import Mathlib.Order.Bounds.Basic
import ReplicaPlacement.Proofs.Selection.Rules
import ReplicaPlacement.Proofs.Selection.Search

/-!
# The search finds the first admissible places

Of all ways to choose so many candidates in the order of the ranking, each admissible behind the
ones before, the search finds the lexicographically first. It finds nothing only if there is no
such way.
-/

namespace ReplicaPlacement.Selection

variable {σ : Type} {filters : Filters} {st : State} {k : Nat} {cs chosen : List (Choice σ)}

/-! ## Soundness and completeness -/

def Joins (filters : Filters) : State → List (Choice σ) → Prop
  | _, [] => True
  | st, x :: xs => st.rejection? filters x = none ∧ Joins filters (st.add x) xs

/-- So many candidates of the list, in its order, that may join one after another. -/
structure Selectable (filters : Filters) (st : State) (k : Nat) (cs chosen : List (Choice σ)) :
    Prop where
  sublist : chosen.Sublist cs
  count_eq : chosen.length = k
  joins : Joins filters st chosen

theorem Selectable.cons {x : Choice σ} (hx : st.rejection? filters x = none)
    (h : Selectable filters (st.add x) k cs chosen) :
    Selectable filters st (k + 1) (x :: cs) (x :: chosen) :=
  ⟨h.sublist.cons_cons x, congrArg (· + 1) h.count_eq, hx, h.joins⟩

theorem Selectable.skip {x : Choice σ} (h : Selectable filters st k cs chosen) :
    Selectable filters st k (x :: cs) chosen :=
  ⟨h.sublist.cons x, h.count_eq, h.joins⟩

theorem selectable_cons_iff {x : Choice σ} :
    Selectable filters st (k + 1) (x :: cs) chosen ↔
      Selectable filters st (k + 1) cs chosen ∨ st.rejection? filters x = none ∧
        ∃ rest, chosen = x :: rest ∧ Selectable filters (st.add x) k cs rest := by
  constructor
  · rintro ⟨hsub, hlen, hjoins⟩
    cases hsub with
    | cons _ hsub => exact Or.inl ⟨hsub, hlen, hjoins⟩
    | cons_cons _ hsub =>
      exact Or.inr ⟨hjoins.1, _, rfl, hsub, Nat.succ.inj hlen, hjoins.2⟩
  · rintro (h | ⟨hx, rest, rfl, h⟩)
    · exact h.skip
    · exact h.cons hx

theorem firstAdmissible?_cons (st : State) (k : Nat) (x : Choice σ) (cs : List (Choice σ)) :
    firstAdmissible? filters st (k + 1) (x :: cs) =
      ((if (st.rejection? filters x).isNone then
        (firstAdmissible? filters (st.add x) k cs).map fun chosen => x :: chosen else none) <|>
          firstAdmissible? filters st (k + 1) cs) := by
  rw [firstAdmissible?]
  cases st.rejection? filters x with
  | some reason => rfl
  | none =>
    simp only [Option.isNone_none, if_true]
    cases firstAdmissible? filters (st.add x) k cs <;> rfl

theorem selectable_of_firstAdmissible? (h : firstAdmissible? filters st k cs = some chosen) :
    Selectable filters st k cs chosen := by
  induction cs generalizing st k chosen with
  | nil =>
    cases k with
    | zero =>
      cases h
      exact ⟨List.nil_sublist _, rfl, trivial⟩
    | succ k => cases h
  | cons x cs ih =>
    cases k with
    | zero =>
      cases h
      exact ⟨List.nil_sublist _, rfl, trivial⟩
    | succ k =>
      unfold firstAdmissible? at h
      split at h
      · exact (ih h).skip
      · rename_i hx
        split at h
        · rename_i rest hrest
          cases h
          exact (ih hrest).cons hx
        · exact (ih h).skip

theorem firstAdmissible?_eq_none_iff :
    firstAdmissible? filters st k cs = none ↔ ∀ chosen, ¬ Selectable filters st k cs chosen := by
  refine ⟨?_, fun h => ?_⟩
  · -- Whatever is selected takes the head or not, and the search has tried both.
    intro h
    induction cs generalizing st k with
    | nil =>
      rintro chosen ⟨hsub, hlen, -⟩
      cases List.sublist_nil.1 hsub
      cases hlen
      cases h
    | cons x cs ih =>
      intro chosen hc
      cases k with
      | zero => cases h
      | succ k =>
        unfold firstAdmissible? at h
        rcases selectable_cons_iff.1 hc with hc | ⟨hx, rest, rfl, hrest⟩
        · split at h
          · exact ih h chosen hc
          · split at h
            · cases h
            · exact ih h chosen hc
        · rw [hx] at h
          simp only at h
          split at h
          · cases h
          · rename_i hnone
            exact ih hnone rest hrest
  · cases hf : firstAdmissible? filters st k cs with
    | none => rfl
    | some chosen => exact absurd (selectable_of_firstAdmissible? hf) (h chosen)

/-! ## The first in lexicographic order -/

theorem nil_le {ι : Type} [LinearOrder ι] (places : List ι) : [] ≤ places := by
  cases places with
  | nil => exact le_refl _
  | cons i places => exact le_of_lt List.Lex.nil

section Earliest

variable {ι : Type} [LinearOrder ι] {f : ι → Choice σ} {places first : List ι}

/-- No places whose candidates may join one after another stand before these. -/
structure Earliest (filters : Filters) (st : State) (k : Nat) (f : ι → Choice σ)
    (places first : List ι) : Prop where
  sublist : first.Sublist places
  least : ∀ other : List ι, other.Sublist places → other.length = k →
    Joins filters st (other.map f) → first ≤ other

theorem earliest_nil : Earliest filters st 0 f places [] :=
  ⟨List.nil_sublist _, fun other _ _ _ => nil_le other⟩

theorem Earliest.skip {i : ι} (h : Earliest filters st k f places first)
    (hnot : ∀ rest : List ι, rest.Sublist places → rest.length + 1 = k →
      ¬ Joins filters st ((i :: rest).map f)) :
    Earliest filters st k f (i :: places) first := by
  refine ⟨h.sublist.cons i, fun other hother hlen hjoins => ?_⟩
  cases hother with
  | cons _ hother => exact h.least other hother hlen hjoins
  | cons_cons _ hother => exact absurd hjoins (hnot _ hother hlen)

theorem Earliest.cons {i : ι} (hi : ∀ j ∈ places, i < j)
    (h : Earliest filters (st.add (f i)) k f places first) :
    Earliest filters st (k + 1) f (i :: places) (i :: first) := by
  refine ⟨h.sublist.cons_cons i, fun other hother hlen hjoins => ?_⟩
  cases hother with
  | cons _ hother =>
    cases other with
    | nil => cases hlen
    | cons j other => exact le_of_lt (List.Lex.rel (hi j (hother.subset List.mem_cons_self)))
  | cons_cons _ hother =>
    exact List.cons_le_cons i (h.least _ hother (Nat.succ.inj hlen) hjoins.2)

theorem firstAdmissible?_earliest (hplaces : places.Pairwise (· < ·))
    (h : firstAdmissible? filters st k (places.map f) = some chosen) :
    ∃ first, Earliest filters st k f places first ∧ chosen = first.map f := by
  induction places generalizing st k chosen with
  | nil =>
    cases k with
    | zero =>
      cases h
      exact ⟨[], earliest_nil, rfl⟩
    | succ k => cases h
  | cons i places ih =>
    obtain ⟨hi, hplaces⟩ := List.pairwise_cons.1 hplaces
    cases k with
    | zero =>
      cases h
      exact ⟨[], earliest_nil, rfl⟩
    | succ k =>
      rw [List.map_cons] at h
      unfold firstAdmissible? at h
      split at h
      · -- The head may not join, so no places begin with it.
        rename_i reason hx
        obtain ⟨first, hfirst, hchosen⟩ := ih hplaces h
        refine ⟨first, hfirst.skip ?_, hchosen⟩
        rintro rest - - ⟨hnone, -⟩
        rw [hx] at hnone
        cases hnone
      · split at h
        · rename_i rest hrest
          cases h
          obtain ⟨first, hfirst, rfl⟩ := ih hplaces hrest
          exact ⟨i :: first, hfirst.cons hi, rfl⟩
        · -- Behind the head nothing is found, so no places begin with it either.
          rename_i hrest
          obtain ⟨first, hfirst, hchosen⟩ := ih hplaces h
          refine ⟨first, hfirst.skip fun rest hsub hlen hjoins => ?_, hchosen⟩
          refine firstAdmissible?_eq_none_iff.1 hrest (rest.map f) ⟨hsub.map f, ?_, hjoins.2⟩
          rw [List.length_map]
          exact Nat.succ.inj hlen

end Earliest

/-! ## On a ranking -/

variable {s : Snapshot} {c : ConstraintSet} {context : PlacementContext}

theorem joins_stateAfter {earlier : List (Candidate σ)}
    (hv : ∀ x ∈ chosen, x.values = valuesOf s (Filters.ofConstraints c) x.candidate.node) :
    Joins (Filters.ofConstraints c) (stateAfter s c context earlier) chosen ↔
      InOrder s c context earlier (chosen.map (·.candidate)) := by
  induction chosen generalizing earlier with
  | nil => exact Iff.rfl
  | cons x xs ih =>
    obtain ⟨hx, hxs⟩ := List.forall_mem_cons.1 hv
    unfold Joins
    rw [rejection?_stateAfter hx, add_stateAfter hx, ih hxs]
    rfl

def choiceAt (s : Snapshot) (filters : Filters) (ranked : List (Candidate σ))
    (i : Fin ranked.length) : Choice σ :=
  ⟨i, ranked.get i, valuesOf s filters (ranked.get i).node⟩

theorem rankedChoices_eq (s : Snapshot) (filters : Filters) (ranked : List (Candidate σ)) :
    rankedChoices s filters ranked = (List.finRange ranked.length).map (choiceAt s filters ranked) := by
  unfold rankedChoices
  apply List.ext_getElem
  · simp
  · intro i h1 h2
    simp [choiceAt]

theorem map_candidate_rankedChoices (ranked : List (Candidate σ)) :
    (rankedChoices s filters ranked).map (·.candidate) = ranked := by
  rw [rankedChoices_eq, List.map_map]
  exact List.map_get_finRange ranked

theorem shaped_of_mem_rankedChoices {ranked : List (Candidate σ)} {x : Choice σ}
    (h : x ∈ rankedChoices s filters ranked) : x.Shaped filters := by
  obtain ⟨y, -, rfl⟩ := List.mem_map.1 h
  constructor <;> simp [valuesOf]

theorem shaped_startState : (startState s c context).Shaped (Filters.ofConstraints c) := by
  constructor <;> simp [startState, stateOf, Filters.ofConstraints]

theorem values_of_mem_rankedChoices {ranked : List (Candidate σ)} {x : Choice σ}
    (h : x ∈ rankedChoices s filters ranked) : x.values = valuesOf s filters x.candidate.node := by
  obtain ⟨y, -, rfl⟩ := List.mem_map.1 h
  rfl

theorem mem_drop_finRange {n start : Nat} {i : Fin n} :
    i ∈ (List.finRange n).drop start ↔ start ≤ i.val := by
  rw [List.mem_drop_iff_getElem]
  constructor
  · rintro ⟨j, hj, rfl⟩
    simp
  · intro h
    refine ⟨i.val - start, by simp; omega, ?_⟩
    ext
    simp
    omega

theorem sublist_drop_finRange_iff {n start : Nat} {places : List (Fin n)} :
    places.Sublist ((List.finRange n).drop start) ↔
      places.Pairwise (· < ·) ∧ ∀ i ∈ places, start ≤ i.val := by
  have hincreasing : ((List.finRange n).drop start).Pairwise (· < ·) :=
    (List.pairwise_lt_finRange n).sublist (List.drop_sublist _ _)
  constructor
  · intro h
    exact ⟨hincreasing.sublist h, fun i hi => mem_drop_finRange.1 (h.subset hi)⟩
  · rintro ⟨h, hstart⟩
    have hnodup : places.Nodup := h.imp fun hlt => ne_of_lt hlt
    have hsub : places.Subperm ((List.finRange n).drop start) :=
      List.subperm_of_subset hnodup fun i hi => mem_drop_finRange.2 (hstart i hi)
    exact List.sublist_of_subperm_of_pairwise hsub h hincreasing

theorem sublist_finRange_iff {n : Nat} {places : List (Fin n)} :
    places.Sublist (List.finRange n) ↔ places.Pairwise (· < ·) := by
  have h := @sublist_drop_finRange_iff n 0 places
  simpa using h

variable {ranked : List (Candidate σ)}

theorem candidates_choiceAt (places : List (Fin ranked.length)) :
    (places.map (choiceAt s filters ranked)).map (·.candidate) = places.map ranked.get := by
  rw [List.map_map]
  rfl

theorem joins_choiceAt {places : List (Fin ranked.length)} :
    Joins (Filters.ofConstraints c) (startState s c context)
        (places.map (choiceAt s (Filters.ofConstraints c) ranked)) ↔
      InOrder s c context [] (places.map ranked.get) := by
  rw [← stateAfter_nil (σ := σ), joins_stateAfter, candidates_choiceAt]
  intro x hx
  obtain ⟨i, -, rfl⟩ := List.mem_map.1 hx
  rfl

theorem OrderAdmissible.selectable {places : List (Fin ranked.length)}
    (h : OrderAdmissible s c context ranked places) :
    Selectable (Filters.ofConstraints c) (startState s c context) c.replicaCount.toNat
      (rankedChoices s (Filters.ofConstraints c) ranked)
      (places.map (choiceAt s (Filters.ofConstraints c) ranked)) := by
  rw [rankedChoices_eq]
  refine ⟨(sublist_finRange_iff.2 h.increasing).map _, ?_, joins_choiceAt.2 h.in_order⟩
  rw [List.length_map, h.count_eq]

theorem Selectable.exists_places
    (h : Selectable (Filters.ofConstraints c) (startState s c context) c.replicaCount.toNat
      (rankedChoices s (Filters.ofConstraints c) ranked) chosen) :
    ∃ places, OrderAdmissible s c context ranked places ∧
      chosen = places.map (choiceAt s (Filters.ofConstraints c) ranked) := by
  obtain ⟨hsub, hcount, hjoins⟩ := h
  rw [rankedChoices_eq] at hsub
  obtain ⟨places, hplaces, rfl⟩ := List.sublist_map_iff.1 hsub
  rw [List.length_map] at hcount
  exact ⟨places, ⟨hcount, sublist_finRange_iff.1 hplaces, joins_choiceAt.1 hjoins⟩, rfl⟩

def firstPlaced (s : Snapshot) (c : ConstraintSet) (context : PlacementContext)
    (ranked : List (Candidate σ)) : Option (List (Choice σ)) :=
  firstAdmissible? (Filters.ofConstraints c) (startState s c context) c.replicaCount.toNat
    (rankedChoices s (Filters.ofConstraints c) ranked)

theorem firstPlaced_eq_none_iff :
    firstPlaced s c context ranked = none ↔
      ∀ places, ¬ OrderAdmissible s c context ranked places := by
  unfold firstPlaced
  rw [firstAdmissible?_eq_none_iff]
  constructor
  · exact fun h places hplaces => h _ hplaces.selectable
  · intro h chosen hchosen
    obtain ⟨places, hplaces, -⟩ := hchosen.exists_places
    exact h places hplaces

theorem firstPlaced_isLeast (h : firstPlaced s c context ranked = some chosen) :
    ∃ first, IsLeast {places | OrderAdmissible s c context ranked places} first ∧
      chosen.map (·.candidate) = first.map ranked.get := by
  unfold firstPlaced at h
  rw [rankedChoices_eq] at h
  obtain ⟨first, hfirst, rfl⟩ := firstAdmissible?_earliest (List.pairwise_lt_finRange _) h
  have hfound := selectable_of_firstAdmissible? h
  have hcount := hfound.count_eq
  rw [List.length_map] at hcount
  refine ⟨first, ⟨⟨hcount, sublist_finRange_iff.1 hfirst.sublist, joins_choiceAt.1 hfound.joins⟩, ?_⟩,
    candidates_choiceAt first⟩
  rintro other ⟨hlen, hplaces, hjoins⟩
  exact hfirst.least other (sublist_finRange_iff.2 hplaces) hlen (joins_choiceAt.2 hjoins)

end ReplicaPlacement.Selection
