import ReplicaPlacement.Proofs.Selection.FirstBest

/-!
# Something is selected if anything can be

The search from the top of the ranking finds the first admissible places. If their total counts as
an improvement on none, it is kept until something better replaces it.
-/

namespace ReplicaPlacement.Selection

variable {σ : Type} [Score σ] {filters : Filters} {st : State} {k : Nat} {cs : List (Choice σ)}

theorem isSome_better {best : Option (Best σ)} (h : best.isSome = true)
    (found : Option (List (Choice σ))) : (better best found).isSome = true := by
  cases found with
  | none => exact h
  | some chosen =>
    rw [better, improve_value]
    split
    · rfl
    · exact h

theorem isSome_branchAndBound_value {best : Option (Best σ)} (hst : st.Shaped filters)
    (hcs : ∀ x ∈ cs, x.Shaped filters) (h : best.isSome = true) :
    (branchAndBound filters k st best cs).value.isSome = true := by
  induction cs generalizing best with
  | nil => exact h
  | cons x xs ih =>
    rw [branchAndBound_value_cons hst hcs]
    simp only
    split
    · exact isSome_better h _
    · exact ih (fun y hy => hcs y (List.mem_cons_of_mem _ hy)) (isSome_better h _)

theorem branchAndBound_value_of_none (hst : st.Shaped filters) (hcs : ∀ x ∈ cs, x.Shaped filters)
    (h : firstAdmissible? filters st k cs = none) :
    (branchAndBound filters k st none cs).value = none := by
  cases cs with
  | nil => rfl
  | cons x xs =>
    rw [branchAndBound_value_cons hst hcs, h]
    rfl

theorem branchAndBound_value_of_improves {chosen : List (Choice σ)} (hk : 0 < k)
    (hst : st.Shaped filters) (hcs : ∀ x ∈ cs, x.Shaped filters)
    (h : firstAdmissible? filters st k cs = some chosen)
    (himproves : Score.improves (totalOf chosen) none = true) :
    (branchAndBound filters k st none cs).value.isSome = true := by
  cases cs with
  | nil =>
    rw [firstAdmissible?_of_length_lt hk] at h
    cases h
  | cons x xs =>
    have hbetter : better none (some chosen) = some ⟨chosen, totalOf chosen⟩ := by
      rw [better, improve_value]
      exact if_pos himproves
    rw [branchAndBound_value_cons hst hcs, h]
    simp only [hbetter]
    split
    · rfl
    · exact isSome_branchAndBound_value hst (fun y hy => hcs y (List.mem_cons_of_mem _ hy)) rfl

/-! ## Selecting -/

variable {s : Snapshot} {c : ConstraintSet} {context : PlacementContext} {log : Bool}
  {candidates : List (Candidate σ)}

/-- The total at the lexicographically first admissible places, if there are any, is such. -/
def FirstTotal (s : Snapshot) (c : ConstraintSet) (context : PlacementContext)
    (ranked : List (Candidate σ)) (P : σ → Prop) : Prop :=
  ∀ first, IsLeast {places | OrderAdmissible s c context ranked places} first →
    P (total (first.map ranked.get))

def Counts (t : σ) : Prop := Score.improves t none = true

omit [Score σ] in
theorem shaped_rankedChoices (s : Snapshot) (c : ConstraintSet) (ranked : List (Candidate σ)) :
    ∀ x ∈ rankedChoices s (Filters.ofConstraints c) ranked, x.Shaped (Filters.ofConstraints c) :=
  fun _ hx => shaped_of_mem_rankedChoices hx

theorem isSome_value_of_firstPlaced {ranked : List (Candidate σ)} {chosen : List (Choice σ)}
    (hcount : 0 < c.replicaCount.toNat) (hfirst : FirstTotal s c context ranked Counts)
    (hplaced : firstPlaced s c context ranked = some chosen) :
    (branchAndBound (Filters.ofConstraints c) c.replicaCount.toNat (startState s c context) none
      (rankedChoices s (Filters.ofConstraints c) ranked)).value.isSome = true := by
  obtain ⟨first, hleast, hcandidates⟩ := firstPlaced_isLeast hplaced
  have hcounts := hfirst first hleast
  rw [← hcandidates, total_map_candidate] at hcounts
  exact branchAndBound_value_of_improves hcount shaped_startState (shaped_rankedChoices s c ranked)
    hplaced hcounts

theorem select_decides (log : Bool) (h : NodesKnown s context candidates)
    (hcount : 0 < c.replicaCount.toNat) (hfirst : FirstTotal s c context (ranking candidates) Counts) :
    (∃ places, OrderAdmissible s c context (ranking candidates) places) ∧
        (∃ chosen, (select s c context log candidates).result = .ok (some chosen)) ∨
      (∀ places, ¬ OrderAdmissible s c context (ranking candidates) places) ∧
        (select s c context log candidates).result = .ok none := by
  rw [select_result h hcount]
  cases hplaced : firstPlaced s c context (ranking candidates) with
  | none =>
    refine Or.inr ⟨firstPlaced_eq_none_iff.1 hplaced, ?_⟩
    rw [branchAndBound_value_of_none shaped_startState (shaped_rankedChoices s c _) hplaced]
    rfl
  | some chosen =>
    obtain ⟨first, hleast, -⟩ := firstPlaced_isLeast hplaced
    obtain ⟨b, hb⟩ := Option.isSome_iff_exists.1 (isSome_value_of_firstPlaced hcount hfirst hplaced)
    refine Or.inl ⟨⟨first, hleast.1⟩, b.chosen.map (·.candidate), ?_⟩
    rw [hb]
    rfl

theorem not_orderAdmissible_of_select (hselect : (select s c context log candidates).result = .ok none)
    (hfirst : FirstTotal s c context (ranking candidates) Counts) :
    ∀ places, ¬ OrderAdmissible s c context (ranking candidates) places := by
  rcases select_eq_ok.1 hselect with ⟨-, hr⟩ | ⟨hcount, hr⟩
  · cases hr
  · split at hr
    · -- More places than the ranking has cannot go down.
      rename_i hshort
      intro places hplaces
      have hle := (sublist_finRange_iff.2 hplaces.increasing).length_le
      rw [hplaces.count_eq, List.length_finRange] at hle
      omega
    · obtain ⟨choices, st, hchoices, hst, hr⟩ := hr
      obtain ⟨-, rfl⟩ := choicesOf_eq_ok.1 hchoices
      obtain ⟨-, rfl⟩ := initialState_eq_ok.1 hst
      cases hplaced : firstPlaced s c context (ranking candidates) with
      | none => exact firstPlaced_eq_none_iff.1 hplaced
      | some chosen =>
        obtain ⟨b, hb⟩ := Option.isSome_iff_exists.1
          (isSome_value_of_firstPlaced (Nat.pos_of_ne_zero hcount) hfirst hplaced)
        rw [hb] at hr
        cases hr

/-! ## One candidate -/

variable {x : Candidate σ}

omit [Score σ] in
/-- With no replicas and no pinned value there is nothing yet that a candidate could fail to fit. -/
theorem mayFollow_first (hsame : ∀ f ∈ c.replicasOnSame, f.pinned = none)
    (hdifferent : ∀ f ∈ c.replicasOnDifferent, f.pinned = none) : MayFollow s c {} [] x := by
  have hfree : takenNodes c {} ([] : List (Candidate σ)) = [] := by simp [takenNodes, deployed]
  constructor
  case node_free => simp [hfree]
  case kind_fits => simp [fixedKind]
  case same_fits =>
    intro f hf v hv
    simp [hfree, fixedValue, hsame f hf] at hv
  case different_fits =>
    intro f hf v _
    simp [hfree, claimedValues, hdifferent f hf]

theorem ranking_singleton (x : Candidate σ) : ranking [x] = [x] := List.mergeSort_singleton x

omit [Score σ] in
theorem rejection?_of_mayFollow (hx : MayFollow s c context [] x) :
    (startState s c context).rejection? (Filters.ofConstraints c)
      (⟨0, x, valuesOf s (Filters.ofConstraints c) x.node⟩ : Choice σ) = none := by
  rw [← stateAfter_nil (σ := σ)]
  exact (rejection?_stateAfter rfl).2 hx

theorem select_singleton (h : NodesKnown s context [x]) (hcount : c.replicaCount.toNat = 1)
    (hx : MayFollow s c context [] x) :
    (select s c context log [x]).result =
      .ok (if Score.improves (total [x]) none = true then some [x] else none) := by
  have hfree := rejection?_of_mayFollow hx
  have hshaped := shaped_rankedChoices s c [x]
  have hchoices : rankedChoices s (Filters.ofConstraints c) [x] =
      [⟨0, x, valuesOf s (Filters.ofConstraints c) x.node⟩] := rfl
  have hfound : firstAdmissible? (Filters.ofConstraints c) (startState s c context) 1
      (rankedChoices s (Filters.ofConstraints c) [x]) =
        some (rankedChoices s (Filters.ofConstraints c) [x]) := by
    rw [hchoices]
    simp [firstAdmissible?, hfree]
  rw [hchoices] at hshaped hfound
  rw [select_result h (by omega), ranking_singleton, hcount, hchoices,
    branchAndBound_value_cons shaped_startState hshaped, hfound]
  simp only [List.length_nil, Nat.zero_lt_one, true_or, or_true, if_true, better, improve_value]
  rw [← total_map_candidate]
  simp only [List.map_cons, List.map_nil, Option.map_none]
  split <;> rfl

omit [Score σ] in
theorem orderAdmissible_singleton_iff (hcount : c.replicaCount.toNat = 1)
    {places : List (Fin [x].length)} :
    OrderAdmissible s c context [x] places ↔ places = [0] ∧ MayFollow s c context [] x := by
  constructor
  · rintro ⟨hlength, -, horder⟩
    obtain ⟨i, rfl⟩ := List.length_eq_one_iff.1 (hlength.trans hcount)
    obtain rfl : i = 0 := Subsingleton.elim (α := Fin 1) i 0
    exact ⟨rfl, horder.1⟩
  · rintro ⟨rfl, hx⟩
    exact ⟨hcount.symm, List.pairwise_singleton _ _, hx, trivial⟩

theorem firstTotal_singleton_iff (hcount : c.replicaCount.toNat = 1) {P : σ → Prop} :
    FirstTotal s c context [x] P ↔ (MayFollow s c context [] x → P (total [x])) := by
  constructor
  · intro h hx
    refine h [0] ⟨(orderAdmissible_singleton_iff hcount).2 ⟨rfl, hx⟩, fun places hplaces => ?_⟩
    rw [((orderAdmissible_singleton_iff hcount).1 hplaces).1]
  · intro h first hfirst
    obtain ⟨rfl, hx⟩ := (orderAdmissible_singleton_iff hcount).1 hfirst.1
    exact h hx

/-! ## One candidate on the pair -/

def oneReplica : ConstraintSet where
  replicaCount := 1

def onAlpha (score : Float) : Candidate Float :=
  ⟨Snapshot.ssd, Snapshot.alpha, .lvm, score, some 10⟩

theorem nodesKnown_onAlpha (score : Float) : NodesKnown Snapshot.pair {} [onAlpha score] := by
  refine ⟨?_, fun n hn => absurd hn List.not_mem_nil⟩
  intro x hx
  obtain rfl := List.mem_singleton.1 hx
  exact (by decide : Snapshot.pair.hasNode Snapshot.alpha = true)

end ReplicaPlacement.Selection
