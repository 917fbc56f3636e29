import ReplicaPlacement.Constraint.Exclusion
import ReplicaPlacement.Proofs.Cluster.WellFormed

/-!
# Which candidates are kept

Candidates that pass the constraints are among those collected, belong to the forced pool, have no
excluded resource in their pool, and stand on nodes with every pinned value. That holds whether
excluded resources were kept off nodes or, because no candidate was left, only off pools.
-/

namespace ReplicaPlacement

/-! ## Checked constraints -/

theorem ConstraintSet.check_eq_ok {c : ConstraintSet} {language : PatternLanguage}
    {checked : CheckedConstraints} (h : c.check language = .ok checked) :
    checked.constraints = c ∧ checked.pattern = c.notPlaceWithPattern.bind language := by
  unfold ConstraintSet.check at h
  obtain ⟨_, -, h⟩ := Outcome.bind_eq_ok.1 h
  cases hpattern : c.notPlaceWithPattern with
  | none =>
    rw [hpattern] at h
    cases h
    exact ⟨rfl, rfl⟩
  | some text =>
    rw [hpattern] at h
    simp only at h
    cases htest : language text with
    | none =>
      rw [htest] at h
      cases h
    | some test =>
      rw [htest] at h
      cases h
      exact ⟨rfl, htest.symm⟩

namespace CheckedConstraints

variable {σ : Type} {c : CheckedConstraints} {s : Snapshot} {x : Candidate σ}

/-! ## Excluded resources -/

/-- Resources of this identity are excluded: by name, or as a registered one that the pattern
matches. -/
def Excludes (c : CheckedConstraints) (s : Snapshot) (key : String) : Prop :=
  (∃ n ∈ c.constraints.notPlaceWith, n.key = key) ∨
    ∃ test, c.pattern = some test ∧ ∃ n ∈ s.resources, test n.text = true ∧ n.key = key

theorem contains_excludedResources {key : String} :
    Ordered.contains Name.key key (c.excludedResources s) = true ↔ c.Excludes s key := by
  rw [Ordered.contains_iff]
  unfold excludedResources Excludes
  cases c.pattern with
  | none => simp [Ordered.exists_mem_ofList_iff]
  | some test =>
    simp only
    rw [Ordered.exists_mem_foldl_insert_iff, Ordered.exists_mem_ofList_iff]
    simp [List.mem_filter, and_assoc]

theorem anyExcluded_eq_false {excluded resources : List ResourceName} :
    anyExcluded excluded resources = false ↔
      ∀ r ∈ resources, Ordered.contains Name.key r.key excluded = false := by
  simp [anyExcluded]

theorem resourcesIn_subset {node : NodeName} {pool : PoolName} :
    ∀ r ∈ s.resourcesIn node pool, r ∈ s.resourcesOn node := by
  intro r hr
  obtain ⟨replica, hreplica, rfl⟩ := List.mem_map.1 hr
  exact List.mem_map_of_mem (List.mem_filter.1 hreplica).1

theorem keepApart_value (cs : List (Candidate σ)) : (c.keepApart s cs).value =
    if (c.excludedResources s).isEmpty then cs
    else if (cs.filter (onFreeNode s (c.excludedResources s))).isEmpty then
      cs.filter (inFreePool s (c.excludedResources s))
    else cs.filter (onFreeNode s (c.excludedResources s)) := by
  unfold keepApart
  simp only
  cases (c.excludedResources s).isEmpty with
  | true => rfl
  | false =>
    cases (cs.filter (onFreeNode s (c.excludedResources s))).isEmpty <;> simp [Traced.value_bind]

theorem mem_keepApart {cs : List (Candidate σ)} (h : x ∈ (c.keepApart s cs).value) :
    x ∈ cs ∧ ∀ r ∈ s.resourcesIn x.node x.pool, ¬ c.Excludes s r.key := by
  have hpool (hfree : anyExcluded (c.excludedResources s) (s.resourcesIn x.node x.pool) = false) :
      ∀ r ∈ s.resourcesIn x.node x.pool, ¬ c.Excludes s r.key := by
    intro r hr hexcluded
    have hnot := anyExcluded_eq_false.1 hfree r hr
    rw [contains_excludedResources.2 hexcluded] at hnot
    cases hnot
  rw [keepApart_value] at h
  split at h
  · -- Nothing is excluded.
    rename_i hempty
    refine ⟨h, hpool ?_⟩
    rw [List.isEmpty_iff.1 hempty]
    exact anyExcluded_eq_false.2 fun _ _ => rfl
  · split at h
    · obtain ⟨hx, hfree⟩ := List.mem_filter.1 h
      exact ⟨hx, hpool (by simpa [inFreePool] using hfree)⟩
    · obtain ⟨hx, hfree⟩ := List.mem_filter.1 h
      refine ⟨hx, hpool (anyExcluded_eq_false.2 fun r hr => ?_)⟩
      have hnode : anyExcluded (c.excludedResources s) (s.resourcesOn x.node) = false := by
        simpa [onFreeNode] using hfree
      exact anyExcluded_eq_false.1 hnode r (resourcesIn_subset r hr)

/-! ## The other constraints -/

theorem mem_eligible {groups : List (CandidateGroup σ)} (h : x ∈ c.eligible groups) :
    ∃ g ∈ groups, x ∈ g.candidates ∧
      ∀ forced, c.constraints.forcedPool = some forced → forced.key = g.name.key := by
  obtain ⟨g, hg, hx⟩ := List.mem_flatMap.1 h
  obtain ⟨hg, hforced⟩ := List.mem_filter.1 hg
  refine ⟨g, hg, hx, fun forced heq => ?_⟩
  rw [heq] at hforced
  exact Name.same_iff.1 hforced

variable [Score σ]

theorem keepPinned_value (fs : List PropertyFilter) (cs : List (Candidate σ)) :
    (keepPinned s fs cs).value = cs.filter fun x => (mismatch? s fs x).isNone := by
  induction cs with
  | nil => rfl
  | cons y cs ih =>
    unfold keepPinned
    cases hy : mismatch? s fs y with
    | none =>
      rw [List.filter_cons_of_pos (by simp [hy]), ← ih]
      rfl
    | some f =>
      rw [List.filter_cons_of_neg (by simp [hy]), ← ih]
      rfl

theorem mem_keepPinned {fs : List PropertyFilter} {cs : List (Candidate σ)} :
    x ∈ (keepPinned s fs cs).value ↔ x ∈ cs ∧ ∀ f ∈ fs, propertyOf s x f = f.pinned := by
  rw [keepPinned_value, List.mem_filter]
  simp [mismatch?]

theorem admissible_value (groups : List (CandidateGroup σ)) : (c.admissible s groups).value =
    (c.keepApart s (c.eligible groups)).value.filter fun x => (mismatch? s c.pinned x).isNone := by
  unfold admissible
  simp only [Traced.value_bind]
  cases hpinned : c.pinned with
  | nil => exact (List.filter_eq_self.2 fun _ _ => rfl).symm
  | cons f fs =>
    simp only [List.isEmpty_cons, Bool.false_eq_true, if_false, Traced.value_bind, Traced.value_pure]
    exact keepPinned_value _ _

omit [Score σ] in
theorem keepApart_value_of_named_nil (hnamed : c.constraints.notPlaceWith = [])
    (hpattern : c.pattern = none) (cs : List (Candidate σ)) : (c.keepApart s cs).value = cs := by
  have hnone : c.excludedResources s = [] := by
    rw [excludedResources, hnamed, hpattern]
    rfl
  rw [keepApart_value, hnone]
  rfl

/-- The candidate satisfies all that constraints ask of single candidates. -/
structure Kept (c : CheckedConstraints) (s : Snapshot) (groups : List (CandidateGroup σ))
    (x : Candidate σ) : Prop where
  in_group : ∃ g ∈ groups, x ∈ g.candidates ∧
    ∀ forced, c.constraints.forcedPool = some forced → forced.key = g.name.key
  apart : ∀ r ∈ s.resourcesIn x.node x.pool, ¬ c.Excludes s r.key
  pinned_values : ∀ f ∈ c.constraints.replicasOnSame, ∀ v, f.pinned = some v →
    propertyOf s x f = some v

theorem mem_admissible {groups : List (CandidateGroup σ)}
    (h : x ∈ (c.admissible s groups).value) : c.Kept s groups x := by
  rw [admissible_value, ← keepPinned_value, mem_keepPinned] at h
  obtain ⟨hx, hvalues⟩ := h
  obtain ⟨hx, hapart⟩ := mem_keepApart hx
  refine ⟨mem_eligible hx, hapart, fun f hf v hv => ?_⟩
  rw [hvalues f (List.mem_filter.2 ⟨hf, by rw [hv]; rfl⟩), hv]

end CheckedConstraints

end ReplicaPlacement
