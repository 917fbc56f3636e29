import ReplicaPlacement.Proofs.Cluster.Indexes
import ReplicaPlacement.Proofs.Constraint.Kept

/-!
# Apart by node, or else by pool

New replicas stay off the nodes of excluded resources. Only if every candidate is on such a node do
they stay off the pools instead. Which of the two applies is decided before any pinned value is
looked at, and nothing is dropped but for these reasons.
-/

namespace ReplicaPlacement

variable {σ : Type}

def ConstraintSet.choosable (c : ConstraintSet) (groups : List (CandidateGroup σ)) :
    List (Candidate σ) :=
  match c.forcedPool with
  | none => groups.flatMap (·.candidates)
  | some name => ((Ordered.find? CandidateGroup.key name.key groups).map (·.candidates)).getD []

namespace CheckedConstraints

variable (c : CheckedConstraints) (s : Snapshot) (i : Inventory)

instance (key : String) : Decidable (c.Excludes s key) :=
  decidable_of_iff _ contains_excludedResources

/-! ## What a candidate is next to -/

/-- The node hosts a replica of an excluded resource, with or without data. -/
def OnTakenNode (x : Candidate σ) : Prop :=
  ∃ r ∈ i.replicas, r.node.key = x.node.key ∧ c.Excludes s r.resource.key

def InTakenPool (x : Candidate σ) : Prop :=
  ∃ r ∈ i.replicas, (r.node.key = x.node.key ∧ ∃ v ∈ r.volumes, v.pool.key = x.pool.key) ∧
    c.Excludes s r.resource.key

def HasPinned (x : Candidate σ) : Prop :=
  ∀ f ∈ c.constraints.replicasOnSame, f.pinned.isSome = true → propertyOf s x f = f.pinned

instance (x : Candidate σ) : Decidable (c.OnTakenNode s i x) :=
  inferInstanceAs (Decidable (∃ r ∈ i.replicas, _ ∧ _))

instance (x : Candidate σ) : Decidable (c.InTakenPool s i x) :=
  inferInstanceAs (Decidable (∃ r ∈ i.replicas, _ ∧ _))

instance (x : Candidate σ) : Decidable (c.HasPinned s x) :=
  inferInstanceAs (Decidable (∀ f ∈ c.constraints.replicasOnSame, _ → _))

variable {c s i} {x : Candidate σ}

theorem OnTakenNode.of_pool (h : c.InTakenPool s i x) : c.OnTakenNode s i x := by
  obtain ⟨r, hr, ⟨hnode, -⟩, hexcluded⟩ := h
  exact ⟨r, hr, hnode, hexcluded⟩

theorem hasPinned_iff : c.HasPinned s x ↔ mismatch? s c.pinned x = none := by
  simp [HasPinned, mismatch?, pinned]

theorem not_anyExcluded {resources : List ResourceName} {P : Prop} [Decidable P]
    (h : (∃ n ∈ resources, c.Excludes s n.key) ↔ P) :
    (!anyExcluded (c.excludedResources s) resources) = decide (¬ P) := by
  have hany : anyExcluded (c.excludedResources s) resources = true ↔ P := by
    rw [← h]
    simp [anyExcluded, contains_excludedResources]
  rw [Bool.eq_iff_iff, decide_eq_true_iff, Bool.not_eq_true', ← Bool.not_eq_true, hany]

theorem onFreeNode_eq (hi : s.Indexes i) :
    onFreeNode s (c.excludedResources s) x = decide (¬ c.OnTakenNode s i x) := by
  refine not_anyExcluded ⟨?_, ?_⟩
  · rintro ⟨n, hn, hexcluded⟩
    obtain ⟨r, hr, hnode, rfl⟩ := (hi.mem_resourcesOn_iff _ _).1 hn
    exact ⟨r, hr, hnode, hexcluded⟩
  · rintro ⟨r, hr, hnode, hexcluded⟩
    exact ⟨_, (hi.mem_resourcesOn_iff _ _).2 ⟨r, hr, hnode, rfl⟩, hexcluded⟩

theorem inFreePool_eq (hi : s.Indexes i) :
    inFreePool s (c.excludedResources s) x = decide (¬ c.InTakenPool s i x) := by
  refine not_anyExcluded ⟨?_, ?_⟩
  · rintro ⟨n, hn, hexcluded⟩
    obtain ⟨r, hr, hnode, hpool, rfl⟩ := (hi.mem_resourcesIn_iff _ _ _).1 hn
    exact ⟨r, hr, ⟨hnode, hpool⟩, hexcluded⟩
  · rintro ⟨r, hr, ⟨hnode, hpool⟩, hexcluded⟩
    exact ⟨_, (hi.mem_resourcesIn_iff _ _ _).2 ⟨r, hr, hnode, hpool, rfl⟩, hexcluded⟩

/-! ## The two rules -/

/-- One rule for all lists: the one for nodes if some candidate passes it, else the one for pools.
With no excluded resource both keep everything. -/
theorem keepApart_eq (hi : s.Indexes i) (cs : List (Candidate σ)) : (c.keepApart s cs).value =
    if ∃ x ∈ cs, ¬ c.OnTakenNode s i x then cs.filter fun x => ¬ c.OnTakenNode s i x
    else cs.filter fun x => ¬ c.InTakenPool s i x := by
  have hnode : onFreeNode s (c.excludedResources s) =
      fun x : Candidate σ => decide (¬ c.OnTakenNode s i x) := funext fun _ => onFreeNode_eq hi
  have hpool : inFreePool s (c.excludedResources s) =
      fun x : Candidate σ => decide (¬ c.InTakenPool s i x) := funext fun _ => inFreePool_eq hi
  have hempty : (cs.filter (onFreeNode s (c.excludedResources s))).isEmpty = true ↔
      ¬ ∃ x ∈ cs, ¬ c.OnTakenNode s i x := by
    rw [hnode]
    simp
  rw [keepApart_value]
  split
  · rename_i hnone
    -- No resource is excluded, so that neither filter removes anything.
    have hnode_free (x : Candidate σ) : ¬ c.OnTakenNode s i x := by
      rintro ⟨r, -, -, hexcluded⟩
      rw [← contains_excludedResources, List.isEmpty_iff.1 hnone] at hexcluded
      cases hexcluded
    have hpool_free (x : Candidate σ) : ¬ c.InTakenPool s i x := fun h => hnode_free x (.of_pool h)
    simp [hnode_free, hpool_free]
  · by_cases hfree : ∃ x ∈ cs, ¬ c.OnTakenNode s i x
    · rw [if_pos hfree, if_neg fun h => hempty.1 h hfree, hnode]
    · rw [if_neg hfree, if_pos (hempty.2 hfree), hpool]

theorem eligible_eq {groups : List (CandidateGroup σ)} (hg : Ordered.Sorted CandidateGroup.key groups) :
    c.eligible groups = c.constraints.choosable groups := by
  unfold eligible ConstraintSet.choosable
  cases c.constraints.forcedPool with
  | none => simp
  | some forced =>
    have hsame (g : CandidateGroup σ) : forced.same g.name = decide (g.key = forced.key) := by
      rw [Bool.eq_iff_iff, Name.same_iff, decide_eq_true_iff, CandidateGroup.key, eq_comm]
    simp only [Option.all_some, hsame, Ordered.filter_key_eq hg]
    cases Ordered.find? CandidateGroup.key forced.key groups <;> simp

def unpinned (c : CheckedConstraints) : CheckedConstraints :=
  { c with constraints := { c.constraints with
      replicasOnSame := c.constraints.replicasOnSame.map fun f => { f with pinned := none } } }

variable [Score σ]

theorem admissible_unpinned (groups : List (CandidateGroup σ)) :
    (c.unpinned.admissible s groups).value = (c.keepApart s (c.eligible groups)).value := by
  have hpinned : c.unpinned.pinned = [] := by simp [unpinned, CheckedConstraints.pinned]
  rw [admissible_value, hpinned]
  exact List.filter_eq_self.2 fun _ _ => rfl

theorem admissible_eq_filter (groups : List (CandidateGroup σ)) : (c.admissible s groups).value =
    (c.unpinned.admissible s groups).value.filter fun x => c.HasPinned s x := by
  rw [admissible_unpinned, admissible_value]
  refine List.filter_congr fun x _ => ?_
  rw [Bool.eq_iff_iff, decide_eq_true_iff, hasPinned_iff, Option.isNone_iff_eq_none]

/-! ## What is kept -/

/-- Of all candidates those are kept that no excluded resource and no pinned value speaks against. -/
structure KeptApart (c : CheckedConstraints) (s : Snapshot) (i : Inventory)
    (all kept : List (Candidate σ)) : Prop where
  sublist : kept.Sublist all
  pool_free : ∀ x ∈ kept, ¬ c.InTakenPool s i x
  node_free : ∀ x ∈ kept, c.OnTakenNode s i x → ∀ y ∈ all, c.OnTakenNode s i y
  pinned : ∀ x ∈ kept, c.HasPinned s x
  eq_of_free : (∃ x ∈ all, ¬ c.OnTakenNode s i x) →
    kept = all.filter fun x => ¬ c.OnTakenNode s i x ∧ c.HasPinned s x
  eq_of_taken : (∀ x ∈ all, c.OnTakenNode s i x) →
    kept = all.filter fun x => ¬ c.InTakenPool s i x ∧ c.HasPinned s x
  within_pools : kept.Sublist (all.filter fun x => ¬ c.InTakenPool s i x ∧ c.HasPinned s x)
  node_rule_within : (all.filter fun x => ¬ c.OnTakenNode s i x).Sublist
    (all.filter fun x => ¬ c.InTakenPool s i x)

theorem admissible_eq (hi : s.Indexes i) {groups : List (CandidateGroup σ)}
    (hg : Ordered.Sorted CandidateGroup.key groups) : (c.admissible s groups).value =
    if ∃ x ∈ c.constraints.choosable groups, ¬ c.OnTakenNode s i x then
      (c.constraints.choosable groups).filter fun x => ¬ c.OnTakenNode s i x ∧ c.HasPinned s x
    else (c.constraints.choosable groups).filter fun x => ¬ c.InTakenPool s i x ∧ c.HasPinned s x := by
  rw [admissible_eq_filter, admissible_unpinned, keepApart_eq hi, eligible_eq hg]
  split <;>
  · rw [List.filter_filter]
    exact List.filter_congr fun x _ => by rw [Bool.decide_and, Bool.and_comm]

theorem keptApart_admissible (hi : s.Indexes i) {groups : List (CandidateGroup σ)}
    (hg : Ordered.Sorted CandidateGroup.key groups) :
    c.KeptApart s i (c.constraints.choosable groups) (c.admissible s groups).value := by
  rw [admissible_eq hi hg]
  generalize c.constraints.choosable groups = all
  -- What passes the rule for nodes passes the one for pools.
  have hnode_pool (x : Candidate σ) (h : ¬ c.OnTakenNode s i x) : ¬ c.InTakenPool s i x :=
    fun hpool => h (.of_pool hpool)
  have hnodes : (all.filter fun x => ¬ c.OnTakenNode s i x).Sublist
      (all.filter fun x => ¬ c.InTakenPool s i x) :=
    List.monotone_filter_right all fun x hx =>
      decide_eq_true (hnode_pool x (of_decide_eq_true hx))
  by_cases hfree : ∃ x ∈ all, ¬ c.OnTakenNode s i x
  · rw [if_pos hfree]
    have hmem {x : Candidate σ}
        (hx : x ∈ all.filter fun x => ¬ c.OnTakenNode s i x ∧ c.HasPinned s x) :
        ¬ c.OnTakenNode s i x ∧ c.HasPinned s x := of_decide_eq_true (List.mem_filter.1 hx).2
    constructor
    case sublist => exact List.filter_sublist
    case pool_free => exact fun x hx => hnode_pool x (hmem hx).1
    case node_free => exact fun x hx htaken => absurd htaken (hmem hx).1
    case pinned => exact fun x hx => (hmem hx).2
    case eq_of_free => exact fun _ => rfl
    case eq_of_taken =>
      intro htaken
      obtain ⟨x, hx, hnot⟩ := hfree
      exact absurd (htaken x hx) hnot
    case within_pools =>
      refine List.monotone_filter_right all fun x hx => ?_
      obtain ⟨hnode, hpinned⟩ := of_decide_eq_true hx
      exact decide_eq_true ⟨hnode_pool x hnode, hpinned⟩
    case node_rule_within => exact hnodes
  · rw [if_neg hfree]
    have htaken : ∀ x ∈ all, c.OnTakenNode s i x := by simpa using hfree
    have hmem {x : Candidate σ}
        (hx : x ∈ all.filter fun x => ¬ c.InTakenPool s i x ∧ c.HasPinned s x) :
        ¬ c.InTakenPool s i x ∧ c.HasPinned s x := of_decide_eq_true (List.mem_filter.1 hx).2
    constructor
    case sublist => exact List.filter_sublist
    case pool_free => exact fun x hx => (hmem hx).1
    case node_free => exact fun _ _ _ => htaken
    case pinned => exact fun x hx => (hmem hx).2
    case eq_of_free => exact fun h => absurd h hfree
    case eq_of_taken => exact fun _ => rfl
    case within_pools => exact List.Sublist.refl _
    case node_rule_within => exact hnodes

/-- Constraints that pass the checks keep candidates apart by node or else by pool. What they pin
never makes them go over from nodes to pools. -/
theorem admissible_apart {constraints : ConstraintSet} {language : PatternLanguage}
    {groups : List (CandidateGroup σ)} (hs : Snapshot.ofInventory i = .ok s)
    (hchecked : constraints.check language = .ok c)
    (hg : Ordered.Sorted CandidateGroup.key groups) :
    (c.constraints = constraints ∧ c.pattern = constraints.notPlaceWithPattern.bind language) ∧
      c.KeptApart s i (constraints.choosable groups) (c.admissible s groups).value ∧
      (c.admissible s groups).value =
        (c.unpinned.admissible s groups).value.filter fun x => c.HasPinned s x := by
  have hc := ConstraintSet.check_eq_ok hchecked
  have hkept := keptApart_admissible (c := c) (Snapshot.indexes_of_ofInventory hs) hg
  rw [hc.1] at hkept
  exact ⟨hc, hkept, admissible_eq_filter groups⟩

/-! ## No free node -/

open Snapshot (alpha beta ssd)

def archive : PoolName := ⟨"archive", by decide⟩

def ledger : ResourceName := ⟨"ledger", by decide⟩

def web : ResourceName := ⟨"web", by decide⟩

/-- One resource has its data in a pool of the first node. Another is on the second without data. -/
def crowdedInventory : Inventory where
  nodes := [{ name := alpha, props := [("rack", "r1")] }, { name := beta }]
  pools := [
    { name := archive, node := alpha, provider := .lvm, freeSpace := some 10 },
    { name := ssd, node := alpha, provider := .lvm, freeSpace := some 10 },
    { name := ssd, node := beta, provider := .lvm, freeSpace := some 20 }]
  replicas := [
    { resource := ledger, node := alpha, volumes := [⟨0, archive, 5⟩] },
    { resource := web, node := beta, diskless := true }]

def crowded : Snapshot where
  nodes := crowdedInventory.nodes
  definitions := [
    ⟨archive, [{ name := archive, node := alpha, provider := .lvm, freeSpace := some 10 }]⟩,
    ⟨ssd, [
      { name := ssd, node := alpha, provider := .lvm, freeSpace := some 10 },
      { name := ssd, node := beta, provider := .lvm, freeSpace := some 20 }]⟩]
  deployments := [
    ⟨ledger, [{ resource := ledger, node := alpha, volumes := [⟨0, archive, 5⟩] }]⟩,
    ⟨web, [{ resource := web, node := beta, diskless := true }]⟩]
  resources := [ledger, web]

def crowdedGroups : List (CandidateGroup Float) :=
  crowded.definitions.map fun d => ⟨d.name, d.pools.map fun p => .ofPool p 1.0⟩

def besideNeither : ConstraintSet where
  notPlaceWith := [web, ledger]
  replicasOnSame := [⟨"rack", some "r1"⟩]

theorem admissible_crowded :
    let checked : CheckedConstraints := ⟨besideNeither, none⟩
    checked.KeptApart crowded crowdedInventory (besideNeither.choosable crowdedGroups)
        (checked.admissible crowded crowdedGroups).value ∧
      (checked.admissible crowded crowdedGroups).value = [⟨ssd, alpha, .lvm, 1.0, some 10⟩] := by
  have hbuilt : Snapshot.ofInventory crowdedInventory = .ok crowded := by decide +kernel
  have hchecked : besideNeither.check (fun _ => none) = .ok ⟨besideNeither, none⟩ := rfl
  have hsorted : Ordered.Sorted CandidateGroup.key crowdedGroups :=
    List.pairwise_pair.2 (by decide +kernel)
  obtain ⟨-, hkept, -⟩ := admissible_apart hbuilt hchecked hsorted
  refine ⟨hkept, ?_⟩
  rw [hkept.eq_of_taken (by decide +kernel)]
  rfl

end CheckedConstraints

end ReplicaPlacement
