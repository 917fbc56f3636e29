import ReplicaPlacement.Proofs.Selection.Rules

/-!
# Nodes that satisfy the property filters

Existing replicas and new ones are treated alike: if the nodes that are taken at the start satisfy
the filters, so do the nodes that are taken at the end. Each candidate that follows keeps it.
-/

namespace ReplicaPlacement.Selection

/-- The nodes are different ones. They agree on what all must share, and differ from each other and
from the pinned value on what must differ. A missing value disagrees with a pinned one only. -/
structure Spread (same different : List PropertyFilter) (prop : NodeName → String → Option String)
    (nodes : List NodeName) : Prop where
  nodes_distinct : nodes.Pairwise fun m n => m.key ≠ n.key
  pinned : ∀ f ∈ same, ∀ n ∈ nodes, ∀ v, f.pinned = some v → prop n f.key = some v
  agree : ∀ f ∈ same, ∀ m ∈ nodes, ∀ n ∈ nodes, ∀ v w,
    prop m f.key = some v → prop n f.key = some w → v = w
  distinct : ∀ f ∈ different, nodes.Pairwise fun m n =>
    ∀ v, prop m f.key = some v → prop n f.key ≠ some v
  unpinned : ∀ f ∈ different, ∀ n ∈ nodes, ∀ v, f.pinned = some v → prop n f.key ≠ some v

variable {same different : List PropertyFilter} {prop : NodeName → String → Option String}
  {nodes nodes' : List NodeName}

theorem spread_nil : Spread same different prop [] where
  nodes_distinct := .nil
  pinned := by simp
  agree := by simp
  distinct := by simp
  unpinned := by simp

theorem Spread.sublist (h : Spread same different prop nodes) (hsub : nodes'.Sublist nodes) :
    Spread same different prop nodes' where
  nodes_distinct := h.nodes_distinct.sublist hsub
  pinned f hf n hn := h.pinned f hf n (hsub.subset hn)
  agree f hf m hm n hn := h.agree f hf m (hsub.subset hm) n (hsub.subset hn)
  distinct f hf := (h.distinct f hf).sublist hsub
  unpinned f hf n hn := h.unpinned f hf n (hsub.subset hn)

theorem Spread.perm (h : Spread same different prop nodes) (hperm : nodes.Perm nodes') :
    Spread same different prop nodes' where
  nodes_distinct := h.nodes_distinct.perm hperm Ne.symm
  pinned f hf n hn := h.pinned f hf n (hperm.mem_iff.2 hn)
  agree f hf m hm n hn := h.agree f hf m (hperm.mem_iff.2 hm) n (hperm.mem_iff.2 hn)
  distinct f hf := (h.distinct f hf).perm hperm fun hmn v hn hm => hmn v hm hn
  unpinned f hf n hn := h.unpinned f hf n (hperm.mem_iff.2 hn)

/-! ## Candidates that follow -/

variable {σ : Type} {s : Snapshot} {c : ConstraintSet} {context : PlacementContext}
  {earlier xs : List (Candidate σ)} {x : Candidate σ}

theorem InOrder.takenNodes_induction {P : List NodeName → Prop}
    (hstep : ∀ (earlier : List (Candidate σ)) x, MayFollow s c context earlier x →
      P (takenNodes c context earlier) → P (takenNodes c context earlier ++ [x.node]))
    (h : InOrder s c context earlier xs) (hP : P (takenNodes c context earlier)) :
    P (takenNodes c context (earlier ++ xs)) := by
  induction xs generalizing earlier with
  | nil => rwa [List.append_nil]
  | cons x xs ih =>
    rw [List.append_cons]
    refine ih h.2 ?_
    rw [takenNodes_append]
    exact hstep earlier x h.1 hP

theorem MayFollow.nodes_distinct (hx : MayFollow s c context earlier x)
    (h : (takenNodes c context earlier).Pairwise fun m n => m.key ≠ n.key) :
    (takenNodes c context earlier ++ [x.node]).Pairwise fun m n => m.key ≠ n.key := by
  refine List.pairwise_append.2 ⟨h, List.pairwise_singleton _ _, fun m hm n hn => ?_⟩
  rw [List.mem_singleton.1 hn]
  exact hx.node_free m hm

theorem MayFollow.agrees (hx : MayFollow s c context earlier x) {f : PropertyFilter}
    (hf : f ∈ c.replicasOnSame)
    (h : Spread c.replicasOnSame c.replicasOnDifferent s.propOf? (takenNodes c context earlier))
    {n : NodeName} (hn : n ∈ takenNodes c context earlier) {v w : String}
    (hv : s.propOf? n f.key = some v) (hw : s.propOf? x.node f.key = some w) : v = w := by
  have hfits := hx.same_fits f hf
  cases hpinned : f.pinned with
  | some u =>
    have hfixed : s.propOf? x.node f.key = some u := hfits u (by simp [fixedValue, hpinned])
    have hown := h.pinned f hf n hn u hpinned
    rw [hv] at hown
    rw [hw, ← hown] at hfixed
    exact (Option.some.inj hfixed).symm
  | none =>
    obtain ⟨u, hu⟩ := Option.isSome_iff_exists.1
      (List.findSome?_isSome_iff.2 ⟨n, hn, by rw [hv]; rfl⟩ :
        ((takenNodes c context earlier).findSome? fun m => s.propOf? m f.key).isSome = true)
    obtain ⟨m, hm, hmu⟩ := List.exists_of_findSome?_eq_some hu
    have hfixed : s.propOf? x.node f.key = some u := hfits u (by simp [fixedValue, hpinned, hu])
    rw [hw] at hfixed
    rw [h.agree f hf n hn m hm v u hv hmu, Option.some.inj hfixed]

theorem MayFollow.spread (hx : MayFollow s c context earlier x)
    (h : Spread c.replicasOnSame c.replicasOnDifferent s.propOf? (takenNodes c context earlier)) :
    Spread c.replicasOnSame c.replicasOnDifferent s.propOf?
      (takenNodes c context earlier ++ [x.node]) := by
  constructor
  case nodes_distinct => exact hx.nodes_distinct h.nodes_distinct
  case pinned =>
    intro f hf
    rw [List.forall_mem_append, List.forall_mem_singleton]
    exact ⟨h.pinned f hf, fun v hv => hx.same_fits f hf v (by simp [fixedValue, hv])⟩
  case agree =>
    intro f hf m hm n hn v w hv hw
    simp only [List.mem_append, List.mem_singleton] at hm hn
    rcases hm with hm | rfl
    · rcases hn with hn | rfl
      · exact h.agree f hf m hm n hn v w hv hw
      · exact hx.agrees hf h hm hv hw
    · rcases hn with hn | rfl
      · exact (hx.agrees hf h hn hw hv).symm
      · exact Option.some.inj (hv.symm.trans hw)
  case distinct =>
    intro f hf
    refine List.pairwise_append.2 ⟨h.distinct f hf, List.pairwise_singleton _ _, ?_⟩
    intro m hm n hn v hv hnv
    rw [List.mem_singleton.1 hn] at hnv
    exact hx.different_fits f hf v hnv
      (List.mem_append_right _ (List.mem_filterMap.2 ⟨m, hm, hv⟩))
  case unpinned =>
    intro f hf
    rw [List.forall_mem_append, List.forall_mem_singleton]
    refine ⟨h.unpinned f hf, fun v hpinned hv => hx.different_fits f hf v hv ?_⟩
    exact List.mem_append_left _ (Option.mem_toList.2 hpinned)

theorem InOrder.spread (h : InOrder s c context [] xs)
    (hdeployed : Spread c.replicasOnSame c.replicasOnDifferent s.propOf? (deployed c context)) :
    Spread c.replicasOnSame c.replicasOnDifferent s.propOf? (takenNodes c context xs) := by
  refine h.takenNodes_induction (fun _ _ hx => hx.spread) ?_
  rwa [takenNodes, List.map_nil, List.append_nil]

theorem InOrder.nodes_distinct (h : InOrder s c context [] xs)
    (hdeployed : (deployed c context).Pairwise fun m n => m.key ≠ n.key) :
    (takenNodes c context xs).Pairwise fun m n => m.key ≠ n.key := by
  refine h.takenNodes_induction (fun _ _ hx => hx.nodes_distinct) ?_
  rwa [takenNodes, List.map_nil, List.append_nil]

end ReplicaPlacement.Selection
