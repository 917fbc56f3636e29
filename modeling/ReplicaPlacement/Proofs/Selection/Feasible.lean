import ReplicaPlacement.Proofs.Selection.Rules

/-!
# Feasible selections

What a selection must satisfy as a set, whatever the order it was found in. Everything chosen in an
admissible order satisfies it.
-/

namespace ReplicaPlacement.Selection

variable {σ : Type} {s : Snapshot} {c : ConstraintSet} {context : PlacementContext}

/-- So many of the candidates that satisfy all constraints at once, in any order. -/
structure Feasible (s : Snapshot) (c : ConstraintSet) (context : PlacementContext)
    (candidates chosen : List (Candidate σ)) : Prop where
  among : ∀ x ∈ chosen, x ∈ candidates
  count_eq : chosen.length = c.replicaCount.toNat
  nodes_distinct : chosen.Pairwise fun x y => x.node.key ≠ y.node.key
  nodes_free : ∀ x ∈ chosen, ∀ n ∈ deployed c context, n.key ≠ x.node.key
  one_kind : ∀ x ∈ chosen, ∀ y ∈ chosen, x.provider = y.provider
  kind_fits : ∀ x ∈ chosen, ∀ kind, context.provider = some kind → x.provider = kind
  same_value : ∀ x ∈ chosen, ∀ f ∈ c.replicasOnSame, ∀ v,
    f.pinned = some v → s.propOf? x.node f.key = some v
  values_distinct : ∀ f ∈ c.replicasOnDifferent, chosen.Pairwise fun x y =>
    ∀ v, s.propOf? x.node f.key = some v → s.propOf? y.node f.key ≠ some v
  values_unpinned : ∀ x ∈ chosen, ∀ f ∈ c.replicasOnDifferent, ∀ v,
    s.propOf? x.node f.key = some v → f.pinned ≠ some v
  values_free : ∀ x ∈ chosen, ∀ f ∈ c.replicasOnDifferent, ∀ n ∈ deployed c context, ∀ v,
    s.propOf? x.node f.key = some v → s.propOf? n f.key ≠ some v

/-! ## Candidates that exclude each other -/

/-- The candidates share a node, or a value that must differ. -/
def Clash (s : Snapshot) (c : ConstraintSet) (x y : Candidate σ) : Prop :=
  x.node.key = y.node.key ∨ ∃ f ∈ c.replicasOnDifferent, ∃ v,
    s.propOf? x.node f.key = some v ∧ s.propOf? y.node f.key = some v

theorem propOf?_congr {m n : NodeName} (h : m.key = n.key) (key : String) :
    s.propOf? m key = s.propOf? n key := by
  unfold Snapshot.propOf? Snapshot.node?
  rw [h]

theorem Clash.refl (x : Candidate σ) : Clash s c x x := Or.inl rfl

theorem Clash.symm {x y : Candidate σ} (h : Clash s c x y) : Clash s c y x := by
  rcases h with h | ⟨f, hf, v, hx, hy⟩
  · exact Or.inl h.symm
  · exact Or.inr ⟨f, hf, v, hy, hx⟩

theorem MayFollow.not_clash {earlier : List (Candidate σ)} {x : Candidate σ}
    (h : MayFollow s c context earlier x) : ∀ y ∈ earlier, ¬ Clash s c y x := by
  intro y hy
  have htaken : y.node ∈ takenNodes c context earlier :=
    List.mem_append_right _ (List.mem_map_of_mem hy)
  rintro (hnode | ⟨f, hf, v, hv, hx⟩)
  · exact h.node_free y.node htaken hnode
  · exact h.different_fits f hf v hx
      (List.mem_append_right _ (List.mem_filterMap.2 ⟨y.node, htaken, hv⟩))

/-! ## From an admissible order -/

theorem feasible_of_inOrder {candidates chosen : List (Candidate σ)}
    (hamong : ∀ x ∈ chosen, x ∈ candidates) (hcount : chosen.length = c.replicaCount.toNat)
    (h : InOrder s c context [] chosen) : Feasible s c context candidates chosen := by
  have hpairs := (h.pairwise fun _ _ hfollow => hfollow.not_clash).1
  have htaken {earlier : List (Candidate σ)} {n : NodeName} (hn : n ∈ deployed c context) :
      n ∈ takenNodes c context earlier := List.mem_append_left _ hn
  refine ⟨hamong, hcount, hpairs.imp fun hclash hnode => hclash (Or.inl hnode), ?_, h.one_kind, ?_,
    ?_, ?_, ?_, ?_⟩
  · exact h.forall_mem fun _ x hfollow n hn => hfollow.node_free n (htaken hn)
  · refine h.forall_mem fun _ x hfollow kind hkind => hfollow.kind_fits kind ?_
    simp [fixedKind, hkind]
  · refine h.forall_mem fun _ x hfollow f hf v hv => hfollow.same_fits f hf v ?_
    simp [fixedValue, hv]
  · exact fun f hf => hpairs.imp fun hclash v hv hv' => hclash (Or.inr ⟨f, hf, v, hv, hv'⟩)
  · refine h.forall_mem fun _ x hfollow f hf v hv hpinned => hfollow.different_fits f hf v hv ?_
    exact List.mem_append_left _ (Option.mem_toList.2 hpinned)
  · refine h.forall_mem fun _ x hfollow f hf n hn v hv hnv => hfollow.different_fits f hf v hv ?_
    exact List.mem_append_right _ (List.mem_filterMap.2 ⟨n, htaken hn, hnv⟩)

end ReplicaPlacement.Selection
