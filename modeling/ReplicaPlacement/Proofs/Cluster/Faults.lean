import ReplicaPlacement.Proofs.Cluster.Build

/-!
# Why an inventory is refused

Everything that is wrong with an inventory is listed in the order in which its objects are looked at:
nodes, pools, and replicas, a replica by its node, its volumes in order, and then the replicas before
it. Building fails with what is listed first.
-/

namespace ReplicaPlacement

/-! ## What is wrong with an object -/

def repeated {α κ : Type} [DecidableEq κ] (identity : α → κ) (error : α → ClusterError)
    (before : List α) (x : α) : List ClusterError :=
  if ∃ y ∈ before, identity y = identity x then [error x] else []

def Node.repeatedError (n : Node) : ClusterError :=
  .invalidSnapshot s!"node '{n.name}' is listed twice"
    "Node names are case-insensitive and must be unique"

def Pool.repeatedError (p : Pool) : ClusterError :=
  .invalidSnapshot s!"{p.describe} is listed twice" "A node can host only one storage pool per name"

def Replica.repeatedError (r : Replica) : ClusterError :=
  .invalidSnapshot s!"{r.describe} is listed twice" "A node can host only one replica of a resource"

namespace Inventory

instance (i : Inventory) (name : NodeName) : Decidable (i.HasNode name) :=
  inferInstanceAs (Decidable (∃ n ∈ i.nodes, _))

instance (i : Inventory) (node : NodeName) (name : PoolName) : Decidable (i.HasPool node name) :=
  inferInstanceAs (Decidable (∃ p ∈ i.pools, _))

def nodeFaults (i : Inventory) (name : NodeName) : List ClusterError :=
  if i.HasNode name then [] else [.nodeNotFound name.text]

def volumeFaults (i : Inventory) (r : Replica) (v : Volume) : List ClusterError :=
  if i.HasPool r.node v.pool then [] else [.poolNotFound r.node.text v.pool.text]

def poolFaults (i : Inventory) (before : List Pool) (p : Pool) : List ClusterError :=
  i.nodeFaults p.node ++ repeated Pool.identity Pool.repeatedError before p

def replicaFaults (i : Inventory) (before : List Replica) (r : Replica) : List ClusterError :=
  i.nodeFaults r.node ++ (r.volumes.flatMap (i.volumeFaults r) ++
    repeated Replica.identity Replica.repeatedError before r)

def faults (i : Inventory) : List ClusterError :=
  Outcome.errorsAlong (repeated Snapshot.nodeKey Node.repeatedError) [] i.nodes ++
    (Outcome.errorsAlong i.poolFaults [] i.pools ++ Outcome.errorsAlong i.replicaFaults [] i.replicas)

end Inventory

/-! ## Adding an object -/

open Outcome (Settles)

theorem Collects.settles_foldlM {σ α κ ε : Type} {step : σ → α → Except ε σ} {P : σ → Prop}
    {held : σ → List α} {identity : α → κ} {fits : α → Prop} (h : Collects step P held identity fits)
    {errors : List α → α → List ε} (hstep : ∀ {before s x}, P s → (held s).Perm before →
      Settles (fun _ => True) (errors before x) (step s x))
    {s : σ} (hs : P s) (hempty : held s = []) (xs : List α) :
    Settles (fun s' => P s' ∧ (held s').Perm xs) (Outcome.errorsAlong errors [] xs) (xs.foldlM step s) := by
  have hadd : ∀ {before s x}, P s ∧ (held s).Perm before →
      Settles (fun s' => P s' ∧ (held s').Perm (x :: before)) (errors before x) (step s x) := by
    rintro before s x ⟨hs, hheld⟩
    refine (hstep hs hheld).imp fun s' hx _ => ?_
    obtain ⟨hs', hheld'⟩ := h.adds hs hx
    exact ⟨hs', hheld'.trans (hheld.cons x)⟩
  have hrun := Settles.foldlM (Q := fun before s => P s ∧ (held s).Perm before) hadd
    ⟨hs, List.Perm.of_eq hempty⟩ xs
  refine hrun.imp fun s' _ hs' => ?_
  rw [List.append_nil] at hs'
  exact ⟨hs'.1, hs'.2.trans (List.reverse_perm xs)⟩

theorem settles_repeated {α κ β : Type} [DecidableEq κ] {identity : α → κ} {error : α → ClusterError}
    {before : List α} {x : α} {known : Bool} (h : known = true ↔ ∃ y ∈ before, identity y = identity x)
    (b : β) : Settles (fun _ => True) (repeated identity error before x)
      (if known then .error (error x) else .ok b) := by
  unfold repeated
  cases known with
  | true =>
    rw [if_pos (h.1 rfl)]
    exact .error _ _
  | false =>
    rw [if_neg fun hbefore => Bool.false_ne_true (h.2 hbefore)]
    exact .ok trivial

namespace Snapshot

variable {i : Inventory} {s : Snapshot}

theorem settles_addNode {before : List Node} {n : Node} (hnodes : s.nodes.Perm before) :
    Settles (fun _ => True) (repeated nodeKey Node.repeatedError before n) (s.addNode n) :=
  settles_repeated (hasNode_iff.trans (exists_mem_congr hnodes)) _

theorem hasNode_iff_listed (hnodes : s.nodes.Perm i.nodes) {name : NodeName} :
    s.hasNode name = true ↔ i.HasNode name :=
  hasNode_iff.trans (exists_mem_congr hnodes)

theorem settles_known {β : Type} (hnodes : s.nodes.Perm i.nodes) (name : NodeName)
    {errors : List ClusterError} {x : Except ClusterError β} (h : Settles (fun _ => True) errors x) :
    Settles (fun _ => True) (i.nodeFaults name ++ errors)
      (if !s.hasNode name then .error (.nodeNotFound name.text) else x) := by
  unfold Inventory.nodeFaults
  by_cases hnode : i.HasNode name
  · rw [(hasNode_iff_listed hnodes).2 hnode, if_pos hnode]
    exact h
  · rw [Bool.eq_false_iff.2 fun hn => hnode ((hasNode_iff_listed hnodes).1 hn), if_neg hnode]
    exact .error _ _

theorem settles_addPool (hs : s.WellFormed) (hnodes : s.nodes.Perm i.nodes) {before : List Pool}
    {p : Pool} (hpools : s.toInventory.pools.Perm before) :
    Settles (fun _ => True) (i.poolFaults before p) (s.addPool p) := by
  refine settles_known hnodes p.node (settles_repeated ?_ _)
  rw [hs.hasPool_iff_mem, ← exists_mem_congr hpools]
  simp [Pool.identity]

theorem settles_checkVolumes (hs : s.WellFormed) (hpools : s.toInventory.pools.Perm i.pools)
    (r : Replica) (vs : List Volume) :
    Settles (fun _ => True) (vs.flatMap (i.volumeFaults r)) (s.checkVolumes r vs) := by
  induction vs with
  | nil => exact .ok trivial
  | cons v vs ih =>
    have hpool : s.hasPool r.node v.pool = true ↔ i.HasPool r.node v.pool :=
      hs.hasPool_iff_mem.trans (exists_mem_congr hpools)
    rw [List.flatMap_cons, checkVolumes, Inventory.volumeFaults]
    by_cases hv : i.HasPool r.node v.pool
    · rw [if_pos hv, if_pos (hpool.2 hv)]
      exact ih
    · rw [if_neg hv, if_neg fun h => hv (hpool.1 h)]
      exact .error _ _

theorem addReplica_eq (r : Replica) : s.addReplica r =
    if !s.hasNode r.node then .error (.nodeNotFound r.node.text)
    else (s.checkVolumes r r.volumes).bind fun _ =>
      if Ordered.contains replicaKey r.node.key (s.replicasOf r.resource) then .error r.repeatedError
      else .ok { s with
        deployments := Ordered.alter deploymentKey r.resource.key (Deployment.extend r) s.deployments
        resources := Ordered.insert Name.key r.resource s.resources } := by
  unfold addReplica
  cases s.hasNode r.node <;> cases s.checkVolumes r r.volumes <;>
    cases Ordered.contains replicaKey r.node.key (s.replicasOf r.resource) <;> rfl

theorem settles_addReplica (hs : s.WellFormed) (hnodes : s.nodes.Perm i.nodes)
    (hpools : s.toInventory.pools.Perm i.pools) {before : List Replica} {r : Replica}
    (hreplicas : s.toInventory.replicas.Perm before) :
    Settles (fun _ => True) (i.replicaFaults before r) (s.addReplica r) := by
  rw [addReplica_eq]
  refine settles_known hnodes r.node
    ((settles_checkVolumes hs hpools r r.volumes).bind fun _ _ => settles_repeated ?_ _)
  simp only [← exists_mem_congr hreplicas, Ordered.contains_iff, hs.mem_replicasOf_iff]
  simp [Replica.identity, replicaKey, and_assoc]

/-! ## Building -/

theorem settles_ofInventory (i : Inventory) : Settles (fun _ => True) i.faults (ofInventory i) := by
  have hnodes := collects_nodes.settles_foldlM (fun _ hnodes => settles_addNode hnodes)
    ⟨wellFormed_empty i.resources, rfl, rfl⟩ rfl i.nodes
  refine hnodes.bind ?_
  rintro s₁ ⟨⟨hs₁, hdefinitions, hdeployments⟩, hnodes₁⟩
  have hpools := (collects_pools s₁.nodes).settles_foldlM
    (fun hs hpools => settles_addPool hs.1 (hs.2.1 ▸ hnodes₁) hpools) ⟨hs₁, rfl, hdeployments⟩
    (by rw [toInventory, hdefinitions, List.flatMap_nil]) i.pools
  refine hpools.bind ?_
  rintro s₂ ⟨⟨hs₂, hnodes₂, hdeployments₂⟩, hpools₂⟩
  have hreplicas := (collects_replicas s₂.nodes s₂.definitions).settles_foldlM
    (fun hs hreplicas => settles_addReplica hs.1 (by rw [hs.2.1, hnodes₂]; exact hnodes₁)
      (by rw [toInventory, hs.2.2]; exact hpools₂) hreplicas) ⟨hs₂, rfl, rfl⟩
    (by rw [toInventory, hdeployments₂, List.flatMap_nil]) i.replicas
  exact hreplicas.imp fun _ _ _ => trivial

theorem faults_eq_nil_iff : i.faults = [] ↔ i.Consistent :=
  (settles_ofInventory i).eq_ok_iff.symm.trans isOk_ofInventory_iff

end Snapshot

end ReplicaPlacement
