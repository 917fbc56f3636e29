import ReplicaPlacement.Proofs.Cluster.Indexes
import ReplicaPlacement.Proofs.Placement.Fault

/-!
# What an existing deployment means for new replicas

All of it is found in the inventory. The nodes of the replicas count as deployed, those without data
too. Pools that hold data must be of one kind, which is then fixed. If they are not, the error tells
the first two kinds that differ, in the order of nodes and of the volumes there.
-/

namespace ReplicaPlacement

namespace Inventory

variable (i : Inventory)

def replicasByNode (resource : ResourceName) : List Replica :=
  (i.replicasOf resource).insertionSort fun r q => r.node.key ≤ q.node.key

def kindsOf (r : Replica) : List ProviderKind :=
  if r.diskless then []
  else r.volumes.filterMap fun v => (i.kindOf? r.node v.pool).filter fun kind => !kind.isDiskless

def dataKinds (resource : ResourceName) : List ProviderKind :=
  (i.replicasByNode resource).flatMap i.kindsOf

end Inventory

variable {i i' : Inventory} {s : Snapshot} {resource : ResourceName}

theorem Inventory.mem_replicasByNode {r : Replica} :
    r ∈ i.replicasByNode resource ↔ r ∈ i.replicas ∧ r.resource.key = resource.key :=
  (List.mem_insertionSort _).trans mem_replicasOf

theorem Inventory.replicasByNode_pairwise :
    (i.replicasByNode resource).Pairwise fun r q => r.node.key ≤ q.node.key := by
  have : Std.Total fun r q : Replica => r.node.key ≤ q.node.key := ⟨fun _ _ => le_total _ _⟩
  have : IsTrans Replica fun r q => r.node.key ≤ q.node.key := ⟨fun _ _ _ => le_trans⟩
  exact List.pairwise_insertionSort _ _

namespace Snapshot

theorem replicasOf_eq_byNode (h : ofInventory i = .ok s) :
    s.replicasOf resource = i.replicasByNode resource := by
  have hsorted := (wellFormed_ofInventory h).replicasOf_sorted resource
  have hperm : (s.replicasOf resource).Perm (i.replicasByNode resource) :=
    (replicasOf_perm h resource).trans (List.perm_insertionSort _ _).symm
  refine hsorted.eq_of_perm ?_ hperm
  -- Sorting leaves keys in order, and they differ as they do in the snapshot.
  have hne : (i.replicasByNode resource).Pairwise fun r q => r.node.key ≠ q.node.key :=
    (hsorted.imp fun hlt => hlt.ne).perm hperm Ne.symm
  exact (Inventory.replicasByNode_pairwise.and hne).imp fun h => lt_of_le_of_ne h.1 h.2

theorem dataKinds_of_ofInventory (h : ofInventory i = .ok s) :
    s.dataKinds resource = i.dataKinds resource := by
  have hkinds : s.kindsOf = i.kindsOf := by
    funext r
    simp only [kindsOf, Inventory.kindsOf, kind_of_ofInventory h]
  rw [dataKinds, Inventory.dataKinds, hkinds, replicasOf_eq_byNode h]

end Snapshot

namespace PlacementContext

/-- What is found out about the deployment of a resource, or why there is nothing to be found. -/
structure Derived (i : Inventory) (resource : ResourceName)
    (outcome : Except PlacementError PlacementContext) : Prop where
  isOk_iff : (∃ context, outcome = .ok context) ↔
    ∀ k ∈ i.dataKinds resource, ∀ k' ∈ i.dataKinds resource, k = k'
  mem_deployedNodes_iff : ∀ context, outcome = .ok context → ∀ node,
    node ∈ context.deployedNodes ↔ ∃ r ∈ i.replicas, r.resource.key = resource.key ∧ r.node = node
  deployedNodes_sorted : ∀ context, outcome = .ok context →
    Ordered.Sorted Name.key context.deployedNodes
  provider_eq_some_iff : ∀ context, outcome = .ok context → ∀ kind,
    context.provider = some kind ↔ kind ∈ i.dataKinds resource
  eq_error_iff : ∀ e, outcome = .error e ↔ ∃ first before kind after,
    i.dataKinds resource = first :: (before ++ kind :: after) ∧ (∀ k ∈ before, k = first) ∧
      kind ≠ first ∧ e = .providerConflict resource.text first kind
  not_internal : ∀ text, outcome ≠ .error (.internal text)

theorem ofResource_eq (h : Snapshot.ofInventory i = .ok s) : ofResource s resource =
    Outcome.failing ((ProviderKind.conflicts (i.dataKinds resource)).map fun pair =>
        .providerConflict resource.text pair.1 pair.2)
      ⟨(i.replicasByNode resource).map (·.node), (i.dataKinds resource).head?⟩ := by
  rw [ofResource_eq_failing (Snapshot.wellFormed_ofInventory h), observed,
    Snapshot.dataKinds_of_ofInventory h, Snapshot.replicasOf_eq_byNode h]

theorem ofResource_eq_ok_iff (h : Snapshot.ofInventory i = .ok s) {context : PlacementContext} :
    ofResource s resource = .ok context ↔
      (∀ k ∈ i.dataKinds resource, ∀ k' ∈ i.dataKinds resource, k = k') ∧
        ⟨(i.replicasByNode resource).map (·.node), (i.dataKinds resource).head?⟩ = context := by
  rw [ofResource_eq h, Outcome.failing_eq_ok, List.map_eq_nil_iff, ProviderKind.conflicts_eq_nil_iff]

theorem ofResource_eq_error_iff (h : Snapshot.ofInventory i = .ok s) {e : PlacementError} :
    ofResource s resource = .error e ↔ ∃ first before kind after,
      i.dataKinds resource = first :: (before ++ kind :: after) ∧ (∀ k ∈ before, k = first) ∧
        kind ≠ first ∧ e = .providerConflict resource.text first kind := by
  rw [ofResource_eq h, Outcome.failing_eq_error, List.head?_map, Option.map_eq_some_iff]
  simp only [Prod.exists, ProviderKind.head?_conflicts]
  constructor
  · rintro ⟨first, kind, ⟨before, after, heq, hbefore, hne⟩, rfl⟩
    exact ⟨first, before, kind, after, heq, hbefore, hne, rfl⟩
  · rintro ⟨first, before, kind, after, heq, hbefore, hne, rfl⟩
    exact ⟨first, kind, ⟨before, after, heq, hbefore, hne⟩, rfl⟩

theorem derived_of_ofInventory (h : Snapshot.ofInventory i = .ok s) :
    Derived i resource (ofResource s resource) := by
  constructor
  case isOk_iff =>
    simp only [ofResource_eq_ok_iff h, exists_and_left, exists_eq', and_true]
  case mem_deployedNodes_iff =>
    intro context hcontext node
    obtain ⟨-, rfl⟩ := (ofResource_eq_ok_iff h).1 hcontext
    simp only [List.mem_map, Inventory.mem_replicasByNode, and_assoc]
  case deployedNodes_sorted =>
    intro context hcontext
    obtain ⟨-, rfl⟩ := (ofResource_eq_ok_iff h).1 hcontext
    rw [← Snapshot.replicasOf_eq_byNode h]
    exact List.pairwise_map.2 ((Snapshot.wellFormed_ofInventory h).replicasOf_sorted resource)
  case provider_eq_some_iff =>
    intro context hcontext kind
    obtain ⟨hsame, rfl⟩ := (ofResource_eq_ok_iff h).1 hcontext
    refine ⟨List.mem_of_mem_head?, fun hkind => ?_⟩
    obtain ⟨first, hfirst⟩ :=
      Option.isSome_iff_exists.1 (List.isSome_head?.2 (List.ne_nil_of_mem hkind))
    exact hfirst.trans (congrArg some (hsame first (List.mem_of_mem_head? hfirst) kind hkind))
  case eq_error_iff => exact fun _ => ofResource_eq_error_iff h
  case not_internal =>
    intro text htext
    obtain ⟨_, _, _, _, -, -, -, he⟩ := (ofResource_eq_error_iff h).1 htext
    cases he

theorem ofResource_perm (h : Snapshot.ofInventory i = .ok s) (hnodes : i'.nodes.Perm i.nodes)
    (hpools : i'.pools.Perm i.pools) (hreplicas : i'.replicas.Perm i.replicas) :
    ∃ s', Snapshot.ofInventory i' = .ok s' ∧ ofResource s' resource = ofResource s resource := by
  have hconsistent := Snapshot.isOk_ofInventory_iff.1 ⟨s, h⟩
  obtain ⟨s', h'⟩ := Snapshot.isOk_ofInventory_iff.2
    (hconsistent.perm hnodes.symm hpools.symm hreplicas.symm)
  refine ⟨s', h', ?_⟩
  have hi := Snapshot.indexes_of_ofInventory h
  have hi' := Snapshot.indexes_of_ofInventory h'
  -- The replicas are listed by identity, and their pools are looked up, so the order is lost.
  have hlisted : s'.replicasOf resource = s.replicasOf resource := by
    refine (hi'.replicasOf_sorted resource).eq_of_perm (hi.replicasOf_sorted resource) ?_
    exact (hi'.replicasOf_perm resource).trans
      ((hreplicas.filter _).trans (hi.replicasOf_perm resource).symm)
  have hfound : s'.pool? = s.pool? := by
    funext node name
    ext p
    rw [hi'.pool?_eq_some_iff, hi.pool?_eq_some_iff, hpools.mem_iff]
  have hvolume : addVolume s' resource = addVolume s resource := by
    funext r kind v
    rw [addVolume, addVolume, hfound]
  have hreplica : addReplica s' resource = addReplica s resource := by
    funext kind r
    rw [addReplica, addReplica, hvolume]
  rw [ofResource, ofResource, hlisted, hreplica]

/-- The deployment of every resource, registered or not, is derived from what is listed, and from
nothing of the order that it is listed in. -/
theorem ofResource_exact (h : Snapshot.ofInventory i = .ok s) (resource : ResourceName) :
    Derived i resource (ofResource s resource) ∧
      ∀ i' : Inventory, i'.nodes.Perm i.nodes → i'.pools.Perm i.pools →
        i'.replicas.Perm i.replicas →
          ∃ s', Snapshot.ofInventory i' = .ok s' ∧ ofResource s' resource = ofResource s resource :=
  ⟨derived_of_ofInventory h, fun _ => ofResource_perm h⟩

/-! ## Two kinds of pools -/

open Snapshot (alpha beta ssd)

/-- The replica on the second node is listed first, and the first of its volumes holds no data. -/
def twoKindsInventory : Inventory where
  nodes := [{ name := alpha }, { name := beta }, { name := ⟨"delta", by decide⟩ }]
  pools := [
    { name := ⟨"none", by decide⟩, node := beta, provider := .diskless },
    { name := ssd, node := beta, provider := .zfs },
    { name := ssd, node := alpha, provider := .lvm },
    { name := ssd, node := ⟨"delta", by decide⟩, provider := .file }]
  replicas := [
    { resource := ⟨"mail", by decide⟩, node := beta
      volumes := [⟨0, ⟨"none", by decide⟩, 1⟩, ⟨1, ssd, 1⟩] },
    { resource := ⟨"mail", by decide⟩, node := ⟨"delta", by decide⟩, diskless := true
      volumes := [⟨0, ssd, 1⟩] },
    { resource := ⟨"mail", by decide⟩, node := alpha, volumes := [⟨0, ssd, 1⟩] }]

theorem exists_conflict_twoKinds : ∃ s, Snapshot.ofInventory twoKindsInventory = .ok s ∧
    ofResource s ⟨"MAIL", by decide⟩ = .error (.providerConflict "MAIL" .lvm .zfs) := by
  obtain ⟨s, hs⟩ : ∃ s, Snapshot.ofInventory twoKindsInventory = .ok s :=
    Snapshot.isOk_ofInventory_iff.2 ((Inventory.consistent_iff _).2 (by decide +kernel))
  refine ⟨s, hs, ((ofResource_exact hs ⟨"MAIL", by decide⟩).1.eq_error_iff _).2 ?_⟩
  exact ⟨.lvm, [], .zfs, [], by decide +kernel, by simp, by decide, rfl⟩

end PlacementContext

end ReplicaPlacement
