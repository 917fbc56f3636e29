import Mathlib.Data.List.Forall2
import ReplicaPlacement.Proofs.Cluster.Indexes

/-!
# Snapshots of the same objects

Two snapshots that list the same objects answer every question alike. Only the names that pools and
replicas are grouped under may differ, and only in their letter case, since a group is spelled like
whichever of its members was added first.
-/

namespace ReplicaPlacement

def PoolDefinition.content (d : PoolDefinition) : String × List Pool := (d.name.key, d.pools)

namespace Snapshot

variable {s s' : Snapshot}

structure SameObjects (s s' : Snapshot) : Prop where
  left : ∃ i, ofInventory i = .ok s
  right : ∃ i, ofInventory i = .ok s'
  toInventory_eq : s'.toInventory = s.toInventory

theorem grouped_contents (h : ∃ i, ofInventory i = .ok s) : Ordered.Grouped Prod.fst Prod.snd
    (fun p : Pool => p.name.key) poolKey (s.definitions.map PoolDefinition.content) := by
  obtain ⟨i, hi⟩ := h
  have hs := wellFormed_ofInventory hi
  constructor
  case sorted => exact List.pairwise_map.2 hs.definitions_sorted
  case held_sorted => exact List.forall_mem_map.2 hs.pools_sorted
  case held_of => exact List.forall_mem_map.2 hs.pool_named
  case held_ne_nil => exact List.forall_mem_map.2 (groups_ne_nil hi).1

namespace SameObjects

theorem wellFormed_left (h : s.SameObjects s') : s.WellFormed := by
  obtain ⟨i, hi⟩ := h.left
  exact wellFormed_ofInventory hi

theorem wellFormed_right (h : s.SameObjects s') : s'.WellFormed := by
  obtain ⟨i, hi⟩ := h.right
  exact wellFormed_ofInventory hi

variable (h : s.SameObjects s')

include h

theorem nodes_eq : s'.nodes = s.nodes := congrArg Inventory.nodes h.toInventory_eq

theorem resources_eq : s'.resources = s.resources := congrArg Inventory.resources h.toInventory_eq

theorem contents_eq :
    s'.definitions.map PoolDefinition.content = s.definitions.map PoolDefinition.content := by
  refine (grouped_contents h.right).eq_of_perm (grouped_contents h.left) ?_ ?_
  · rw [List.flatMap_map, List.flatMap_map]
    exact List.Perm.of_eq (congrArg Inventory.pools h.toInventory_eq)
  · exact fun _ _ _ _ hkey hpools => Prod.ext hkey hpools

theorem definitions_forall₂ : List.Forall₂
    (fun d d' => d ∈ s.definitions ∧ d' ∈ s'.definitions ∧ d.content = d'.content)
    s.definitions s'.definitions := by
  have hcontents : List.Forall₂ (· = ·) (s.definitions.map PoolDefinition.content)
      (s'.definitions.map PoolDefinition.content) := by
    rw [List.forall₂_eq_eq_eq, h.contents_eq]
  rw [List.forall₂_map_left_iff, List.forall₂_map_right_iff, List.forall₂_iff_zip] at hcontents
  refine List.forall₂_iff_zip.2 ⟨hcontents.1, fun hmem => ?_⟩
  exact ⟨(List.of_mem_zip hmem).1, (List.of_mem_zip hmem).2, hcontents.2 hmem⟩

/-- The other spelling of a definition is that of one of its pools. -/
theorem exists_pool_spelled {d d' : PoolDefinition} (hd' : d' ∈ s'.definitions)
    (hcontent : d.content = d'.content) : ∃ p ∈ d.pools, p.name = d'.name := by
  obtain ⟨i, hi⟩ := h.right
  obtain ⟨p, hp, hname⟩ := (groups_spelled hi).1 d' hd'
  have hpools : d.pools = d'.pools := congrArg Prod.snd hcontent
  exact ⟨p, hpools ▸ hp, hname⟩

/-! ## Questions -/

theorem node?_eq (name : NodeName) : s'.node? name = s.node? name := by
  rw [node?, node?, h.nodes_eq]

theorem poolsNamed_eq (name : PoolName) : s'.poolsNamed name = s.poolsNamed name := by
  refine (h.wellFormed_right.poolsNamed_sorted name).eq_of_mem_iff
    (h.wellFormed_left.poolsNamed_sorted name) fun p => ?_
  rw [h.wellFormed_right.mem_poolsNamed_iff, h.wellFormed_left.mem_poolsNamed_iff, h.toInventory_eq]

theorem pool?_eq (node : NodeName) (name : PoolName) : s'.pool? node name = s.pool? node name := by
  rw [pool?, pool?, h.poolsNamed_eq]

theorem replicasOf_eq (name : ResourceName) : s'.replicasOf name = s.replicasOf name := by
  refine (h.wellFormed_right.replicasOf_sorted name).eq_of_mem_iff
    (h.wellFormed_left.replicasOf_sorted name) fun r => ?_
  rw [h.wellFormed_right.mem_replicasOf_iff, h.wellFormed_left.mem_replicasOf_iff, h.toInventory_eq]

theorem replicasOn_eq (node : NodeName) : s'.replicasOn node = s.replicasOn node := by
  refine (h.wellFormed_right.replicasOn_sorted node).eq_of_mem_iff
    (h.wellFormed_left.replicasOn_sorted node) fun r => ?_
  rw [h.wellFormed_right.mem_replicasOn_iff, h.wellFormed_left.mem_replicasOn_iff, h.toInventory_eq]

theorem resourcesOn_eq (node : NodeName) : s'.resourcesOn node = s.resourcesOn node := by
  rw [resourcesOn, resourcesOn, h.replicasOn_eq]

theorem resourcesIn_eq (node : NodeName) (pool : PoolName) :
    s'.resourcesIn node pool = s.resourcesIn node pool := by
  rw [resourcesIn, resourcesIn, h.replicasOn_eq]

end SameObjects

end Snapshot

end ReplicaPlacement
