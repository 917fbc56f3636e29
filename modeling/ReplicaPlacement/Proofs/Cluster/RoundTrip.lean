import ReplicaPlacement.Proofs.Cluster.Document
import ReplicaPlacement.Proofs.Cluster.SameObjects

/-!
# The parts of a snapshot as its normal form

The inventory of a snapshot lists everything in name order. It builds a snapshot that lists the same
and answers alike, and it is read back from any text that its plain values are read back from.
-/

namespace ReplicaPlacement

open FromDocument (read?)

/-- All lists are in strict name order, pools and replicas by the name of their node after their
own. -/
structure Inventory.InNameOrder (i : Inventory) : Prop where
  nodes : Ordered.Sorted (·.name.key) i.nodes
  pools : Ordered.Sorted Pool.identity i.pools
  replicas : Ordered.Sorted Replica.identity i.replicas
  resources : Ordered.Sorted Name.key i.resources

namespace Snapshot

variable {s s' : Snapshot}

/-- Both give the same answers, spelled alike. The names that pools are found under may differ in
letter case. -/
structure SameAnswers (s s' : Snapshot) : Prop where
  node? : ∀ name, s'.node? name = s.node? name
  pool? : ∀ node name, s'.pool? node name = s.pool? node name
  poolsNamed : ∀ name, s'.poolsNamed name = s.poolsNamed name
  replicasOf : ∀ name, s'.replicasOf name = s.replicasOf name
  resourcesOn : ∀ node, s'.resourcesOn node = s.resourcesOn node
  resourcesIn : ∀ node pool, s'.resourcesIn node pool = s.resourcesIn node pool
  resources : s'.resources = s.resources
  hasResource : ∀ name, s'.hasResource name = s.hasResource name
  poolNames : s'.poolNames.map Name.key = s.poolNames.map Name.key

theorem SameObjects.sameAnswers (h : s.SameObjects s') : s.SameAnswers s' where
  node? := h.node?_eq
  pool? := h.pool?_eq
  poolsNamed := h.poolsNamed_eq
  replicasOf := h.replicasOf_eq
  resourcesOn := h.resourcesOn_eq
  resourcesIn := h.resourcesIn_eq
  resources := h.resources_eq
  hasResource name := by rw [hasResource, hasResource, h.resources_eq]
  poolNames := by
    have hkeys := congrArg (List.map Prod.fst) h.contents_eq
    rw [List.map_map, List.map_map] at hkeys
    rw [poolNames, poolNames, List.map_map, List.map_map]
    exact hkeys

theorem WellFormed.inNameOrder (hs : s.WellFormed) : s.toInventory.InNameOrder where
  nodes := hs.nodes_sorted
  pools := hs.pools_ordered
  replicas := hs.replicas_ordered
  resources := hs.resources_sorted

theorem Built.rebuild (hs : s.Built) :
    ∃ s', ofInventory s.toInventory = .ok s' ∧ s.SameObjects s' := by
  obtain ⟨s', hs', heq⟩ := hs.wellFormed.rebuild (List.Perm.refl _) (List.Perm.refl _)
    (List.Perm.refl _) (List.Perm.refl _)
  obtain ⟨i, -, hi⟩ := hs
  exact ⟨s', hs', ⟨i, hi⟩, ⟨_, hs'⟩, heq⟩

theorem Built.read?_print (hs : s.Built) {print : Value → String} {parse? : String → Option Value}
    (hparse : ∀ v, Json.Plain v → parse? (print v) = some v) :
    (parse? (print (toValue s.toInventory))).bind read? = some s.toInventory := by
  rw [hparse _ (plain_toValue_inventory s.toInventory), Option.bind_some]
  exact read?_toValue_inventory hs.props_sorted

/-- The parts of a snapshot are its normal form, and survive building and being read from a text. -/
theorem Built.normal_form (hs : s.Built) {print : Value → String} {parse? : String → Option Value}
    (hparse : ∀ v, Json.Plain v → parse? (print v) = some v) :
    s.toInventory.InNameOrder ∧
      (parse? (print (toValue s.toInventory))).bind read? = some s.toInventory ∧
      ∃ s', ofInventory s.toInventory = .ok s' ∧ s'.toInventory = s.toInventory ∧
        s.SameAnswers s' ∧ (parse? (print (toValue s))).bind read? = some s' := by
  have hread := hs.read?_print hparse
  obtain ⟨s', hs', hsame⟩ := hs.rebuild
  refine ⟨hs.wellFormed.inNameOrder, hread, s', hs', hsame.toInventory_eq, hsame.sameAnswers, ?_⟩
  have hwhole : (parse? (print (toValue s))).bind read? =
      ((parse? (print (toValue s.toInventory))).bind read?).bind fun i => (ofInventory i).toOption := by
    rw [Option.bind_assoc]
    rfl
  rw [hwhole, hread, Option.bind_some, hs']
  rfl

/-! ## Two spellings of a pool name -/

def mixedPools : List Pool := [
  { name := ssd, node := alpha, provider := .zfsThin, freeSpace := some 10 },
  { name := ⟨"SSD", by decide⟩, node := beta, provider := .lvm }]

def mixedReplica : Replica :=
  { resource := ⟨"orders", by decide⟩, node := beta, volumes := [⟨0, ssd, 5⟩] }

def mixedInventory : Inventory where
  nodes := [{ name := beta }, { name := alpha, props := [("rack", "r1"), ("zone", "a")] }]
  pools := mixedPools.reverse
  replicas := [mixedReplica]
  resources := [⟨"Web", by decide⟩]

def mixed : Snapshot where
  nodes := mixedInventory.nodes.reverse
  definitions := [⟨⟨"SSD", by decide⟩, mixedPools⟩]
  deployments := [⟨mixedReplica.resource, [mixedReplica]⟩]
  resources := [mixedReplica.resource, ⟨"Web", by decide⟩]

theorem built_mixed : mixed.Built := by
  refine ⟨mixedInventory, ?_, by decide +kernel⟩
  intro n hn
  unfold Ordered.Sorted
  revert n
  decide +kernel

/-- It is not the same snapshot that is read back, but one that answers alike. -/
theorem exists_reread_mixed : ofInventory mixed.toInventory ≠ .ok mixed ∧
    ∃ s', (Json.parse? (Json.compact (toValue mixed))).bind read? = some s' ∧
      s'.toInventory = mixed.toInventory ∧ mixed.SameAnswers s' := by
  have hparse (v : Value) (hv : Json.Plain v) : Json.parse? (Json.compact v) = some v :=
    Json.parse?_compact hv
  obtain ⟨-, -, s', -, heq, hanswers, hread⟩ := built_mixed.normal_form hparse
  exact ⟨by decide +kernel, s', hread, heq, hanswers⟩

end Snapshot

end ReplicaPlacement
