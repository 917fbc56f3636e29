import ReplicaPlacement.Proofs.Cluster.Build
import ReplicaPlacement.Proofs.Placement.Sound
import ReplicaPlacement.Proofs.Selection.Spread

/-!
# Recording a placement

A placement is recorded by listing its replicas. They go where there is a node and a pool for them
and no other replica of the resource, so the inventory stays consistent, and the nodes of the
resource satisfy its property filters if they did before.
-/

namespace ReplicaPlacement

variable {σ : Type}

namespace Inventory

/-! ## Changes to an inventory -/

def replicaFor (resource : ResourceName) (size : UInt64) (c : Candidate σ) : Replica :=
  ({ resource, node := c.node } : Replica).addVolume c.pool size

def record (i : Inventory) (p : Placement σ) (size : UInt64) : Inventory :=
  { i with replicas := i.replicas ++ p.pools.map (replicaFor p.resource size) }

def setFreeSpace (i : Inventory) (f : Pool → Option UInt64) : Inventory :=
  { i with pools := i.pools.map fun p => { p with freeSpace := f p } }

def setConnected (i : Inventory) (name : NodeName) (connected : Bool) : Inventory :=
  { i with nodes := i.nodes.map fun n => if n.name.same name then { n with connected } else n }

/-- Removes all replicas of a resource. It stays registered if it was. -/
def removeReplicas (i : Inventory) (resource : ResourceName) : Inventory :=
  { i with replicas := i.replicas.filter fun r => !r.resource.same resource }

variable {i : Inventory}

theorem Consistent.sublist {replicas : List Replica} (h : i.Consistent)
    (hsub : replicas.Sublist i.replicas) : Consistent { i with replicas } :=
  { h with
    replicas_distinct := h.replicas_distinct.sublist hsub
    replica_node := fun r hr => h.replica_node r (hsub.subset hr)
    replica_volumes := fun r hr => h.replica_volumes r (hsub.subset hr) }

end Inventory

/-! ## What was chosen -/

namespace Autoplacer

variable [Score σ] {a : Autoplacer σ} {s : Snapshot} {subject : Subject} {placed : ResourceName}
  {c : ConstraintSet} {p : Placement σ}

open Selection (InOrder)

theorem inOrder_of_place (h : (a.place s subject placed c).result = .ok (some p)) :
    p.resource = placed ∧ ∃ checked context candidates,
      a.Stages s subject placed c checked context candidates ∧
        (∀ x ∈ p.pools, x ∈ candidates) ∧ InOrder s c context [] p.pools := by
  obtain ⟨checked, context, candidates, hstages, selection, hselect, hp⟩ := place_eq_ok.1 h
  obtain ⟨chosen, rfl, rfl⟩ := Option.map_eq_some_iff.1 hp.symm
  obtain ⟨hsub, -, horder⟩ := Selection.select_sound hselect
  exact ⟨rfl, checked, context, candidates, hstages,
    fun x hx => Selection.mem_ranking.1 (hsub.subset hx), horder⟩

end Autoplacer

namespace Inventory

/-! ## The nodes of a resource -/

def propOf? (i : Inventory) (node : NodeName) (key : String) : Option String :=
  (i.node? node).bind fun n => n.prop? key

def hostsOf (i : Inventory) (resource : ResourceName) : List NodeName :=
  (i.replicasOf resource).map (·.node)

variable [Score σ] {resource placed : ResourceName} {i : Inventory} {a : Autoplacer σ}
  {s : Snapshot} {subject : Subject} {c : ConstraintSet} {p : Placement σ} {size : UInt64}

open Selection (deployed)

omit [Score σ] in
theorem replicasOf_record (hp : p.resource.key = resource.key) :
    (i.record p size).replicasOf resource =
      i.replicasOf resource ++ p.pools.map (replicaFor p.resource size) := by
  have hnew : (p.pools.map (replicaFor p.resource size)).filter (fun r => r.resource.same resource) =
      p.pools.map (replicaFor p.resource size) := by
    refine List.filter_eq_self.2 fun r hr => ?_
    obtain ⟨x, -, rfl⟩ := List.mem_map.1 hr
    exact Name.same_iff.2 hp
  rw [replicasOf, record, List.filter_append, hnew]
  rfl

omit [Score σ] in
theorem replicasOf_record_of_ne (hp : p.resource.key ≠ resource.key) :
    (i.record p size).replicasOf resource = i.replicasOf resource := by
  have hnew : (p.pools.map (replicaFor p.resource size)).filter (fun r => r.resource.same resource) =
      [] := by
    refine List.filter_eq_nil_iff.2 fun r hr hsame => ?_
    obtain ⟨x, -, rfl⟩ := List.mem_map.1 hr
    exact hp (Name.same_iff.1 hsame)
  rw [replicasOf, record, List.filter_append, hnew, List.append_nil]
  rfl

theorem replicasOf_congr (h : placed.key = resource.key) :
    i.replicasOf placed = i.replicasOf resource := by
  unfold replicasOf Name.same
  rw [h]

theorem Consistent.hosts_distinct (h : i.Consistent) (resource : ResourceName) :
    (i.hostsOf resource).Pairwise fun m n => m.key ≠ n.key := by
  refine List.pairwise_map.2 ((h.replicas_distinct.filter _).imp_of_mem fun {r q} hr hq hne heq => ?_)
  have hkeys := (mem_replicasOf.1 hr).2.trans (mem_replicasOf.1 hq).2.symm
  exact hne (by rw [Replica.identity, Replica.identity, hkeys, heq])

theorem propOf?_of_ofInventory (hs : Snapshot.ofInventory i = .ok s) : s.propOf? = i.propOf? := by
  funext node key
  rw [Snapshot.propOf?, Snapshot.node?_of_ofInventory hs, propOf?]

/-! ## With the nodes of a placement -/

theorem deployed_perm {checked : CheckedConstraints} {context : PlacementContext}
    {candidates : List (Candidate σ)} (hs : Snapshot.ofInventory i = .ok s)
    (hcounts : c.skipAlreadyPlaced = false)
    (hstages : a.Stages s subject placed c checked context candidates) :
    (deployed c context).Perm (i.hostsOf placed) := by
  rw [hstages.deployed_eq, hosts, if_neg (by rw [hcounts]; exact Bool.false_ne_true)]
  exact (Snapshot.replicasOf_perm hs placed).map _

theorem hosts_distinct_of_place (hs : Snapshot.ofInventory i = .ok s)
    (hcounts : c.skipAlreadyPlaced = false)
    (h : (a.place s subject placed c).result = .ok (some p)) :
    (i.hostsOf placed ++ p.pools.map (·.node)).Pairwise fun m n => m.key ≠ n.key := by
  obtain ⟨-, checked, context, candidates, hstages, -, horder⟩ := Autoplacer.inOrder_of_place h
  have hdeployed := deployed_perm hs hcounts hstages
  have hold := (Snapshot.isOk_ofInventory_iff.1 ⟨s, hs⟩).hosts_distinct placed
  exact (horder.nodes_distinct (hold.perm hdeployed.symm Ne.symm)).perm (hdeployed.append_right _)
    Ne.symm

theorem spread_of_place (hs : Snapshot.ofInventory i = .ok s)
    (hcounts : c.skipAlreadyPlaced = false)
    (h : (a.place s subject placed c).result = .ok (some p))
    (hspread : Selection.Spread c.replicasOnSame c.replicasOnDifferent i.propOf? (i.hostsOf placed)) :
    Selection.Spread c.replicasOnSame c.replicasOnDifferent i.propOf?
      (i.hostsOf placed ++ p.pools.map (·.node)) := by
  obtain ⟨-, checked, context, candidates, hstages, -, horder⟩ := Autoplacer.inOrder_of_place h
  have hdeployed := deployed_perm hs hcounts hstages
  rw [← propOf?_of_ofInventory hs] at hspread ⊢
  exact (horder.spread (hspread.perm hdeployed.symm)).perm (hdeployed.append_right _)

theorem pool_of_place (hs : Snapshot.ofInventory i = .ok s)
    (h : (a.place s subject placed c).result = .ok (some p)) {x : Candidate σ} (hx : x ∈ p.pools) :
    i.HasNode x.node ∧ i.HasPool x.node x.pool ∧ i.kindOf? x.node x.pool = some x.provider ∧
      x.provider.isDiskless = false := by
  obtain ⟨-, checked, context, candidates, hstages, hamong, -⟩ := Autoplacer.inOrder_of_place h
  have hsound := hstages.soundPool (Snapshot.wellFormed_ofInventory hs) (hamong x hx)
  obtain ⟨q, hq, hfound, hshows⟩ := hsound.listed
  have hlisted : q ∈ i.pools := (Snapshot.lists_of_ofInventory hs).pools.mem_iff.1 hq
  have hdisk := hsound.not_diskless
  rw [← Snapshot.kind_of_ofInventory hs, hfound]
  subst hshows
  exact ⟨(Snapshot.isOk_ofInventory_iff.1 ⟨s, hs⟩).pool_node q hlisted, ⟨q, hlisted, rfl, rfl⟩, rfl,
    hdisk⟩

theorem Consistent.record (h : i.Consistent) (size : UInt64) (hs : Snapshot.ofInventory i = .ok s)
    (hcounts : c.skipAlreadyPlaced = false)
    (hplace : (a.place s subject placed c).result = .ok (some p)) :
    (i.record p size).Consistent := by
  obtain ⟨hplaced, -⟩ := Autoplacer.inOrder_of_place hplace
  have hdistinct := hosts_distinct_of_place hs hcounts hplace
  obtain ⟨-, hnew, hcross⟩ := List.pairwise_append.1 hdistinct
  have hpool {x : Candidate σ} (hx : x ∈ p.pools) := pool_of_place hs hplace hx
  refine { h with
    replicas_distinct := List.pairwise_append.2 ⟨h.replicas_distinct, ?new, ?cross⟩
    replica_node := List.forall_mem_append.2 ⟨h.replica_node, ?node⟩
    replica_volumes := List.forall_mem_append.2 ⟨h.replica_volumes, ?volumes⟩ }
  case new =>
    refine List.pairwise_map.2 ((List.pairwise_map.1 hnew).imp fun hne heq => hne ?_)
    exact congrArg Prod.snd (congrArg ofLex heq)
  case cross =>
    -- Two replicas of one resource on one node: the new one avoids the nodes of the old.
    intro r hr q hq heq
    obtain ⟨x, hx, rfl⟩ := List.mem_map.1 hq
    have hkeys := congrArg ofLex heq
    have hresource : r.resource.key = placed.key := (congrArg Prod.fst hkeys).trans (by rw [← hplaced]; rfl)
    exact hcross r.node (List.mem_map_of_mem (mem_replicasOf.2 ⟨hr, hresource⟩)) x.node
      (List.mem_map_of_mem hx) (congrArg Prod.snd hkeys)
  case node =>
    intro r hr
    obtain ⟨x, hx, rfl⟩ := List.mem_map.1 hr
    exact (hpool hx).1
  case volumes =>
    intro r hr v hv
    obtain ⟨x, hx, rfl⟩ := List.mem_map.1 hr
    obtain rfl := List.mem_singleton.1 hv
    exact (hpool hx).2.1

end Inventory

end ReplicaPlacement
