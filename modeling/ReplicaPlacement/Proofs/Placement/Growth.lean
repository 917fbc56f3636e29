import Mathlib.Logic.Relation
import ReplicaPlacement.Proofs.Placement.Record

/-!
# Growing a resource

A resource grows by placements that are carried out one after another, while other resources grow
and shrink, nodes are lost and found again, and pools fill up. Whatever happens, the inventory still
builds, and the replicas of the resource have one provider kind and satisfy its property filters, as
the next placement needs it.
-/

namespace ReplicaPlacement

variable {σ : Type}

namespace Inventory

/-! ## What happens to a cluster -/

/-- One change to a cluster. Any resource may be placed, by anyone and under any constraints that
count its existing replicas; one resource always has the same property filters. -/
inductive Step (resource : ResourceName) (same different : List PropertyFilter) :
    Inventory → Inventory → Prop
  | place {σ : Type} [Score σ] {i : Inventory} {s : Snapshot} {a : Autoplacer σ} {subject : Subject}
      {placed : ResourceName} {c : ConstraintSet} {p : Placement σ} (size : UInt64)
      (built : Snapshot.ofInventory i = .ok s)
      (counts : c.skipAlreadyPlaced = false)
      (filters : placed.key = resource.key → c.replicasOnSame = same ∧ c.replicasOnDifferent = different)
      (decided : (a.place s subject placed c).result = .ok (some p)) :
      Step resource same different i (i.record p size)
  | connect (i : Inventory) (name : NodeName) (connected : Bool) :
      Step resource same different i (i.setConnected name connected)
  | resize (i : Inventory) (f : Pool → Option UInt64) :
      Step resource same different i (i.setFreeSpace f)
  | remove (i : Inventory) (removed : ResourceName) :
      Step resource same different i (i.removeReplicas removed)

/-! ## What is kept -/

/-- The inventory builds, all data of the resource is of one kind, and its nodes satisfy the
filters. -/
structure Grown (resource : ResourceName) (same different : List PropertyFilter) (i : Inventory) :
    Prop where
  consistent : i.Consistent
  one_kind : ∃ kind : ProviderKind, kind.isDiskless = false ∧ ∀ r ∈ i.replicasOf resource,
    r.diskless = false ∧ r.volumes ≠ [] ∧ ∀ v ∈ r.volumes, i.kindOf? r.node v.pool = some kind
  spread : Selection.Spread same different i.propOf? (i.hostsOf resource)

variable {resource : ResourceName} {same different : List PropertyFilter} {i i' : Inventory}

theorem Grown.mono (h : Grown resource same different i) (hconsistent : i'.Consistent)
    (hprops : i'.propOf? = i.propOf?) (hkinds : i'.kindOf? = i.kindOf?)
    (hreplicas : (i'.replicasOf resource).Sublist (i.replicasOf resource)) :
    Grown resource same different i' := by
  obtain ⟨kind, hdisk, hdata⟩ := h.one_kind
  refine ⟨hconsistent, ⟨kind, hdisk, fun r hr => ?_⟩, ?_⟩
  · rw [hkinds]
    exact hdata r (hreplicas.subset hr)
  · rw [hprops]
    exact h.spread.sublist (hreplicas.map _)

theorem Grown.setConnected (h : Grown resource same different i) (name : NodeName)
    (connected : Bool) : Grown resource same different (i.setConnected name connected) := by
  let f (n : Node) : Node := if n.name.same name then { n with connected } else n
  have hkey (n : Node) : Snapshot.nodeKey (f n) = Snapshot.nodeKey n := by
    simp only [f]
    split <;> rfl
  have hprop (n : Node) (key : String) : (f n).prop? key = n.prop? key := by
    simp only [f]
    split <;> rfl
  refine h.mono ?consistent ?props rfl (List.Sublist.refl _)
  case consistent =>
    have hpools : (i.setConnected name connected).pools = i.pools.map id := (List.map_id _).symm
    have hreplicas : (i.setConnected name connected).replicas = i.replicas.map id := (List.map_id _).symm
    exact (consistent_map_iff rfl hpools hreplicas hkey (fun _ => rfl) (fun _ => rfl) fun _ => rfl).2
      h.consistent
  case props =>
    funext node key
    have hfind : (i.setConnected name connected).node? node = (i.node? node).map f :=
      Ordered.find?_map hkey _ _
    rw [propOf?, propOf?, hfind]
    cases i.node? node with
    | none => rfl
    | some n => exact hprop n key

theorem Grown.setFreeSpace (h : Grown resource same different i) (f : Pool → Option UInt64) :
    Grown resource same different (i.setFreeSpace f) := by
  let g (p : Pool) : Pool := { p with freeSpace := f p }
  have hidentity (p : Pool) : (g p).identity = p.identity := rfl
  refine h.mono ?consistent rfl ?kinds (List.Sublist.refl _)
  case consistent =>
    have hnodes : (i.setFreeSpace f).nodes = i.nodes.map id := (List.map_id _).symm
    have hreplicas : (i.setFreeSpace f).replicas = i.replicas.map id := (List.map_id _).symm
    exact (consistent_map_iff hnodes rfl hreplicas (fun _ => rfl) hidentity (fun _ => rfl)
      fun _ => rfl).2 h.consistent
  case kinds =>
    funext node name
    have hfind : Ordered.find? Pool.identity (toLex (name.key, node.key)) (i.setFreeSpace f).pools =
        (Ordered.find? Pool.identity (toLex (name.key, node.key)) i.pools).map g :=
      Ordered.find?_map hidentity _ _
    rw [kindOf?, kindOf?, hfind, Option.map_map]
    rfl

theorem Grown.removeReplicas (h : Grown resource same different i) (removed : ResourceName) :
    Grown resource same different (i.removeReplicas removed) :=
  h.mono (h.consistent.sublist List.filter_sublist) rfl rfl (List.filter_sublist.filter _)

/-! ## One placement -/

variable [Score σ] {placed : ResourceName} {a : Autoplacer σ} {s : Snapshot} {subject : Subject}
  {c : ConstraintSet} {p : Placement σ}

theorem Grown.kind_of_place (h : Grown resource same different i) (hs : Snapshot.ofInventory i = .ok s)
    (hplace : (a.place s subject placed c).result = .ok (some p)) (hkey : placed.key = resource.key) :
    ∃ kind : ProviderKind, kind.isDiskless = false ∧ (∀ x ∈ p.pools, x.provider = kind) ∧
      ∀ r ∈ i.replicasOf resource, r.diskless = false ∧ r.volumes ≠ [] ∧
        ∀ v ∈ r.volumes, i.kindOf? r.node v.pool = some kind := by
  obtain ⟨-, checked, context, candidates, hstages, -, horder⟩ := Autoplacer.inOrder_of_place hplace
  obtain ⟨kind, hdisk, hdata⟩ := h.one_kind
  obtain ⟨-, hfixed⟩ := PlacementContext.ofResource_eq_ok hstages.context_eq
  rcases List.eq_nil_or_concat (i.replicasOf resource) with hnone | ⟨_, r, hsome⟩
  · -- The resource is new, so the first chosen pool decides.
    rw [hnone]
    cases hpools : p.pools with
    | nil => exact ⟨kind, hdisk, by simp⟩
    | cons x xs =>
      rw [hpools] at horder
      have hx := pool_of_place hs hplace (hpools ▸ List.mem_cons_self)
      exact ⟨x.provider, hx.2.2.2, fun y hy => horder.one_kind y hy x List.mem_cons_self, by simp⟩
  · -- A volume with data is found, and its kind is the one that is locked.
    refine ⟨kind, hdisk, ?_, hdata⟩
    have hr : r ∈ i.replicasOf resource := by simp [hsome]
    obtain ⟨hdiskful, hne, hvolumes⟩ := hdata r hr
    obtain ⟨v, hv⟩ := List.exists_mem_of_ne_nil _ hne
    have hkind := hvolumes v hv
    rw [← Snapshot.kind_of_ofInventory hs] at hkind
    obtain ⟨q, hq, hkind⟩ := Option.map_eq_some_iff.1 hkind
    have hmem : r ∈ s.replicasOf placed :=
      (Snapshot.replicasOf_perm hs placed).mem_iff.2 (by rwa [replicasOf_congr hkey])
    have hprovider := hfixed r hmem kind ⟨hdiskful, v, hv, q, hq, by rwa [hkind], hkind⟩
    exact horder.provider_eq (by simp [Selection.fixedKind, hprovider])

theorem Grown.record (h : Grown resource same different i) (size : UInt64)
    (hs : Snapshot.ofInventory i = .ok s) (hcounts : c.skipAlreadyPlaced = false)
    (hfilters : placed.key = resource.key →
      c.replicasOnSame = same ∧ c.replicasOnDifferent = different)
    (hplace : (a.place s subject placed c).result = .ok (some p)) :
    Grown resource same different (i.record p size) := by
  obtain ⟨hplaced, -⟩ := Autoplacer.inOrder_of_place hplace
  have hconsistent := h.consistent.record size hs hcounts hplace
  by_cases hkey : placed.key = resource.key
  · obtain ⟨rfl, rfl⟩ := hfilters hkey
    have hreplicas : (i.record p size).replicasOf resource =
        i.replicasOf resource ++ p.pools.map (replicaFor p.resource size) :=
      replicasOf_record (by rw [hplaced, hkey])
    refine ⟨hconsistent, ?_, ?_⟩
    · obtain ⟨kind, hdisk, hnew, hold⟩ := h.kind_of_place hs hplace hkey
      rw [hreplicas]
      refine ⟨kind, hdisk, List.forall_mem_append.2 ⟨hold, fun r hr => ?_⟩⟩
      obtain ⟨x, hx, rfl⟩ := List.mem_map.1 hr
      refine ⟨rfl, List.cons_ne_nil _ _, fun v hv => ?_⟩
      obtain rfl := List.mem_singleton.1 hv
      exact (hnew x hx) ▸ (pool_of_place hs hplace hx).2.2.1
    · have hhosts : (i.record p size).hostsOf resource =
          i.hostsOf placed ++ p.pools.map (·.node) := by
        rw [hostsOf, hreplicas, hostsOf, replicasOf_congr hkey, List.map_append, List.map_map]
        rfl
      rw [hhosts]
      refine spread_of_place hs hcounts hplace ?_
      rw [hostsOf, replicasOf_congr hkey]
      exact h.spread
  · -- The placement of another resource leaves these replicas alone.
    refine h.mono hconsistent rfl rfl ?_
    rw [replicasOf_record_of_ne (by rwa [hplaced])]

/-! ## Runs -/

theorem Grown.step (h : Grown resource same different i) (hstep : Step resource same different i i') :
    Grown resource same different i' := by
  cases hstep with
  | place size built counts filters decided => exact h.record size built counts filters decided
  | connect _ name connected => exact h.setConnected name connected
  | resize _ f => exact h.setFreeSpace f
  | remove _ removed => exact h.removeReplicas removed

theorem Grown.run (h : Grown resource same different i)
    (hrun : Relation.ReflTransGen (Step resource same different) i i') :
    Grown resource same different i' := by
  induction hrun with
  | refl => exact h
  | tail _ hstep ih => exact ih.step hstep

theorem grown_of_none (hbuilt : ∃ s, Snapshot.ofInventory i = .ok s)
    (hnone : ∀ r ∈ i.replicas, r.resource.key ≠ resource.key) : Grown resource same different i := by
  have hempty : i.replicasOf resource = [] :=
    List.filter_eq_nil_iff.2 fun r hr hsame => hnone r hr (Name.same_iff.1 hsame)
  refine ⟨Snapshot.isOk_ofInventory_iff.1 hbuilt, ⟨.lvm, rfl, by simp [hempty]⟩, ?_⟩
  rw [hostsOf, hempty]
  exact Selection.spread_nil

/-- The inventory builds, and what the next placement of the resource starts from is as it should
be: the nodes of the replicas, one provider kind, and values that the property filters allow. -/
structure Legal (resource : ResourceName) (same different : List PropertyFilter) (i : Inventory)
    (s : Snapshot) (context : PlacementContext) : Prop where
  built : Snapshot.ofInventory i = .ok s
  context_eq : PlacementContext.ofResource s resource = .ok context
  nodes_eq : context.deployedNodes.Perm (i.hostsOf resource)
  locked_iff : context.provider.isSome = true ↔ i.replicasOf resource ≠ []
  one_kind : ∀ r ∈ i.replicasOf resource, ∀ v ∈ r.volumes,
    (s.pool? r.node v.pool).map (·.provider) = context.provider
  spread : Selection.Spread same different s.propOf? context.deployedNodes

theorem Grown.legal (h : Grown resource same different i) :
    ∃ s context, Legal resource same different i s context := by
  obtain ⟨s, hs⟩ := Snapshot.isOk_ofInventory_iff.2 h.consistent
  obtain ⟨kind, hdisk, hdata⟩ := h.one_kind
  have hperm := Snapshot.replicasOf_perm hs resource
  have hnil : s.replicasOf resource = [] ↔ i.replicasOf resource = [] :=
    ⟨fun h => (h ▸ hperm).nil_eq.symm, fun h => (h ▸ hperm).eq_nil⟩
  have hfound : ∀ r ∈ s.replicasOf resource, r.diskless = false ∧ r.volumes ≠ [] ∧
      ∀ v ∈ r.volumes, (s.pool? r.node v.pool).map (·.provider) = some kind := by
    intro r hr
    simp only [Snapshot.kind_of_ofInventory hs]
    exact hdata r (hperm.mem_iff.1 hr)
  refine ⟨s, _, hs, PlacementContext.ofResource_of_kind hdisk hfound, hperm.map _, ?locked_iff,
    ?one_kind, ?spread⟩
  case locked_iff =>
    by_cases hempty : i.replicasOf resource = [] <;> simp [hnil, hempty]
  case one_kind =>
    intro r hr v hv
    have hne : i.replicasOf resource ≠ [] := List.ne_nil_of_mem hr
    rw [Snapshot.kind_of_ofInventory hs, (hdata r hr).2.2 v hv, if_neg (hnil.not.2 hne)]
  case spread =>
    rw [propOf?_of_ofInventory hs]
    exact h.spread.perm (hperm.map _).symm

/-- Whatever happens to a cluster that builds, a resource without replicas at the start grows
legally. -/
theorem legal_of_run (hbuilt : ∃ s, Snapshot.ofInventory i = .ok s)
    (hnone : ∀ r ∈ i.replicas, r.resource.key ≠ resource.key)
    (hrun : Relation.ReflTransGen (Step resource same different) i i') :
    ∃ s context, Legal resource same different i' s context :=
  ((grown_of_none hbuilt hnone).run hrun).legal

/-! ## Two racks -/

open Snapshot (alpha beta ssd)

def racks (alphaUp betaUp : Bool) (replicas : List Replica) : Inventory where
  nodes := [
    { name := alpha, props := [("rack", "r1")], connected := alphaUp },
    { name := beta, props := [("rack", "r2")], connected := betaUp }]
  pools := Snapshot.pairInventory.pools
  replicas := replicas

def onOtherRack : ConstraintSet where
  replicaCount := 1
  replicasOnDifferent := [⟨"rack", none⟩]

def replicaOnAlpha : Replica := replicaFor Autoplacer.database 5 (Selection.onAlpha 1.0)

def onBeta : Candidate Float := ⟨ssd, beta, .lvm, 1.0, some 20⟩

def emptyRacks : Snapshot where
  nodes := (racks true false []).nodes
  definitions := Snapshot.pair.definitions

def racksWithOne : Snapshot where
  nodes := (racks false true []).nodes
  definitions := Snapshot.pair.definitions
  deployments := [⟨Autoplacer.database, [replicaOnAlpha]⟩]
  resources := [Autoplacer.database]

theorem place_emptyRacks :
    (Autoplacer.uniform.place emptyRacks systemSubject Autoplacer.database onOtherRack).result =
      .ok (some (.ofSelection Autoplacer.database [Selection.onAlpha 1.0])) := by
  have hstages : Autoplacer.uniform.Stages emptyRacks systemSubject Autoplacer.database onOtherRack
      ⟨onOtherRack, none⟩ {} [Selection.onAlpha 1.0] := ⟨rfl, rfl, rfl, rfl⟩
  exact hstages.place_singleton ⟨by decide, nofun⟩ rfl
    (Selection.mayFollow_first nofun (by simp [onOtherRack])) (by decide +kernel)

theorem place_racksWithOne :
    (Autoplacer.uniform.place racksWithOne systemSubject Autoplacer.database onOtherRack).result =
      .ok (some (.ofSelection Autoplacer.database [onBeta])) := by
  have hstages : Autoplacer.uniform.Stages racksWithOne systemSubject Autoplacer.database onOtherRack
      ⟨onOtherRack, none⟩ ⟨[alpha], some .lvm⟩ [onBeta] := ⟨rfl, rfl, rfl, rfl⟩
  refine hstages.place_singleton ⟨by decide, by decide⟩ rfl ⟨by decide, ?_, by decide, ?_⟩
    (by decide +kernel)
  · rintro kind hkind
    exact Option.some.inj hkind
  · intro f hf v hv
    obtain rfl := List.mem_singleton.1 hf
    obtain rfl : "r2" = v := Option.some.inj hv
    decide

/-- The resource gets a replica in one rack, the other node takes over, and it gets one there. -/
theorem legal_racks :
    let grown := (racks false true [replicaOnAlpha]).record
      (.ofSelection Autoplacer.database [onBeta] : Placement Float) 5
    Relation.ReflTransGen (Step Autoplacer.database [] [⟨"rack", none⟩]) (racks true false []) grown ∧
      ∃ s context, Legal Autoplacer.database [] [⟨"rack", none⟩] grown s context := by
  have hbuilt : Snapshot.ofInventory (racks true false []) = .ok emptyRacks := by decide +kernel
  have hbuilt' : Snapshot.ofInventory (racks false true [replicaOnAlpha]) = .ok racksWithOne := by
    decide +kernel
  have hfirst : Step Autoplacer.database [] [⟨"rack", none⟩] (racks true false [])
      (racks true false [replicaOnAlpha]) :=
    .place 5 hbuilt rfl (fun _ => ⟨rfl, rfl⟩) place_emptyRacks
  have hbeta : Step Autoplacer.database [] [⟨"rack", none⟩] (racks true false [replicaOnAlpha])
      (racks true true [replicaOnAlpha]) := .connect _ beta true
  have halpha : Step Autoplacer.database [] [⟨"rack", none⟩] (racks true true [replicaOnAlpha])
      (racks false true [replicaOnAlpha]) := .connect _ alpha false
  have hrun := Relation.ReflTransGen.tail (.tail (.tail (.single hfirst) hbeta) halpha)
    (.place 5 hbuilt' rfl (fun _ => ⟨rfl, rfl⟩) place_racksWithOne)
  exact ⟨hrun, legal_of_run ⟨_, hbuilt⟩ nofun hrun⟩

end Inventory

end ReplicaPlacement
