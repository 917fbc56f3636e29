import Mathlib.Data.List.Forall2
import ReplicaPlacement.Proofs.Access.Spelling
import ReplicaPlacement.Proofs.Cluster.Altered
import ReplicaPlacement.Proofs.Cluster.Build

/-!
# What a subject may see of a cluster

Two descriptions are alike to a subject if they differ only in what takes more access than it has:
the properties of nodes take access to view, and whether nodes are connected and how much room pools
have takes access to use. Redacting a cluster blacks that out, and what is alike is the same
redacted. Building a snapshot and redacting it can be done in either order.
-/

namespace ReplicaPlacement

/-! ## Alike to a subject -/

section Alike

variable (sees : SecuredObject → AccessLevel → Prop)

structure Node.AlikeTo (n n' : Node) : Prop where
  name_eq : n'.name = n.name
  props_eq : sees (.node n.name) .view → n'.props = n.props
  connected_eq : sees (.node n.name) .use → n'.connected = n.connected

/-- How much room there is shows only to who may use both the definition and the node. -/
structure Pool.AlikeTo (p p' : Pool) : Prop where
  name_eq : p'.name = p.name
  node_eq : p'.node = p.node
  provider_eq : p'.provider = p.provider
  room_eq : sees (.poolDefinition p.name) .use → sees (.node p.node) .use →
    p'.freeSpace = p.freeSpace ∧ p'.totalCapacity = p.totalCapacity

structure Inventory.AlikeTo (i i' : Inventory) : Prop where
  nodes : List.Forall₂ (Node.AlikeTo sees) i.nodes i'.nodes
  pools : List.Forall₂ (Pool.AlikeTo sees) i.pools i'.pools
  replicas_eq : i'.replicas = i.replicas
  resources_eq : i'.resources = i.resources

end Alike

/-! ## Objects -/

namespace Inventory

/-- The objects that access is checked to, as they are spelled. -/
def objects (i : Inventory) : List SecuredObject :=
  i.nodes.map (fun n => SecuredObject.node n.name) ++
    i.pools.flatMap (fun p => [SecuredObject.poolDefinition p.name, SecuredObject.node p.node]) ++
      i.replicas.map fun r => SecuredObject.node r.node

variable {i i' : Inventory}

theorem node_mem_objects {n : Node} (h : n ∈ i.nodes) : .node n.name ∈ i.objects :=
  List.mem_append_left _ (List.mem_append_left _ (List.mem_map.2 ⟨n, h, rfl⟩))

theorem pool_mem_objects {p : Pool} (h : p ∈ i.pools) :
    .poolDefinition p.name ∈ i.objects ∧ .node p.node ∈ i.objects := by
  have hmem : ∀ object ∈ [SecuredObject.poolDefinition p.name, .node p.node], object ∈ i.objects :=
    fun object hobject =>
      List.mem_append_left _ (List.mem_append_right _ (List.mem_flatMap.2 ⟨p, h, hobject⟩))
  exact ⟨hmem _ (by simp), hmem _ (by simp)⟩

theorem replica_mem_objects {r : Replica} (h : r ∈ i.replicas) : .node r.node ∈ i.objects :=
  List.mem_append_right _ (List.mem_map.2 ⟨r, h, rfl⟩)

theorem AlikeTo.imp {sees sees' : SecuredObject → AccessLevel → Prop} (h : i.AlikeTo sees i')
    (himp : ∀ object ∈ i.objects, ∀ level, sees' object level → sees object level) :
    i.AlikeTo sees' i' where
  nodes := by
    refine ((List.forall₂_and_left _ _).2 ⟨fun _ hn => node_mem_objects hn, h.nodes⟩).imp ?_
    rintro n n' ⟨hmem, hn⟩
    exact ⟨hn.name_eq, fun hview => hn.props_eq (himp _ hmem _ hview),
      fun huse => hn.connected_eq (himp _ hmem _ huse)⟩
  pools := by
    refine ((List.forall₂_and_left _ _).2 ⟨fun _ hp => pool_mem_objects hp, h.pools⟩).imp ?_
    rintro p p' ⟨⟨hdefinition, hnode⟩, hp⟩
    exact ⟨hp.name_eq, hp.node_eq, hp.provider_eq, fun hmay hmayNode =>
      hp.room_eq (himp _ hdefinition _ hmay) (himp _ hnode _ hmayNode)⟩
  replicas_eq := h.replicas_eq
  resources_eq := h.resources_eq

end Inventory

theorem Snapshot.Lists.mem_objects_iff {s : Snapshot} {i : Inventory} (h : s.Lists i)
    {object : SecuredObject} : object ∈ s.toInventory.objects ↔ object ∈ i.objects :=
  (((h.nodes.map _).append (h.pools.flatMap_right _)).append (h.replicas.map _)).mem_iff

/-! ## Redaction -/

variable (sees : SecuredObject → AccessLevel → Bool)

def Node.redacted (n : Node) : Node where
  name := n.name
  props := if sees (.node n.name) .view then n.props else []
  connected := if sees (.node n.name) .use then n.connected else false

def Pool.usable (p : Pool) : Bool := sees (.poolDefinition p.name) .use && sees (.node p.node) .use

def Pool.redacted (p : Pool) : Pool where
  name := p.name
  node := p.node
  provider := p.provider
  freeSpace := if p.usable sees then p.freeSpace else none
  totalCapacity := if p.usable sees then p.totalCapacity else none

def Inventory.redacted (i : Inventory) : Inventory :=
  { i with
    nodes := i.nodes.map (Node.redacted sees)
    pools := i.pools.map (Pool.redacted sees) }

def PoolDefinition.redacted (d : PoolDefinition) : PoolDefinition :=
  { d with pools := d.pools.map (Pool.redacted sees) }

def Snapshot.redacted (s : Snapshot) : Snapshot :=
  { s with
    nodes := s.nodes.map (Node.redacted sees)
    definitions := s.definitions.map (PoolDefinition.redacted sees) }

theorem Inventory.objects_redacted (i : Inventory) : (i.redacted sees).objects = i.objects := by
  rw [objects, redacted, List.map_map, List.flatMap_map]
  rfl

/-- What the subject may access of the objects counts as seen, in whichever way it is spelled. -/
structure AccessPolicy.Sight (policy : AccessPolicy) (subject : Subject)
    (objects : List SecuredObject) : Prop where
  of_has : ∀ {object level}, object ∈ objects → policy.has subject object level = true →
    sees object level = true
  congr : ∀ {object object' : SecuredObject}, object.key = object'.key → ∀ level,
    sees object level = sees object' level

variable {sees}

theorem AccessPolicy.Sight.of_lists {policy : AccessPolicy} {subject : Subject} {s : Snapshot}
    {i : Inventory} (h : policy.Sight sees subject i.objects) (hlists : s.Lists i) :
    policy.Sight sees subject s.toInventory.objects :=
  ⟨fun hobject => h.of_has (hlists.mem_objects_iff.1 hobject), h.congr⟩

/-! ## What is alike is the same redacted -/

theorem Node.AlikeTo.redacted_eq {n n' : Node} (h : n.AlikeTo (fun object level => sees object level) n') :
    n.redacted sees = n'.redacted sees := by
  unfold redacted
  rw [h.name_eq]
  congr 1
  · split
    · next hview => rw [h.props_eq hview]
    · rfl
  · split
    · next huse => rw [h.connected_eq huse]
    · rfl

theorem Pool.AlikeTo.redacted_eq {p p' : Pool} (h : p.AlikeTo (fun object level => sees object level) p') :
    p.redacted sees = p'.redacted sees := by
  have husable : p'.usable sees = p.usable sees := by rw [usable, usable, h.name_eq, h.node_eq]
  unfold redacted
  rw [h.name_eq, h.node_eq, h.provider_eq, husable]
  cases hseen : p.usable sees with
  | false => rfl
  | true =>
    rw [usable, Bool.and_eq_true] at hseen
    obtain ⟨hfree, hcapacity⟩ := h.room_eq hseen.1 hseen.2
    rw [hfree, hcapacity]

theorem Inventory.AlikeTo.redacted_eq {i i' : Inventory}
    (h : i.AlikeTo (fun object level => sees object level) i') : i.redacted sees = i'.redacted sees := by
  have hnodes : i.nodes.map (Node.redacted sees) = i'.nodes.map (Node.redacted sees) := by
    rw [← List.forall₂_eq_eq_eq, List.forall₂_map_left_iff, List.forall₂_map_right_iff]
    exact h.nodes.imp fun _ _ => Node.AlikeTo.redacted_eq
  have hpools : i.pools.map (Pool.redacted sees) = i'.pools.map (Pool.redacted sees) := by
    rw [← List.forall₂_eq_eq_eq, List.forall₂_map_left_iff, List.forall₂_map_right_iff]
    exact h.pools.imp fun _ _ => Pool.AlikeTo.redacted_eq
  rw [redacted, redacted, hnodes, hpools, h.replicas_eq, h.resources_eq]

theorem Pool.redacted_of_usable {p : Pool} (h : p.usable sees = true) : p.redacted sees = p := by
  simp [redacted, h]

theorem AccessPolicy.has_view_of_use {policy : AccessPolicy} {subject : Subject}
    {object : SecuredObject} (h : policy.has subject object .use = true) :
    policy.has subject object .view = true :=
  has_lower (by decide) h

namespace Snapshot

variable {s : Snapshot}

theorem keepsNames_redacted : KeepsNames (Node.redacted sees) (Pool.redacted sees) :=
  ⟨fun _ => rfl, fun _ => rfl, fun _ => rfl⟩

theorem node?_redacted (name : NodeName) :
    (s.redacted sees).node? name = (s.node? name).map (Node.redacted sees) :=
  node?_altered keepsNames_redacted name

theorem pool?_redacted (node : NodeName) (name : PoolName) :
    (s.redacted sees).pool? node name = (s.pool? node name).map (Pool.redacted sees) :=
  pool?_altered keepsNames_redacted node name

theorem ofInventory_redacted (i : Inventory) :
    ofInventory (i.redacted sees) = (ofInventory i).map (redacted sees) :=
  ofInventory_altered keepsNames_redacted i

variable {policy : AccessPolicy} {subject : Subject} {objects : List SecuredObject}
  (hsees : policy.Sight sees subject objects)

include hsees

/-- A node is listed in one spelling and looked up in another. -/
theorem sees_listed {name : NodeName} {n : Node} (hn : s.node? name = some n) {level : AccessLevel}
    (h : sees (.node name) level = true) : sees (.node n.name) level = true := by
  have hkey : (SecuredObject.node n.name).key = (SecuredObject.node name).key :=
    congrArg ObjectKey.node (Ordered.find?_eq_some hn).2
  rwa [hsees.congr hkey]

theorem props_redacted {name : NodeName} {n : Node} (hn : s.node? name = some n)
    (h : sees (.node name) .view = true) : (n.redacted sees).props = n.props := by
  rw [Node.redacted, if_pos (sees_listed hsees hn h)]

end Snapshot

end ReplicaPlacement
