import Mathlib.Data.List.Forall2
import ReplicaPlacement.Proofs.Cluster.SameObjects
import ReplicaPlacement.Proofs.Placement.Answer
import ReplicaPlacement.Proofs.Placement.Spelling
import ReplicaPlacement.Proofs.Registry.Accept

/-!
# Placement after a reload

A placement from a registry that a snapshot was saved to is the placement on the snapshot itself. What
is loaded lists the same objects, and every stage asks only for these. Only the name of a definition may
be spelled in another way, like another of its pools, and it is asked about and refused as it is spelled.
So the two agree if the policy does not tell apart the spellings that the pools of a definition have.
-/

namespace ReplicaPlacement

/-! ## Faults -/

/-- The same fault, or that one definition is hidden alike in either spelling of its name. -/
inductive Fault.Alike (policy : AccessPolicy) (subject : Subject) : Fault → Fault → Prop
  | refl (fault : Fault) : Alike policy subject fault fault
  | definition {name name' : PoolName} (h : name.key = name'.key)
      (granted_eq : policy.query subject (.poolDefinition name') =
        policy.query subject (.poolDefinition name)) (action : String) :
      Alike policy subject (.hidden action (.poolDefinition name))
        (.hidden action (.poolDefinition name'))

/-- The name of a definition is granted alike as each of its pools spells it. -/
def AccessPolicy.IgnoresListedSpelling (policy : AccessPolicy) (subject : Subject) (s : Snapshot) :
    Prop :=
  ∀ d ∈ s.definitions, ∀ p ∈ d.pools,
    policy.query subject (.poolDefinition p.name) = policy.query subject (.poolDefinition d.name)

theorem AccessPolicy.ignoresListedSpelling_of_ignoresSpelling {policy : AccessPolicy}
    {subject : Subject} {s : Snapshot} (hs : s.WellFormed)
    (h : ∀ d ∈ s.definitions, policy.IgnoresSpelling subject (.poolDefinition d.name)) :
    policy.IgnoresListedSpelling subject s :=
  fun d hd p hp => (h d hd).query_eq (congrArg ObjectKey.poolDefinition (hs.pool_named d hd p hp))

theorem AccessPolicy.viewFaults_alike {policy : AccessPolicy} {subject : Subject}
    {name name' : PoolName} (h : name.key = name'.key)
    (hquery : policy.query subject (.poolDefinition name') =
      policy.query subject (.poolDefinition name)) (action : String) :
    List.Forall₂ (Fault.Alike policy subject)
      (policy.viewFaults subject action (.poolDefinition name))
      (policy.viewFaults subject action (.poolDefinition name')) := by
  unfold viewFaults has
  rw [hquery]
  split
  · exact .nil
  · exact .cons (.definition h hquery action) .nil

theorem Fault.forall₂_alike_refl {policy : AccessPolicy} {subject : Subject} (faults : List Fault) :
    List.Forall₂ (Alike policy subject) faults faults :=
  List.forall₂_same.2 fun fault _ => .refl fault

section SameObjects

variable {s s' : Snapshot} (h : s.SameObjects s')

include h

/-! ## Existing replicas -/

namespace Snapshot.SameObjects

theorem propOf?_eq (name : NodeName) (key : String) : s'.propOf? name key = s.propOf? name key := by
  rw [propOf?, propOf?, h.node?_eq]

theorem dataKinds_eq (resource : ResourceName) : s'.dataKinds resource = s.dataKinds resource := by
  have hkinds : s'.kindsOf = s.kindsOf := funext fun r => by simp only [kindsOf, h.pool?_eq]
  rw [dataKinds, dataKinds, h.replicasOf_eq, hkinds]

theorem observed_eq (resource : ResourceName) :
    PlacementContext.observed s' resource = PlacementContext.observed s resource := by
  rw [PlacementContext.observed, PlacementContext.observed, h.replicasOf_eq, h.dataKinds_eq]

end Snapshot.SameObjects

/-! ## Pools -/

variable {σ : Type} {f : ScoreFunction σ} {policy : AccessPolicy} {subject : Subject} {size : UInt64}

namespace PoolRequest

theorem reaches_sameObjects (p : Pool) :
    reaches ⟨s', policy, subject, size⟩ p = reaches ⟨s, policy, subject, size⟩ p := by
  simp only [reaches, h.node?_eq]

theorem eligible_sameObjects {p : Pool} :
    Eligible ⟨s', policy, subject, size⟩ p ↔ Eligible ⟨s, policy, subject, size⟩ p := by
  rw [eligible_iff, eligible_iff, reaches_sameObjects h]
  exact Iff.rfl

theorem offer?_sameObjects :
    offer? ⟨s', policy, subject, size⟩ f = offer? ⟨s, policy, subject, size⟩ f :=
  funext fun _ => if_congr (eligible_sameObjects h) rfl rfl

variable [Score σ]

theorem poolFaults_sameObjects :
    poolFaults ⟨s', policy, subject, size⟩ f = poolFaults ⟨s, policy, subject, size⟩ f := by
  funext p
  have hscore : scoreFaults ⟨s', policy, subject, size⟩ f p = scoreFaults ⟨s, policy, subject, size⟩ f p :=
    if_congr (and_congr_left' (eligible_sameObjects h)) rfl rfl
  unfold poolFaults
  rw [reaches_sameObjects h, hscore]
  rfl

theorem definitionFaults_sameObjects {d d' : PoolDefinition} (hd : d.content = d'.content)
    (hquery : policy.query subject (.poolDefinition d'.name) =
      policy.query subject (.poolDefinition d.name)) :
    List.Forall₂ (Fault.Alike policy subject) (definitionFaults ⟨s, policy, subject, size⟩ f d)
      (definitionFaults ⟨s', policy, subject, size⟩ f d') := by
  obtain ⟨hkey, hpools⟩ := Prod.mk.inj hd
  unfold definitionFaults
  rw [poolFaults_sameObjects h, hpools]
  exact List.rel_append (policy.viewFaults_alike hkey hquery _) (Fault.forall₂_alike_refl _)

end PoolRequest

/-! ## Constraints -/

namespace CheckedConstraints

variable (c : CheckedConstraints)

theorem eligible_sameObjects :
    c.eligible (PoolRequest.offers ⟨s', policy, subject, size⟩ f) =
      c.eligible (PoolRequest.offers ⟨s, policy, subject, size⟩ f) := by
  -- A forced pool asks for a name by its identity, which is the same for both spellings of a group.
  have hcontents (definitions : List PoolDefinition) :
      (definitions.filter fun d => c.constraints.forcedPool.all fun forced => forced.same d.name).flatMap
          (fun d => d.pools.filterMap (PoolRequest.offer? ⟨s, policy, subject, size⟩ f)) =
        ((definitions.map PoolDefinition.content).filter fun d => c.constraints.forcedPool.all fun forced =>
          decide (forced.key = d.1)).flatMap
            fun d => d.2.filterMap (PoolRequest.offer? ⟨s, policy, subject, size⟩ f) := by
    rw [List.filter_map, List.flatMap_map]
    rfl
  rw [eligible_offers, eligible_offers, PoolRequest.offer?_sameObjects h, hcontents, hcontents,
    h.contents_eq]

theorem keepApart_sameObjects (cs : List (Candidate σ)) :
    (c.keepApart s' cs).value = (c.keepApart s cs).value := by
  have hexcluded : c.excludedResources s' = c.excludedResources s := by
    rw [excludedResources, excludedResources, h.resources_eq]
  have hnode : onFreeNode (σ := σ) s' = onFreeNode s := by
    funext excluded x
    rw [onFreeNode, onFreeNode, h.resourcesOn_eq]
  have hpool : inFreePool (σ := σ) s' = inFreePool s := by
    funext excluded x
    rw [inFreePool, inFreePool, h.resourcesIn_eq]
  rw [keepApart_value, keepApart_value, hexcluded, hnode, hpool]

variable [Score σ]

theorem admissible_sameObjects :
    (c.admissible s' (PoolRequest.offers ⟨s', policy, subject, size⟩ f)).value =
      (c.admissible s (PoolRequest.offers ⟨s, policy, subject, size⟩ f)).value := by
  have hmismatch (fs : List PropertyFilter) : mismatch? (σ := σ) s' fs = mismatch? s fs := by
    funext x
    simp only [mismatch?, propertyOf, h.node?_eq]
  rw [admissible_value, admissible_value, eligible_sameObjects h, keepApart_sameObjects h, hmismatch]

end CheckedConstraints

/-! ## Placement -/

namespace Autoplacer

variable {a : Autoplacer σ} {resource : ResourceName} {c : ConstraintSet}

theorem deployedFaults_sameObjects :
    a.deployedFaults s' subject resource c = a.deployedFaults s subject resource c := by
  rw [deployedFaults, deployedFaults, h.observed_eq]

variable [Score σ]

theorem faults_sameObjects (hspelling : a.policy.IgnoresListedSpelling subject s) :
    List.Forall₂ (Fault.Alike a.policy subject) (a.faults s subject resource c)
      (a.faults s' subject resource c) := by
  unfold faults
  rw [h.dataKinds_eq, deployedFaults_sameObjects h]
  refine List.rel_append (Fault.forall₂_alike_refl _) (List.rel_flatMap h.definitions_forall₂ ?_)
  rintro d d' ⟨hd, hd', hcontent⟩
  obtain ⟨p, hp, hname⟩ := h.exists_pool_spelled hd' hcontent
  exact PoolRequest.definitionFaults_sameObjects h hcontent (hname ▸ hspelling d hd p hp)

theorem answer_sameObjects : a.answer s' subject resource c = a.answer s subject resource c := by
  have hoffers : a.admissibleOffers s' subject c = a.admissibleOffers s subject c :=
    CheckedConstraints.admissible_sameObjects h _
  rw [answer, answer, Selection.selected_congr h.propOf?_eq, h.observed_eq, hoffers]

end Autoplacer

end SameObjects

/-! ## The registry -/

namespace Autoplacer

variable {σ : Type} [Score σ] {a : Autoplacer σ} {s s' : Snapshot} {subject : Subject}
  {resource : ResourceName} {c : ConstraintSet}

/-- Equal outcomes, or two refusals to list one definition, by either spelling of its name. -/
inductive Agrees {α : Type} : Except PlacementError α → Except PlacementError α → Prop
  | same (outcome : Except PlacementError α) : Agrees outcome outcome
  | definition {name name' : PoolName} (h : name.key = name'.key) (action : String) (subject : Subject)
      (requested : AccessLevel) (granted : Option AccessLevel) : Agrees
        (.error (.accessDenied action
          ⟨subject, (SecuredObject.poolDefinition name).describe, requested, granted⟩))
        (.error (.accessDenied action
          ⟨subject, (SecuredObject.poolDefinition name').describe, requested, granted⟩))

theorem not_agrees_error_ok {α : Type} {e : PlacementError} {x : α} :
    ¬ Agrees (.error e) (.ok x) := nofun

theorem agrees_failing {α : Type} {faults faults' : List Fault}
    (hfaults : List.Forall₂ (Fault.Alike a.policy subject) faults faults') (outcome : α) :
    Agrees (Outcome.failing (faults.map (Fault.error a.policy subject a.scorer)) outcome)
      (Outcome.failing (faults'.map (Fault.error a.policy subject a.scorer)) outcome) := by
  cases hfaults with
  | nil => exact .same _
  | cons hfault _ =>
    cases hfault with
    | refl => exact .same _
    | definition hname hgranted action =>
      simp only [List.map_cons, Outcome.failing, Fault.error, hgranted]
      exact .definition hname action subject .view _

theorem place_sameObjects (h : s.SameObjects s')
    (hspelling : a.policy.IgnoresListedSpelling subject s) :
    Agrees (a.place s subject resource c).result (a.place s' subject resource c).result := by
  rw [place_eq_failing h.wellFormed_left, place_eq_failing h.wellFormed_right, answer_sameObjects h]
  exact agrees_failing (faults_sameObjects h hspelling) _

theorem result_placeFromRegistry {codec : Codec} {view : Store.Content}
    (hload : (Registry.load codec view).result = .ok s) :
    (a.placeFromRegistry codec view subject resource c).result = (a.place s subject resource c).result := by
  rw [placeFromRegistry, Attempt.result_bind, Attempt.result_mapError, hload]
  rfl

open Snapshot (alpha beta ssd)

def unlisted : Autoplacer Float :=
  { uniform with
    policy := ⟨fun _ object =>
      if object.key = .poolDefinition ssd.key then none else some .control⟩ }

theorem built_shouted : shouted.Built :=
  ⟨shoutedInventory, by simp [shoutedInventory], ofInventory_shouted⟩

theorem ignoresListedSpelling_unlisted (subject : Subject) :
    unlisted.policy.IgnoresListedSpelling subject shouted := by
  refine AccessPolicy.ignoresListedSpelling_of_ignoresSpelling built_shouted.wellFormed ?_
  intro d _ spelled hkey
  simp only [unlisted, hkey]

def unlistedInUpperCase : Autoplacer Float :=
  { uniform with
    policy := ⟨fun _ object =>
      if object = .poolDefinition ssd.canonical then none else some .control⟩ }

/-- The first pool in the order of keys tells the spelling. -/
def shoutedReloaded : Snapshot := { shouted with definitions := [⟨ssd, shoutedInventory.pools.reverse⟩] }

def onShoutedAlpha : Candidate Float := ⟨ssd, alpha.canonical, .lvm, 1.0, some 10⟩

open Registry (entries nodeKey poolKey loadKind)

theorem load_shouted {codec : Codec} (hcodec : codec.Lawful) :
    (Registry.load codec (Registry.save codec shouted []).value).result = .ok shoutedReloaded := by
  have hsaved : (Registry.save codec shouted []).value = entries codec shouted.toInventory := rfl
  have hnodes : (loadKind codec RegistryKey.nodePrefix nodeKey
      (entries codec shouted.toInventory)).result = .ok shouted.nodes :=
    Registry.loadKind_of_scan rfl fun n hn => Registry.readEntry_entryOf hcodec (plain_toValue_node n)
      (read?_toValue_node (built_shouted.props_sorted n hn))
  have hpools : (loadKind codec RegistryKey.poolPrefix poolKey
      (entries codec shouted.toInventory)).result = .ok shouted.toInventory.pools :=
    Registry.loadKind_of_scan rfl fun p _ => Registry.readEntry_entryOf hcodec (plain_toValue_pool p)
      (read?_toValue_pool p)
  have hbuilt : Snapshot.ofInventory ⟨shouted.nodes, shouted.toInventory.pools, [], []⟩ =
      .ok shoutedReloaded := by decide +kernel
  rw [hsaved]
  simp only [Registry.load, Registry.loadInventory, Attempt.bind_eq_ok]
  refine ⟨_, ⟨_, hnodes, _, hpools, [], rfl, [], rfl, rfl⟩, (), rfl, ?_⟩
  rw [Attempt.result_mapError, Inventory.result_build, hbuilt]
  rfl

/-- A policy that tells the spellings apart is asked about one of them before the reload and about
the other one after it. -/
theorem placeFromRegistry_disagrees {codec : Codec} (hcodec : codec.Lawful) :
    let placed := (unlistedInUpperCase.place shouted "guest" database Selection.oneReplica).result
    let reloaded := (unlistedInUpperCase.placeFromRegistry codec
      (Registry.save codec shouted []).value "guest" database Selection.oneReplica).result
    placed = .error (.accessDenied "list storage pools"
        ⟨"guest", "storage pool definition 'SSD'", .view, none⟩) ∧
      reloaded = .ok (some (.ofSelection database [onShoutedAlpha])) ∧ ¬ Agrees placed reloaded := by
  intro placed reloaded
  have hplaced : placed = .error (.accessDenied "list storage pools"
      ⟨"guest", "storage pool definition 'SSD'", .view, none⟩) := by
    rw [show placed = _ from place_eq_failing built_shouted.wellFormed]
    exact Outcome.failing_eq_error.2 (by decide +kernel)
  have hreloaded : reloaded = .ok (some (.ofSelection database [onShoutedAlpha])) := by
    have hstages : unlistedInUpperCase.Stages shoutedReloaded "guest" database Selection.oneReplica
        ⟨Selection.oneReplica, none⟩ {} [onShoutedAlpha] := ⟨rfl, rfl, rfl, rfl⟩
    rw [show reloaded = _ from result_placeFromRegistry (load_shouted hcodec)]
    exact hstages.place_singleton ⟨by decide, nofun⟩ rfl (Selection.mayFollow_first nofun nofun)
      (by decide +kernel)
  refine ⟨hplaced, hreloaded, ?_⟩
  rw [hplaced, hreloaded]
  exact not_agrees_error_ok

end Autoplacer

end ReplicaPlacement
