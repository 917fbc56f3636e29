import ReplicaPlacement.Proofs.Cluster.Redaction
import ReplicaPlacement.Proofs.Name
import ReplicaPlacement.Proofs.Placement.Sound

/-!
# Placement does not depend on hidden data

On a cluster that is redacted for the subject every stage of a placement gives what it gives on the
cluster itself. The check for access comes first, so a pool that the subject may not use is dropped
before anything hidden is read. Nodes of candidates may be used, and the properties of a node that
is deployed on are read only after it was checked that the subject may view it.

A node is asked about as pools and replicas spell it. So what is hidden is what the subject has no
access to in any spelling that the cluster lists. If the policy does not tell these apart, that is what
it has no access to.
-/

namespace ReplicaPlacement

variable {policy : AccessPolicy} {subject : Subject} {sees : SecuredObject → AccessLevel → Bool}
  {s : Snapshot}

/-! ## Existing replicas -/

namespace PlacementContext

theorem ofResource_redacted (resource : ResourceName) :
    ofResource (s.redacted sees) resource = ofResource s resource := by
  have hvolume : addVolume (s.redacted sees) resource = addVolume s resource := by
    funext r kind v
    unfold addVolume
    rw [Snapshot.pool?_redacted]
    cases s.pool? r.node v.pool <;> rfl
  have hreplica : addReplica (s.redacted sees) resource = addReplica s resource := by
    funext kind r
    rw [addReplica, addReplica, hvolume]
  unfold ofResource
  rw [hreplica]
  rfl

end PlacementContext

/-! ## Candidates -/

def PoolRequest.redacted (sees : SecuredObject → AccessLevel → Bool) (q : PoolRequest) : PoolRequest :=
  { q with snapshot := q.snapshot.redacted sees }

namespace PoolCheck

variable {q : PoolRequest} {p : Pool} {objects : List SecuredObject}
  (hsees : q.policy.Sight sees q.subject objects)

include hsees

theorem connection_redacted (h : sees (.node p.node) .use = true) :
    connection (q.redacted sees) p = connection q p := by
  have hnode : (q.redacted sees).snapshot.node? p.node =
      (q.snapshot.node? p.node).map (Node.redacted sees) := Snapshot.node?_redacted _
  unfold connection
  rw [hnode]
  cases hfound : q.snapshot.node? p.node with
  | none => rfl
  | some n =>
    have huse : sees (.node n.name) .use = true := Snapshot.sees_listed hsees hfound h
    simp [Node.redacted, huse]

theorem run_redacted (h : p.usable sees = true) (check : PoolCheck) :
    (run (q.redacted sees) p check).result = (run q p check).result := by
  rw [Pool.usable, Bool.and_eq_true] at h
  cases check with
  | hasAccess => rfl
  | notDiskless => rfl
  | nodeConnected => exact connection_redacted hsees h.2
  | hasFreeSpace => rfl

theorem firstExclusion_redacted (h : p.usable sees = true) (checks : List PoolCheck) :
    (firstExclusion (q.redacted sees) p checks).result = (firstExclusion q p checks).result := by
  induction checks with
  | nil => rfl
  | cons check checks ih =>
    rw [firstExclusion, firstExclusion, Attempt.result_bind, Attempt.result_bind, run_redacted hsees h]
    refine Outcome.bind_congr fun exclusion _ => ?_
    cases exclusion with
    | none => exact ih
    | some exclusion => rfl

end PoolCheck

variable {σ : Type} [Score σ]

section Candidates

variable {q : PoolRequest} {f : ScoreFunction σ}

theorem Pool.candidate?_of_not_usable {p : Pool} (h : p.usable (q.policy.has q.subject) = false) :
    (p.candidate? q f).result = .ok none := by
  have haccess : PoolCheck.access q p ≠ none := by
    intro hnone
    obtain ⟨hdefinition, hnode⟩ := PoolCheck.access_eq_none.1 hnone
    rw [usable, hdefinition, hnode] at h
    cases h
  obtain ⟨exclusion, hexclusion⟩ := Option.ne_none_iff_exists'.1 haccess
  have hfirst : (PoolCheck.firstExclusion q p PoolCheck.all).result =
      .ok (some (.hasAccess, exclusion)) := by
    rw [PoolCheck.all, PoolCheck.firstExclusion, Attempt.result_bind, PoolCheck.run, hexclusion]
    rfl
  rw [candidate?, Attempt.result_bind, hfirst]
  rfl

variable (hsees : q.policy.Sight sees q.subject q.snapshot.toInventory.objects)

include hsees

theorem Pool.candidate?_redacted {p : Pool} (hp : p ∈ q.snapshot.toInventory.pools) :
    ((p.redacted sees).candidate? (q.redacted sees) f).result = (p.candidate? q f).result := by
  cases husable : p.usable (q.policy.has q.subject) with
  | true =>
    obtain ⟨hdefinition, hnode⟩ := Inventory.pool_mem_objects hp
    have hseen : p.usable sees = true := by
      rw [usable, Bool.and_eq_true] at husable ⊢
      exact husable.imp (hsees.of_has hdefinition) (hsees.of_has hnode)
    rw [Pool.redacted_of_usable hseen, candidate?, candidate?, Attempt.result_bind,
      Attempt.result_bind, PoolCheck.firstExclusion_redacted hsees hseen]
  | false =>
    have hredacted : (p.redacted sees).usable (q.policy.has q.subject) = false := husable
    rw [candidate?_of_not_usable husable]
    exact candidate?_of_not_usable hredacted

theorem candidatesAmong_redacted {pools : List Pool}
    (hpools : ∀ p ∈ pools, p ∈ q.snapshot.toInventory.pools) :
    (candidatesAmong (q.redacted sees) f (pools.map (Pool.redacted sees))).result =
      (candidatesAmong q f pools).result := by
  induction pools with
  | nil => rfl
  | cons p pools ih =>
    obtain ⟨hp, hpools⟩ := List.forall_mem_cons.1 hpools
    rw [List.map_cons, candidatesAmong, candidatesAmong, Attempt.result_bind, Attempt.result_bind,
      Pool.candidate?_redacted hsees hp]
    refine Outcome.bind_congr fun c _ => ?_
    rw [Attempt.result_bind, Attempt.result_bind, ih hpools]

theorem candidateGroups_redacted {definitions : List PoolDefinition}
    (hdefinitions : ∀ d ∈ definitions, ∀ p ∈ d.pools, p ∈ q.snapshot.toInventory.pools) :
    (candidateGroups (q.redacted sees) f
        (definitions.map (PoolDefinition.redacted sees))).result =
      (candidateGroups q f definitions).result := by
  induction definitions with
  | nil => rfl
  | cons d definitions ih =>
    obtain ⟨hd, hdefinitions⟩ := List.forall_mem_cons.1 hdefinitions
    have hpools : (candidatesAmong (q.redacted sees) f (d.redacted sees).pools).result =
        (candidatesAmong q f d.pools).result := candidatesAmong_redacted hsees hd
    simp only [List.map_cons, candidateGroups, Attempt.result_bind, hpools, ih hdefinitions]
    rfl

theorem PoolRequest.candidates_redacted :
    ((q.redacted sees).candidates f).result = (q.candidates f).result := by
  have hgroups : (candidateGroups (q.redacted sees) f (q.redacted sees).snapshot.definitions).result =
      (candidateGroups q f q.snapshot.definitions).result :=
    candidateGroups_redacted hsees fun d hd p hp => Snapshot.mem_pools.2 ⟨d, hd, hp⟩
  rw [candidates, candidates, Attempt.result_bind, Attempt.result_bind, hgroups]

end Candidates

/-! ## Properties of nodes -/

section Properties

variable {objects : List SecuredObject} (hsees : policy.Sight sees subject objects)

include hsees

theorem Snapshot.propOf?_redacted {node : NodeName}
    (h : sees (.node node) .view = true) (key : String) :
    (s.redacted sees).propOf? node key = s.propOf? node key := by
  unfold Snapshot.propOf?
  rw [Snapshot.node?_redacted]
  cases hfound : s.node? node with
  | none => rfl
  | some n => simp [Node.prop?, Snapshot.props_redacted hsees hfound h]

theorem CheckedConstraints.keepPinned_redacted {fs : List PropertyFilter} {cs : List (Candidate σ)}
    (h : ∀ x ∈ cs, sees (.node x.node) .view = true) :
    (keepPinned (s.redacted sees) fs cs).value = (keepPinned s fs cs).value := by
  induction cs with
  | nil => rfl
  | cons x cs ih =>
    obtain ⟨hx, hcs⟩ := List.forall_mem_cons.1 h
    have hmismatch : mismatch? (s.redacted sees) fs x = mismatch? s fs x := by
      unfold mismatch?
      congr 1
      funext f
      exact congrArg (· != f.pinned) (Snapshot.propOf?_redacted hsees hx f.key)
    unfold keepPinned
    rw [hmismatch]
    cases mismatch? s fs x with
    | none => rw [Traced.value_bind, Traced.value_bind, ih hcs]
    | some f => exact ih hcs

theorem CheckedConstraints.admissible_redacted {c : CheckedConstraints}
    {groups : List (CandidateGroup σ)}
    (h : ∀ g ∈ groups, ∀ x ∈ g.candidates, sees (.node x.node) .view = true) :
    (c.admissible (s.redacted sees) groups).value = (c.admissible s groups).value := by
  have hapart : (c.keepApart (s.redacted sees) (c.eligible groups)).value =
      (c.keepApart s (c.eligible groups)).value := rfl
  have hpinned : (keepPinned (s.redacted sees) c.pinned
        (c.keepApart s (c.eligible groups)).value).value =
      (keepPinned s c.pinned (c.keepApart s (c.eligible groups)).value).value := by
    refine keepPinned_redacted hsees fun x hx => ?_
    obtain ⟨g, hg, hxg, -⟩ := mem_eligible (mem_keepApart hx).1
    exact h g hg x hxg
  unfold admissible
  simp only [Traced.value_bind, hapart]
  split
  · rfl
  · simp only [Traced.value_bind, hpinned]

namespace Selection

theorem nodeValues_redacted {filters : Filters} {node : NodeName}
    (h : sees (.node node) .view = true) :
    nodeValues (s.redacted sees) filters node = nodeValues s filters node := by
  unfold nodeValues
  rw [Snapshot.node?_redacted]
  cases hfound : s.node? node with
  | none => rfl
  | some n => simp [Node.prop?, Snapshot.props_redacted hsees hfound h]

omit hsees in
theorem nodeValues_redacted_of_isEmpty {c : ConstraintSet} (h : c.filters.isEmpty = true)
    (node : NodeName) :
    nodeValues (s.redacted sees) (Filters.ofConstraints c) node =
      nodeValues s (Filters.ofConstraints c) node := by
  obtain ⟨hsame, hdifferent⟩ := List.append_eq_nil_iff.1 (List.isEmpty_iff.1 h)
  unfold nodeValues Filters.ofConstraints
  rw [Snapshot.node?_redacted, hsame, hdifferent]
  cases s.node? node <;> rfl

theorem initialState_redacted {c : ConstraintSet} {context : PlacementContext}
    (h : c.skipAlreadyPlaced = false → c.filters.isEmpty = false →
      ∀ n ∈ context.deployedNodes, sees (.node n) .view = true) :
    initialState (s.redacted sees) c context = initialState s c context := by
  have hvalues (hskip : c.skipAlreadyPlaced = false) : ∀ n ∈ context.deployedNodes,
      nodeValues (s.redacted sees) (Filters.ofConstraints c) n =
        nodeValues s (Filters.ofConstraints c) n := by
    intro n hn
    cases hfilters : c.filters.isEmpty with
    | true => exact nodeValues_redacted_of_isEmpty hfilters n
    | false => exact nodeValues_redacted hsees (h hskip hfilters n hn)
  unfold initialState
  cases hskip : c.skipAlreadyPlaced with
  | true => rfl
  | false =>
    refine Outcome.foldlM_congr (fun n hn st => ?_) _
    rw [hvalues hskip n hn]

omit [Score σ] in
theorem choicesOf_redacted {filters : Filters} {ranked : List (Candidate σ)}
    (h : ∀ x ∈ ranked, sees (.node x.node) .view = true) :
    choicesOf (s.redacted sees) filters ranked = choicesOf s filters ranked := by
  refine Outcome.mapM_congr fun x hx => ?_
  rw [choiceOf, choiceOf, nodeValues_redacted hsees (h x.1 (List.fst_mem_of_mem_zipIdx hx))]

theorem select_redacted {c : ConstraintSet} {context : PlacementContext} {log : Bool}
    {candidates : List (Candidate σ)}
    (hcandidates : ∀ x ∈ candidates, sees (.node x.node) .view = true)
    (hdeployed : c.skipAlreadyPlaced = false → c.filters.isEmpty = false →
      ∀ n ∈ context.deployedNodes, sees (.node n) .view = true) :
    (select (s.redacted sees) c context log candidates).result =
      (select s c context log candidates).result := by
  have hranked : ∀ x ∈ ranking candidates, sees (.node x.node) .view = true :=
    fun x hx => hcandidates x (mem_ranking.1 hx)
  simp only [select, choicesOf_redacted hsees hranked, initialState_redacted hsees hdeployed]

end Selection

end Properties

/-! ## The placement -/

namespace Autoplacer

variable {a : Autoplacer σ} {resource : ResourceName} {c : ConstraintSet}

omit [Score σ] in
theorem checkDeployedAccess_eq_ok {context : PlacementContext}
    (h : a.checkDeployedAccess subject c context = .ok ()) (hskip : c.skipAlreadyPlaced = false)
    (hfilters : c.filters.isEmpty = false) :
    ∀ n ∈ context.deployedNodes, a.policy.has subject (.node n) .view = true := by
  rw [checkDeployedAccess, hskip, hfilters] at h
  intro n hn
  have hrequire := Outcome.forM_eq_ok.1 h n hn
  rw [AccessPolicy.require_eq] at hrequire
  cases hview : a.policy.has subject (.node n) .view with
  | true => rfl
  | false =>
    rw [hview] at hrequire
    cases hrequire

section Redacted

variable (hsees : a.policy.Sight sees subject s.toInventory.objects)

include hsees

omit [Score σ] in
theorem sees_of_eligible {size : UInt64} {d : PoolDefinition} {p : Pool} (hd : d ∈ s.definitions)
    (hp : p ∈ d.pools) (h : Eligible ⟨s, a.policy, subject, size⟩ p) :
    sees (.node p.node) .view = true :=
  hsees.of_has (Inventory.pool_mem_objects (Snapshot.mem_pools.2 ⟨d, hd, hp⟩)).2
    (AccessPolicy.has_view_of_use h.may_use_node)

theorem sees_of_candidates {size : UInt64} {groups : List (CandidateGroup σ)}
    (h : (PoolRequest.candidates ⟨s, a.policy, subject, size⟩ a.scorer).result = .ok groups) :
    ∀ g ∈ groups, ∀ x ∈ g.candidates, sees (.node x.node) .view = true := by
  intro g hg x hx
  obtain ⟨d, hd, -, hmade⟩ := mem_candidates h g hg
  obtain ⟨p, hp, rfl, heligible, -⟩ := hmade x hx
  exact sees_of_eligible hsees hd hp heligible

theorem admissibleCandidates_redacted (checked : CheckedConstraints) :
    (a.admissibleCandidates (s.redacted sees) subject checked).result =
      (a.admissibleCandidates s subject checked).result := by
  have hgroups : (PoolRequest.candidates
        ⟨s.redacted sees, a.policy, subject, checked.constraints.size⟩ a.scorer).result =
      (PoolRequest.candidates ⟨s, a.policy, subject, checked.constraints.size⟩ a.scorer).result :=
    PoolRequest.candidates_redacted (q := ⟨s, a.policy, subject, checked.constraints.size⟩) hsees
  unfold admissibleCandidates
  rw [Attempt.result_bind, Attempt.result_bind, hgroups]
  refine Outcome.bind_congr fun groups hok => ?_
  rw [Attempt.result_ofTraced, Attempt.result_ofTraced,
    CheckedConstraints.admissible_redacted hsees (sees_of_candidates hsees hok)]

omit hsees

theorem place_redacted {i : Inventory} (hs : Snapshot.ofInventory i = .ok s)
    (hsees : a.policy.Sight sees subject i.objects) :
    (a.place (s.redacted sees) subject resource c).result = (a.place s subject resource c).result := by
  have hsees := hsees.of_lists (Snapshot.lists_of_ofInventory hs)
  have hwell := Snapshot.wellFormed_ofInventory hs
  -- Each stage looks at the names that an earlier one has checked the access to.
  rw [result_place, result_place, PlacementContext.ofResource_redacted]
  refine Outcome.bind_congr fun checked hchecked => Outcome.bind_congr fun context hcontext => ?_
  refine Outcome.bind_congr fun _ hview => ?_
  rw [admissibleCandidates_redacted hsees]
  refine Outcome.bind_congr fun candidates hcandidates => ?_
  have hstages : a.Stages s subject resource c checked context candidates :=
    ⟨hchecked, hcontext, hview, hcandidates⟩
  have hcandidate : ∀ x ∈ candidates, sees (.node x.node) .view = true := by
    intro x hx
    obtain ⟨d, hd, p, hp, ⟨rfl, heligible, -⟩, -⟩ := hstages.candidate hx
    exact sees_of_eligible hsees hd hp heligible
  have hdeployed (hskip : c.skipAlreadyPlaced = false) (hfilters : c.filters.isEmpty = false) :
      ∀ n ∈ context.deployedNodes, sees (.node n) .view = true := by
    intro n hn
    have hmay := checkDeployedAccess_eq_ok hview hskip hfilters n hn
    rw [(PlacementContext.ofResource_eq_ok hcontext).1] at hn
    obtain ⟨r, hr, rfl⟩ := List.mem_map.1 hn
    exact hsees.of_has (Inventory.replica_mem_objects (hwell.mem_replicasOf_iff.1 hr).1) hmay
  rw [Selection.select_redacted hsees hcandidate hdeployed]

theorem place_eq_of_redacted_eq {i i' : Inventory} (hs : Snapshot.ofInventory i = .ok s)
    (hsees : a.policy.Sight sees subject i.objects) (h : i.redacted sees = i'.redacted sees) :
    ∃ s', Snapshot.ofInventory i' = .ok s' ∧
      (a.place s' subject resource c).result = (a.place s subject resource c).result := by
  have hbuilt : (Snapshot.ofInventory i').map (Snapshot.redacted sees) = .ok (s.redacted sees) := by
    rw [← Snapshot.ofInventory_redacted, ← h, Snapshot.ofInventory_redacted, hs]
    rfl
  obtain ⟨s', hs', hredacted⟩ := Outcome.map_eq_ok.1 hbuilt
  have hobjects : i'.objects = i.objects := by
    rw [← i'.objects_redacted sees, ← h, i.objects_redacted]
  refine ⟨s', hs', ?_⟩
  rw [← place_redacted hs' (hobjects ▸ hsees), hredacted, place_redacted hs hsees]

end Redacted

open Classical in
theorem sight_someSpelling (policy : AccessPolicy) (subject : Subject) (objects : List SecuredObject) :
    policy.Sight
      (fun object level => decide (policy.HasInSomeSpelling subject objects object level)) subject
      objects where
  of_has hobject h := decide_eq_true (AccessPolicy.hasInSomeSpelling_of_has hobject h)
  congr h _ := decide_eq_decide.2 (AccessPolicy.hasInSomeSpelling_congr h)

open Snapshot (alpha beta ssd)

def betaChanged : Inventory :=
  { Snapshot.pairInventory with
    nodes := [{ name := alpha }, { name := beta, props := [("rack", "r1")] }]
    pools := [
      { name := ssd, node := alpha, provider := .lvm, freeSpace := some 10 },
      { name := ssd, node := beta, provider := .lvm, freeSpace := some 99 }] }

theorem alikeTo_betaChanged {sees : SecuredObject → AccessLevel → Prop}
    (h : ∀ level, ¬ sees (.node beta) level) : Snapshot.pairInventory.AlikeTo sees betaChanged where
  nodes := .cons ⟨rfl, fun _ => rfl, fun _ => rfl⟩
    (.cons ⟨rfl, fun hview => absurd hview (h _), fun huse => absurd huse (h _)⟩ .nil)
  pools := .cons ⟨rfl, rfl, rfl, fun _ _ => ⟨rfl, rfl⟩⟩
    (.cons ⟨rfl, rfl, rfl, fun _ huse => absurd huse (h _)⟩ .nil)
  replicas_eq := rfl
  resources_eq := rfl

/-- Nobody sees the second node, and what may be done with the first depends on its spelling. -/
def wary : Autoplacer Float :=
  { uniform with
    policy := ⟨fun _ object =>
      if object.key = .node beta.key then none else some (if object = .node alpha then .use else .control)⟩ }

theorem not_hasInSomeSpelling_wary {objects : List SecuredObject} (level : AccessLevel) :
    ¬ wary.policy.HasInSomeSpelling "guest" objects (.node beta) level := by
  rintro ⟨spelled, -, hkey, hhas⟩
  have hnone : wary.policy.granted "guest" spelled = none := if_pos hkey
  rw [AccessPolicy.has, AccessPolicy.query, hnone] at hhas
  cases hhas

/-- The node is listed in lower case, and its pool names it in upper case. -/
def spelledTwice (connected : Bool) : Inventory where
  nodes := [{ name := alpha, connected }]
  pools := [{ name := ssd, node := alpha.canonical, provider := .lvm, freeSpace := some 10 }]

def spelledTwiceBuilt (connected : Bool) : Snapshot where
  nodes := (spelledTwice connected).nodes
  definitions := [⟨ssd, (spelledTwice connected).pools⟩]

def hidingOneSpelling : AccessPolicy where
  granted _ object := if object = .node alpha then none else some .control

def misled : Autoplacer Float := { uniform with policy := hidingOneSpelling }

def onShouted : Candidate Float := ⟨ssd, alpha.canonical, .lvm, 1.0, some 10⟩

/-- The pool is judged by another spelling of its node than the one that is hidden, so it shows
whether the node is connected. -/
theorem place_ne_of_one_spelling :
    (spelledTwice true).AlikeTo (fun object level => hidingOneSpelling.has "guest" object level)
      (spelledTwice false) ∧
    Snapshot.ofInventory (spelledTwice true) = .ok (spelledTwiceBuilt true) ∧
    Snapshot.ofInventory (spelledTwice false) = .ok (spelledTwiceBuilt false) ∧
    (misled.place (spelledTwiceBuilt true) "guest" database Selection.oneReplica).result =
      .ok (some (.ofSelection database [onShouted])) ∧
    (misled.place (spelledTwiceBuilt false) "guest" database Selection.oneReplica).result =
      .ok none := by
  refine ⟨⟨?_, ?_, rfl, rfl⟩, by decide +kernel, by decide +kernel, ?_, ?_⟩
  · exact .cons ⟨rfl, fun _ => rfl, by decide⟩ .nil
  · exact .cons ⟨rfl, rfl, rfl, fun _ _ => ⟨rfl, rfl⟩⟩ .nil
  · have hstages : misled.Stages (spelledTwiceBuilt true) "guest" database Selection.oneReplica
        ⟨Selection.oneReplica, none⟩ {} [onShouted] := ⟨rfl, rfl, rfl, rfl⟩
    exact hstages.place_singleton ⟨by decide, nofun⟩ rfl (Selection.mayFollow_first nofun nofun)
      (by decide +kernel)
  · have hstages : misled.Stages (spelledTwiceBuilt false) "guest" database Selection.oneReplica
        ⟨Selection.oneReplica, none⟩ {} [] := ⟨rfl, rfl, rfl, rfl⟩
    have hselect : (Selection.select (spelledTwiceBuilt false) Selection.oneReplica {}
        misled.logCandidates ([] : List (Candidate Float))).result = .ok none := by
      refine Selection.select_eq_ok.2 (.inr ⟨by decide, ?_⟩)
      rw [Selection.ranking, List.mergeSort_nil]
      rfl
    exact place_eq_ok.2 ⟨_, _, _, hstages, none, hselect, rfl⟩

end Autoplacer

end ReplicaPlacement
