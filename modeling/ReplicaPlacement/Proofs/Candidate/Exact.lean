import ReplicaPlacement.Proofs.Candidate.Offered
import ReplicaPlacement.Proofs.Cluster.Build

/-!
# Exactly the eligible pools are collected

Collecting gives each eligible pool of a snapshot as one candidate, in the order of the snapshot. A
check that excludes a pool leaves the rest of it unread: neither who may see its free space nor its
score has any influence then, not even on what is reported.
-/

namespace ReplicaPlacement

variable {σ : Type} {q : PoolRequest} {f : ScoreFunction σ}

/-! ## What is offered -/

namespace PoolRequest

theorem filterMap_offer? (pools : List Pool) : pools.filterMap (q.offer? f) =
    (pools.filter fun p => decide (Eligible q p)).map fun p => .ofPool p (f.score p) := by
  rw [← List.filterMap_eq_map, List.filterMap_filter]
  refine List.filterMap_congr fun p _ => ?_
  by_cases h : Eligible q p <;> simp [offer?, h]

theorem candidates_group? (d : PoolDefinition) :
    (q.group? f d).toList.flatMap (·.candidates) = d.pools.filterMap (q.offer? f) := by
  unfold group?
  cases d.pools.filterMap (q.offer? f) <;> simp

/-- Groups leave nothing out, since only an empty one is dropped. -/
theorem flatMap_candidates_offers : (q.offers f).flatMap (·.candidates) =
    (q.snapshot.toInventory.pools.filter fun p => decide (Eligible q p)).map
      fun p => .ofPool p (f.score p) := by
  rw [← filterMap_offer?, Snapshot.toInventory, List.filterMap_flatMap, offers]
  induction q.snapshot.definitions with
  | nil => rfl
  | cons d definitions ih =>
    rw [List.flatMap_cons, ← ih, ← candidates_group?, List.filterMap_cons]
    cases q.group? f d <;> simp

end PoolRequest

/-! ## Order -/

structure Exact (q : PoolRequest) (f : ScoreFunction σ) (groups : List (CandidateGroup σ)) : Prop where
  candidates_eq : groups.flatMap (·.candidates) =
    (q.snapshot.toInventory.pools.filter fun p => decide (Eligible q p)).map
      fun p => .ofPool p (f.score p)
  candidates_ne_nil : ∀ g ∈ groups, g.candidates ≠ []
  sorted : Ordered.Sorted CandidateGroup.key groups
  candidates_sorted : ∀ g ∈ groups, Ordered.Sorted (·.node.key) g.candidates
  candidate_of : ∀ g ∈ groups, ∀ x ∈ g.candidates, x.pool.key = g.key

namespace PoolRequest

theorem exact_offers (hs : q.snapshot.WellFormed) : Exact q f (q.offers f) where
  candidates_eq := flatMap_candidates_offers
  candidates_ne_nil := by
    intro g hg
    obtain ⟨d, -, hgroup⟩ := List.mem_filterMap.1 hg
    exact (group?_eq_some hgroup).2.2
  sorted := by
    refine List.pairwise_filterMap.2 (hs.definitions_sorted.imp fun {d d'} hlt g hg g' hg' => ?_)
    rwa [CandidateGroup.key, CandidateGroup.key, (group?_eq_some hg).1, (group?_eq_some hg').1]
  candidates_sorted := by
    intro g hg
    obtain ⟨d, hd, hgroup⟩ := List.mem_filterMap.1 hg
    rw [(group?_eq_some hgroup).2.1, filterMap_offer?]
    exact List.pairwise_map.2 ((hs.pools_sorted d hd).filter _)
  candidate_of := by
    intro g hg x hx
    obtain ⟨d, hd, hgroup⟩ := List.mem_filterMap.1 hg
    obtain ⟨hname, hcandidates, -⟩ := group?_eq_some hgroup
    rw [hcandidates, filterMap_offer?] at hx
    obtain ⟨p, hp, rfl⟩ := List.mem_map.1 hx
    rw [CandidateGroup.key, hname]
    exact hs.pool_named d hd p (List.mem_filter.1 hp).1

end PoolRequest

/-! ## What is read -/

namespace AccessPolicy

variable {policy policy' : AccessPolicy} {subject : Subject} {object : SecuredObject}
  (h : policy.query subject object = policy'.query subject object) {requested : AccessLevel}

include h

theorem has_congr : policy.has subject object requested = policy'.has subject object requested := by
  rw [has, has, h]

theorem require_congr :
    policy.require subject object requested = policy'.require subject object requested := by
  rw [require_eq, require_eq, has_congr h, h]

end AccessPolicy

theorem PoolCheck.firstExclusion_cons_congr {q' : PoolRequest} {p : Pool} {check : PoolCheck}
    {checks : List PoolCheck} (hrun : run q' p check = run q p check)
    (hchecks : (run q p check).result = .ok none → firstExclusion q' p checks = firstExclusion q p checks) :
    firstExclusion q' p (check :: checks) = firstExclusion q p (check :: checks) := by
  rw [firstExclusion, firstExclusion, hrun]
  refine Attempt.bind_congr fun exclusion hexclusion => ?_
  cases exclusion with
  | none => exact hchecks hexclusion
  | some exclusion => rfl

/-- Another policy and other scores that differ only where nothing is read: in who may see the free
space of a pool that a check before has excluded, and in the score of one that is not eligible. -/
structure AgreesOnRead (q : PoolRequest) (f : ScoreFunction σ) (policy : AccessPolicy)
    (f' : ScoreFunction σ) : Prop where
  granted_eq : ∀ object, (∀ p ∈ q.snapshot.toInventory.pools, q.reaches p = false →
    object.key ≠ SecuredObject.key (.pool p.node p.name)) →
      policy.granted q.subject object = q.policy.granted q.subject object
  score_eq : ∀ p ∈ q.snapshot.toInventory.pools, Eligible q p → f'.score p = f.score p
  report_eq : ∀ p ∈ q.snapshot.toInventory.pools, Eligible q p → f'.report p = f.report p
  name_eq : f'.name = f.name

namespace AgreesOnRead

variable {policy : AccessPolicy} {f' : ScoreFunction σ} (h : AgreesOnRead q f policy f')

include h

theorem query_poolDefinition (name : PoolName) :
    policy.query q.subject (.poolDefinition name) = q.policy.query q.subject (.poolDefinition name) :=
  h.granted_eq _ fun _ _ _ => nofun

theorem query_node (name : NodeName) :
    policy.query q.subject (.node name) = q.policy.query q.subject (.node name) :=
  h.granted_eq _ fun _ _ _ => nofun

variable {p : Pool} (hs : q.snapshot.WellFormed) (hp : p ∈ q.snapshot.toInventory.pools)

include hs hp

/-- No two pools have one identity, so a pool that gets this far is none of the excluded ones. -/
theorem query_pool (hreaches : q.reaches p = true) :
    policy.query q.subject (.pool p.node p.name) = q.policy.query q.subject (.pool p.node p.name) := by
  refine h.granted_eq _ fun p' hp' hnot hkey => ?_
  obtain ⟨hnode, hname⟩ : p.node.key = p'.node.key ∧ p.name.key = p'.name.key := by
    simpa [SecuredObject.key] using hkey
  obtain rfl : p = p' := hs.pools_ordered.eq_of_key hp hp' (by rw [Pool.identity, hnode, hname]; rfl)
  rw [hreaches] at hnot
  cases hnot

/-! Each check reports and answers the same. -/

omit hs hp in
theorem access_eq (p : Pool) : PoolCheck.access { q with policy } p = PoolCheck.access q p := by
  rw [PoolCheck.access, PoolCheck.access, AccessPolicy.has_congr (h.query_poolDefinition p.name),
    AccessPolicy.has_congr (h.query_node p.node)]

theorem space_eq (hreaches : q.reaches p = true) :
    PoolCheck.space { q with policy } p = PoolCheck.space q p := by
  rw [PoolCheck.space, PoolCheck.space, AccessPolicy.require_congr (h.query_pool hs hp hreaches)]

theorem firstExclusion_eq : PoolCheck.firstExclusion { q with policy } p PoolCheck.all =
    PoolCheck.firstExclusion q p PoolCheck.all := by
  unfold PoolCheck.all
  refine PoolCheck.firstExclusion_cons_congr (congrArg pure (h.access_eq p)) fun haccess => ?_
  refine PoolCheck.firstExclusion_cons_congr rfl fun hdisk => ?_
  refine PoolCheck.firstExclusion_cons_congr rfl fun hconnection => ?_
  have hreaches : q.reaches p = true := PoolCheck.reaches_iff.2
    ⟨Except.ok.inj haccess, PoolCheck.notDiskless_eq_ok_none.1 hdisk, hconnection⟩
  exact PoolCheck.firstExclusion_cons_congr (h.space_eq hs hp hreaches) fun _ => rfl

variable [Score σ]

theorem candidate?_eq : p.candidate? { q with policy } f' = p.candidate? q f := by
  unfold Pool.candidate?
  rw [h.firstExclusion_eq hs hp]
  refine Attempt.bind_congr fun exclusion hexclusion => ?_
  cases exclusion with
  | some exclusion => rfl
  | none =>
    have heligible : Eligible q p := eligible_of_firstExclusion hexclusion
    simp only [h.score_eq p hp heligible, h.report_eq p hp heligible, h.name_eq]

omit hp in
theorem candidatesAmong_eq {pools : List Pool} (hpools : ∀ p ∈ pools, p ∈ q.snapshot.toInventory.pools) :
    candidatesAmong { q with policy } f' pools = candidatesAmong q f pools := by
  induction pools with
  | nil => rfl
  | cons p pools ih =>
    obtain ⟨hp, hpools⟩ := List.forall_mem_cons.1 hpools
    rw [candidatesAmong, candidatesAmong, h.candidate?_eq hs hp, ih hpools]

omit hp in
theorem candidateGroups_eq {definitions : List PoolDefinition}
    (hdefinitions : ∀ d ∈ definitions, d ∈ q.snapshot.definitions) :
    candidateGroups { q with policy } f' definitions = candidateGroups q f definitions := by
  induction definitions with
  | nil => rfl
  | cons d definitions ih =>
    obtain ⟨hd, hdefinitions⟩ := List.forall_mem_cons.1 hdefinitions
    have hpools : ∀ p ∈ d.pools, p ∈ q.snapshot.toInventory.pools := fun p hp =>
      Snapshot.mem_pools.2 ⟨d, hd, hp⟩
    rw [candidateGroups, candidateGroups, h.candidatesAmong_eq hs hpools, ih hdefinitions,
      AccessPolicy.require_congr (h.query_poolDefinition d.name)]

omit hp in
theorem candidates_eq : PoolRequest.candidates { q with policy } f' = q.candidates f := by
  rw [PoolRequest.candidates, PoolRequest.candidates, h.candidateGroups_eq hs fun _ hd => hd]

end AgreesOnRead

/-! ## What makes collecting fail -/

variable [Score σ]

/-- A definition is at fault if it may not be listed, a pool only if no check before has excluded it:
for its free space the checks of access, kind and connection, for its score all of them. -/
inductive AtFault (q : PoolRequest) (f : ScoreFunction σ) : Fault → Prop
  | definition {d : PoolDefinition} (hd : d ∈ q.snapshot.definitions)
      (hhidden : q.policy.has q.subject (.poolDefinition d.name) .view = false) :
      AtFault q f (.hidden "list storage pools" (.poolDefinition d.name))
  | space {p : Pool} (hp : p ∈ q.snapshot.toInventory.pools) (hreaches : q.reaches p = true)
      (hthin : p.provider.isThin = false)
      (hhidden : q.policy.has q.subject (.pool p.node p.name) .view = false) :
      AtFault q f (.hidden "query free space" (.pool p.node p.name))
  | score {p : Pool} (hp : p ∈ q.snapshot.toInventory.pools) (heligible : Eligible q p)
      (hinfinite : Score.isFinite (f.score p) = false) : AtFault q f (.scoreNotFinite p)

omit [Score σ] in
theorem AccessPolicy.mem_viewFaults {policy : AccessPolicy} {subject : Subject} {action : String}
    {object : SecuredObject} {fault : Fault} : fault ∈ policy.viewFaults subject action object ↔
      policy.has subject object .view = false ∧ fault = .hidden action object := by
  unfold viewFaults
  cases policy.has subject object .view <;> simp

theorem PoolRequest.mem_poolFaults {p : Pool} {fault : Fault} : fault ∈ q.poolFaults f p ↔
    q.reaches p = true ∧ ((p.provider.isThin = false ∧
        q.policy.has q.subject (.pool p.node p.name) .view = false ∧
          fault = .hidden "query free space" (.pool p.node p.name)) ∨
      Eligible q p ∧ Score.isFinite (f.score p) = false ∧ fault = .scoreNotFinite p) := by
  unfold poolFaults spaceFaults scoreFaults
  cases q.reaches p <;> cases p.provider.isThin <;> simp [AccessPolicy.mem_viewFaults, and_assoc]

theorem atFault_iff {fault : Fault} :
    AtFault q f fault ↔ fault ∈ q.snapshot.definitions.flatMap (q.definitionFaults f) := by
  simp only [List.mem_flatMap, PoolRequest.definitionFaults, List.mem_append,
    AccessPolicy.mem_viewFaults, PoolRequest.mem_poolFaults]
  constructor
  · rintro (⟨hd, hhidden⟩ | ⟨hp, hreaches, hthin, hhidden⟩ | ⟨hp, heligible, hinfinite⟩)
    · exact ⟨_, hd, .inl ⟨hhidden, rfl⟩⟩
    · obtain ⟨d, hd, hp⟩ := Snapshot.mem_pools.1 hp
      exact ⟨d, hd, .inr ⟨_, hp, hreaches, .inl ⟨hthin, hhidden, rfl⟩⟩⟩
    · obtain ⟨d, hd, hp⟩ := Snapshot.mem_pools.1 hp
      have hreaches := (PoolRequest.eligible_iff.1 heligible).1
      exact ⟨d, hd, .inr ⟨_, hp, hreaches, .inr ⟨heligible, hinfinite, rfl⟩⟩⟩
  · rintro ⟨d, hd, ⟨hhidden, rfl⟩ | ⟨p, hp, hreaches, hfault⟩⟩
    · exact .definition hd hhidden
    · have hp : p ∈ q.snapshot.toInventory.pools := Snapshot.mem_pools.2 ⟨d, hd, hp⟩
      rcases hfault with ⟨hthin, hhidden, rfl⟩ | ⟨heligible, hinfinite, rfl⟩
      · exact .space hp hreaches hthin hhidden
      · exact .score hp heligible hinfinite

/-! ## Collecting -/

/-- Collecting fails only through what is at fault, and otherwise gives exactly the eligible pools. It
reads neither who may see the free space of a pool that a check before has excluded nor the score of
one that is not eligible. -/
theorem candidates_exact {i : Inventory} (h : Snapshot.ofInventory i = .ok q.snapshot) :
    ((∃ groups, (q.candidates f).result = .ok groups) ↔ ∀ fault, ¬ AtFault q f fault) ∧
      (∀ groups, (q.candidates f).result = .ok groups → Exact q f groups) ∧
      (∀ e, (q.candidates f).result = .error e →
        ∃ fault, AtFault q f fault ∧ e = fault.error q.policy q.subject f) ∧
      ∀ policy f', AgreesOnRead q f policy f' →
        PoolRequest.candidates { q with policy } f' = q.candidates f := by
  have hs : q.snapshot.WellFormed := Snapshot.wellFormed_ofInventory h
  simp only [PoolRequest.result_candidates hs, Outcome.failing_eq_ok, Outcome.failing_eq_error,
    atFault_iff]
  refine ⟨?_, ?_, ?_, fun policy f' hagrees => hagrees.candidates_eq hs⟩
  · simp only [exists_and_left, exists_eq', and_true, List.map_eq_nil_iff]
    exact List.eq_nil_iff_forall_not_mem
  · rintro groups ⟨-, rfl⟩
    exact PoolRequest.exact_offers hs
  · intro e he
    obtain ⟨fault, hfault, rfl⟩ := List.mem_map.1 (List.mem_of_mem_head? he)
    exact ⟨fault, hfault, rfl⟩

/-! ## A pool on a node that cannot be reached -/

namespace PoolRequest

def onPair : PoolRequest := ⟨Snapshot.pair, .allowAll, "guest", 5⟩

def hidingRoomOnBeta : AccessPolicy where
  granted _ object :=
    if object.key = SecuredObject.key (.pool Snapshot.beta Snapshot.ssd) then none else some .control

def nanOnBeta : ScoreFunction Float :=
  { ScoreStrategy.uniform.function with
    score := fun p => if p.node = Snapshot.beta then 0.0 / 0.0 else 1.0 }

theorem agreesOnRead_onPair :
    AgreesOnRead onPair ScoreStrategy.uniform.function hidingRoomOnBeta nanOnBeta where
  granted_eq object h := if_neg (h ⟨Snapshot.ssd, Snapshot.beta, .lvm, some 20, none⟩
    (by decide +kernel) (by decide +kernel))
  score_eq := by decide +kernel
  report_eq _ _ _ := rfl
  name_eq := rfl

theorem candidates_onPair_exact :
    ∃ groups, (onPair.candidates ScoreStrategy.uniform.function).result = .ok groups ∧
      Exact onPair ScoreStrategy.uniform.function groups ∧
      AgreesOnRead onPair ScoreStrategy.uniform.function hidingRoomOnBeta nanOnBeta ∧
      candidates { onPair with policy := hidingRoomOnBeta } nanOnBeta =
        onPair.candidates ScoreStrategy.uniform.function := by
  have hexact := candidates_exact (q := onPair) (f := ScoreStrategy.uniform.function)
    Snapshot.ofInventory_pair
  have hfaults : onPair.snapshot.definitions.flatMap
      (onPair.definitionFaults ScoreStrategy.uniform.function) = [] :=
    List.isEmpty_iff.1 (by decide +kernel)
  obtain ⟨groups, hgroups⟩ := hexact.1.2 fun fault hfault => by
    rw [atFault_iff, hfaults] at hfault
    cases hfault
  exact ⟨groups, hgroups, hexact.2.1 groups hgroups, agreesOnRead_onPair,
    hexact.2.2.2 _ _ agreesOnRead_onPair⟩

end PoolRequest

end ReplicaPlacement
