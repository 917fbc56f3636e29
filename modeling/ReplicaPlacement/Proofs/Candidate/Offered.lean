import ReplicaPlacement.Proofs.Candidate.Eligible
import ReplicaPlacement.Proofs.Placement.Fault

/-!
# Which pools are offered

With all nodes known, collecting gives one candidate for each eligible pool. It fails only if a
definition is hidden, if the free space of a pool is that passes the checks before, or if an
eligible pool has no finite score.
-/

namespace ReplicaPlacement

variable {σ : Type} [Score σ] {q : PoolRequest} {f : ScoreFunction σ} {p : Pool}

namespace PoolRequest

/-- The pool passes the checks that come before that of its free space. -/
def reaches (q : PoolRequest) (p : Pool) : Bool :=
  q.policy.has q.subject (.poolDefinition p.name) .use && q.policy.has q.subject (.node p.node) .use
    && !p.provider.isDiskless && (q.snapshot.node? p.node).any (·.connected)

def fits (q : PoolRequest) (p : Pool) : Bool := p.provider.isThin || decide (q.size ≤ p.knownFree)

theorem eligible_iff : Eligible q p ↔ q.reaches p = true ∧ q.fits p = true := by
  unfold reaches fits
  simp only [Bool.and_eq_true, Bool.or_eq_true, Bool.not_eq_true', decide_eq_true_eq,
    Option.any_eq_true]
  constructor
  · intro h
    exact ⟨⟨⟨⟨h.may_use_definition, h.may_use_node⟩, h.not_diskless⟩, h.connected⟩, h.has_room⟩
  · rintro ⟨⟨⟨⟨hdefinition, hnode⟩, hdisk⟩, hconnected⟩, hroom⟩
    exact ⟨hdefinition, hnode, hdisk, hconnected, hroom⟩

instance (q : PoolRequest) (p : Pool) : Decidable (Eligible q p) :=
  decidable_of_iff _ eligible_iff.symm

/-! ## Pools -/

def spaceFaults (q : PoolRequest) (p : Pool) : List Fault :=
  if p.provider.isThin then []
  else q.policy.viewFaults q.subject "query free space" (.pool p.node p.name)

def scoreFaults (q : PoolRequest) (f : ScoreFunction σ) (p : Pool) : List Fault :=
  if Eligible q p ∧ Score.isFinite (f.score p) = false then [.scoreNotFinite p] else []

def poolFaults (q : PoolRequest) (f : ScoreFunction σ) (p : Pool) : List Fault :=
  if q.reaches p then q.spaceFaults p ++ q.scoreFaults f p else []

def offer? (q : PoolRequest) (f : ScoreFunction σ) (p : Pool) : Option (Candidate σ) :=
  if Eligible q p then some (.ofPool p (f.score p)) else none

end PoolRequest

namespace PoolCheck

theorem result_firstExclusion_cons (check : PoolCheck) (checks : List PoolCheck) :
    (firstExclusion q p (check :: checks)).result = (run q p check).result.bind fun
      | some e => .ok (some (check, e))
      | none => (firstExclusion q p checks).result := by
  rw [firstExclusion, Attempt.result_bind]
  apply Outcome.bind_congr
  intro exclusion _
  cases exclusion <;> rfl

theorem result_space : (space q p).result =
    Outcome.failing ((q.spaceFaults p).map (Fault.error q.policy q.subject f))
      (if q.fits p then none else some (.tooSmall q.size p.knownFree)) := by
  unfold space PoolRequest.spaceFaults PoolRequest.fits
  cases hthin : p.provider.isThin with
  | true => rfl
  | false =>
    simp only [Bool.false_eq_true, if_false, Attempt.result_bind, Attempt.result_ofExcept,
      Bool.false_or, AccessPolicy.require_view _ _ f]
    apply Outcome.failing_bind_ok
    by_cases hfree : p.knownFree < q.size
    · simp [hfree, UInt64.not_le.2 hfree]
    · simp [hfree, UInt64.not_lt.1 hfree, Attempt.result_bind, Except.bind]

theorem reaches_iff : q.reaches p = true ↔ access q p = none ∧ p.provider.isDiskless = false ∧
    connection q p = .ok none := by
  rw [access_eq_none, connection_eq_ok_none]
  simp [PoolRequest.reaches, and_assoc, Option.any_eq_true]

theorem firstExclusion_of_reaches (h : q.reaches p = true) : (firstExclusion q p all).result =
    (space q p).result.map (Option.map fun e => (.hasFreeSpace, e)) := by
  obtain ⟨haccess, hdisk, hconnection⟩ := reaches_iff.1 h
  have haccess : (run q p .hasAccess).result = .ok none := congrArg Except.ok haccess
  have hdisk : (run q p .notDiskless).result = .ok none := by simp [run, hdisk]
  have hconnection : (run q p .nodeConnected).result = .ok none := hconnection
  unfold all
  rw [result_firstExclusion_cons, haccess]
  simp only [Except.bind]
  rw [result_firstExclusion_cons, hdisk]
  simp only [Except.bind]
  rw [result_firstExclusion_cons, hconnection]
  simp only [Except.bind]
  rw [result_firstExclusion_cons, run]
  rcases (space q p).result with e | exclusion
  · rfl
  · cases exclusion <;> rfl

theorem exists_firstExclusion (hnode : q.snapshot.hasNode p.node = true) (h : q.reaches p = false) :
    ∃ found, (firstExclusion q p all).result = .ok (some found) := by
  rw [← Bool.not_eq_true, reaches_iff] at h
  unfold all
  rw [result_firstExclusion_cons, run, Attempt.result_pure]
  cases haccess : access q p with
  | some e => exact ⟨_, rfl⟩
  | none =>
    simp only [Except.bind]
    rw [result_firstExclusion_cons, run, Attempt.result_pure]
    cases hdisk : p.provider.isDiskless with
    | true => exact ⟨_, rfl⟩
    | false =>
      simp only [Bool.false_eq_true, if_false, Except.bind]
      rw [result_firstExclusion_cons, run, Attempt.result_ofExcept]
      obtain ⟨n, hn⟩ := Option.isSome_iff_exists.1 (Snapshot.isSome_node?.trans hnode)
      cases hconnected : n.connected with
      | true =>
        exact absurd ⟨haccess, hdisk, connection_eq_ok_none.2 ⟨n, hn, hconnected⟩⟩ h
      | false =>
        rw [connection, hn]
        simp only [hconnected]
        exact ⟨_, rfl⟩

end PoolCheck

namespace PoolRequest

theorem result_candidate? (hnode : q.snapshot.hasNode p.node = true) :
    (p.candidate? q f).result = Outcome.failing
      ((q.poolFaults f p).map (Fault.error q.policy q.subject f)) (q.offer? f p) := by
  unfold Pool.candidate? poolFaults offer?
  rw [Attempt.result_bind]
  cases hreaches : q.reaches p with
  | false =>
    obtain ⟨found, hfound⟩ := PoolCheck.exists_firstExclusion hnode hreaches
    have hnot : ¬ Eligible q p := fun h => by simp [(eligible_iff.1 h).1] at hreaches
    rw [hfound, if_neg hnot]
    rfl
  | true =>
    rw [PoolCheck.firstExclusion_of_reaches hreaches, PoolCheck.result_space (f := f),
      Outcome.failing_map]
    simp only [if_true, List.map_append]
    apply Outcome.failing_bind
    unfold scoreFaults
    cases hfits : q.fits p with
    | false =>
      have hnot : ¬ Eligible q p := fun h => by simp [(eligible_iff.1 h).2] at hfits
      simp [hnot, Outcome.failing, Attempt.result_bind, Except.bind]
    | true =>
      have heligible : Eligible q p := eligible_iff.2 ⟨hreaches, hfits⟩
      cases hfinite : Score.isFinite (f.score p) <;>
        simp [heligible, Outcome.failing, Fault.error, Attempt.result_bind, Except.bind]

/-! ## Definitions -/

def definitionFaults (q : PoolRequest) (f : ScoreFunction σ) (d : PoolDefinition) : List Fault :=
  q.policy.viewFaults q.subject "list storage pools" (.poolDefinition d.name) ++
    d.pools.flatMap (q.poolFaults f)

def group? (q : PoolRequest) (f : ScoreFunction σ) (d : PoolDefinition) :
    Option (CandidateGroup σ) :=
  let offered := d.pools.filterMap (q.offer? f)
  if offered.isEmpty then none else some ⟨d.name, offered⟩

def offers (q : PoolRequest) (f : ScoreFunction σ) : List (CandidateGroup σ) :=
  q.snapshot.definitions.filterMap (q.group? f)

theorem result_candidatesAmong {pools : List Pool}
    (hnodes : ∀ p ∈ pools, q.snapshot.hasNode p.node = true) :
    (candidatesAmong q f pools).result = Outcome.failing
      ((pools.flatMap (q.poolFaults f)).map (Fault.error q.policy q.subject f))
      (pools.filterMap (q.offer? f)) := by
  induction pools with
  | nil => rfl
  | cons p pools ih =>
    obtain ⟨hp, hpools⟩ := List.forall_mem_cons.1 hnodes
    rw [candidatesAmong, Attempt.result_bind, result_candidate? hp, List.flatMap_cons, List.map_append]
    apply Outcome.failing_bind
    rw [Attempt.result_bind, ih hpools]
    apply Outcome.failing_bind_ok
    cases hoffer : q.offer? f p <;> simp [hoffer]

theorem result_candidateGroups {definitions : List PoolDefinition}
    (hnodes : ∀ d ∈ definitions, ∀ p ∈ d.pools, q.snapshot.hasNode p.node = true) :
    (candidateGroups q f definitions).result = Outcome.failing
      ((definitions.flatMap (q.definitionFaults f)).map (Fault.error q.policy q.subject f))
      (definitions.filterMap (q.group? f)) := by
  induction definitions with
  | nil => rfl
  | cons d definitions ih =>
    obtain ⟨hd, hdefinitions⟩ := List.forall_mem_cons.1 hnodes
    rw [candidateGroups, Attempt.result_bind, Attempt.result_ofExcept, AccessPolicy.require_view _ _ f,
      List.flatMap_cons, definitionFaults, List.append_assoc, List.map_append, List.map_append]
    apply Outcome.failing_bind
    rw [Attempt.result_bind, result_candidatesAmong hd]
    apply Outcome.failing_bind
    rw [Attempt.result_bind, ih hdefinitions]
    apply Outcome.failing_bind_ok
    rw [List.filterMap_cons, group?]
    cases (d.pools.filterMap (q.offer? f)).isEmpty <;> rfl

theorem result_candidates (hs : q.snapshot.WellFormed) : (q.candidates f).result = Outcome.failing
    ((q.snapshot.definitions.flatMap (q.definitionFaults f)).map (Fault.error q.policy q.subject f))
    (q.offers f) := by
  rw [candidates, Attempt.result_bind, result_candidateGroups hs.pool_node]
  exact Outcome.failing_bind_ok rfl

omit [Score σ] in
theorem group?_eq_some {d : PoolDefinition} {g : CandidateGroup σ} (h : q.group? f d = some g) :
    g.name = d.name ∧ g.candidates = d.pools.filterMap (q.offer? f) ∧ g.candidates ≠ [] := by
  unfold group? at h
  simp only at h
  split at h
  · cases h
  · rename_i hne
    cases h
    exact ⟨rfl, rfl, fun hnil => hne (List.isEmpty_iff.2 hnil)⟩

omit [Score σ] in
theorem mem_offers {g : CandidateGroup σ} (h : g ∈ q.offers f) :
    ∃ d ∈ q.snapshot.definitions, g.name = d.name ∧
      ∀ x ∈ g.candidates, ∃ p ∈ d.pools, Eligible q p ∧ x = .ofPool p (f.score p) := by
  obtain ⟨d, hd, hgroup⟩ := List.mem_filterMap.1 h
  obtain ⟨hname, hcandidates, -⟩ := group?_eq_some hgroup
  refine ⟨d, hd, hname, fun x hx => ?_⟩
  rw [hcandidates] at hx
  obtain ⟨p, hp, hoffer⟩ := List.mem_filterMap.1 hx
  unfold offer? at hoffer
  split at hoffer
  · rename_i heligible
    cases hoffer
    exact ⟨p, hp, heligible, rfl⟩
  · cases hoffer

end PoolRequest

omit [Score σ] in
theorem CheckedConstraints.eligible_offers (c : CheckedConstraints) (q : PoolRequest) :
    c.eligible (q.offers f) =
      (q.snapshot.definitions.filter fun d => c.constraints.forcedPool.all fun forced =>
        forced.same d.name).flatMap fun d => d.pools.filterMap (q.offer? f) := by
  unfold eligible PoolRequest.offers
  induction q.snapshot.definitions with
  | nil => rfl
  | cons d definitions ih =>
    cases hoffered : d.pools.filterMap (q.offer? f) with
    | nil =>
      -- A definition without offers makes no group.
      have hgroup : q.group? f d = none := by
        rw [PoolRequest.group?, hoffered]
        rfl
      rw [List.filterMap_cons_none hgroup, ih, List.filter_cons]
      split
      · rw [List.flatMap_cons, hoffered, List.nil_append]
      · rfl
    | cons x xs =>
      have hgroup : q.group? f d = some ⟨d.name, x :: xs⟩ := by
        rw [PoolRequest.group?, hoffered]
        rfl
      rw [List.filterMap_cons_some hgroup, List.filter_cons, List.filter_cons]
      split
      · rw [List.flatMap_cons, List.flatMap_cons, hoffered, ih]
      · exact ih

end ReplicaPlacement
