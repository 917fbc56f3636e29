import ReplicaPlacement.Candidate.Collect
import ReplicaPlacement.Proofs.Access.Grants
import ReplicaPlacement.Proofs.Outcome

/-!
# What makes a pool a candidate

A pool becomes a candidate only if no check excludes it, and the candidate shows the pool as it is,
with a finite score.
-/

namespace ReplicaPlacement

variable {q : PoolRequest} {p : Pool}

/-- The subject may place a replica of this size in the pool. -/
structure Eligible (q : PoolRequest) (p : Pool) : Prop where
  may_use_definition : q.policy.has q.subject (.poolDefinition p.name) .use = true
  may_use_node : q.policy.has q.subject (.node p.node) .use = true
  not_diskless : p.provider.isDiskless = false
  connected : ∃ n, q.snapshot.node? p.node = some n ∧ n.connected = true
  has_room : p.provider.isThin = true ∨ q.size ≤ p.knownFree

namespace PoolCheck

/-! ## Each check -/

theorem access_eq_none : access q p = none ↔
    q.policy.has q.subject (.poolDefinition p.name) .use = true ∧
      q.policy.has q.subject (.node p.node) .use = true := by
  cases hdefinition : q.policy.has q.subject (.poolDefinition p.name) .use <;>
    cases hnode : q.policy.has q.subject (.node p.node) .use <;> simp [access, hdefinition, hnode]

theorem notDiskless_eq_ok_none :
    (run q p .notDiskless).result = .ok none ↔ p.provider.isDiskless = false := by
  cases h : p.provider.isDiskless <;> simp [run, h]

theorem connection_eq_ok_none : connection q p = .ok none ↔
    ∃ n, q.snapshot.node? p.node = some n ∧ n.connected = true := by
  unfold connection
  cases q.snapshot.node? p.node with
  | none => simp
  | some n => cases h : n.connected <;> simp [h]

theorem space_eq_ok_none : (space q p).result = .ok none ↔ p.provider.isThin = true ∨
    q.policy.has q.subject (.pool p.node p.name) .view = true ∧ q.size ≤ p.knownFree := by
  unfold space
  cases hthin : p.provider.isThin with
  | true => simp
  | false =>
    rw [AccessPolicy.require_eq]
    cases q.policy.has q.subject (.pool p.node p.name) .view with
    | false => simp [Attempt.result_bind, Except.bind, Except.mapError]
    | true =>
      by_cases hfree : p.knownFree < q.size
      · simp [Attempt.result_bind, Except.bind, Except.mapError, hfree]
      · simp [Attempt.result_bind, Except.bind, Except.mapError, hfree, UInt64.not_lt.1 hfree]

theorem firstExclusion_eq_ok_none {checks : List PoolCheck} :
    (firstExclusion q p checks).result = .ok none ↔
      ∀ check ∈ checks, (run q p check).result = .ok none := by
  induction checks with
  | nil => simp [firstExclusion]
  | cons check checks ih =>
    rw [firstExclusion, Attempt.bind_eq_ok, List.forall_mem_cons, ← ih]
    constructor
    · rintro ⟨exclusion, hrun, hrest⟩
      cases exclusion with
      | none => exact ⟨hrun, hrest⟩
      | some exclusion => cases hrest
    · rintro ⟨hrun, hrest⟩
      exact ⟨none, hrun, hrest⟩

end PoolCheck

theorem eligible_of_firstExclusion
    (h : (PoolCheck.firstExclusion q p PoolCheck.all).result = .ok none) : Eligible q p := by
  have hall := PoolCheck.firstExclusion_eq_ok_none.1 h
  have haccess : (PoolCheck.run q p .hasAccess).result = .ok none := hall _ (by decide)
  have hdisk : (PoolCheck.run q p .notDiskless).result = .ok none := hall _ (by decide)
  have hnode : (PoolCheck.run q p .nodeConnected).result = .ok none := hall _ (by decide)
  have hspace : (PoolCheck.run q p .hasFreeSpace).result = .ok none := hall _ (by decide)
  obtain ⟨hdefinition, hnodeUse⟩ := PoolCheck.access_eq_none.1 (Except.ok.inj haccess)
  exact ⟨hdefinition, hnodeUse, PoolCheck.notDiskless_eq_ok_none.1 hdisk,
    PoolCheck.connection_eq_ok_none.1 hnode, (PoolCheck.space_eq_ok_none.1 hspace).imp_right And.right⟩

/-! ## Collecting -/

variable {σ : Type} [Score σ] {f : ScoreFunction σ}

structure MadeFrom (q : PoolRequest) (f : ScoreFunction σ) (p : Pool) (x : Candidate σ) : Prop where
  shows : x = .ofPool p (f.score p)
  eligible : Eligible q p
  finite : Score.isFinite x.score = true

theorem madeFrom_of_candidate? {x : Candidate σ} (h : (p.candidate? q f).result = .ok (some x)) :
    MadeFrom q f p x := by
  unfold Pool.candidate? at h
  obtain ⟨exclusion, hexclusion, h⟩ := Attempt.bind_eq_ok.1 h
  cases exclusion with
  | some exclusion =>
    obtain ⟨_, -, h⟩ := Attempt.bind_eq_ok.1 h
    cases h
  | none =>
    obtain ⟨_, -, h⟩ := Attempt.bind_eq_ok.1 h
    obtain ⟨_, -, h⟩ := Attempt.bind_eq_ok.1 h
    split at h
    · rename_i hfinite
      cases h
      exact ⟨rfl, eligible_of_firstExclusion hexclusion, hfinite⟩
    · cases h

theorem mem_candidatesAmong {pools : List Pool} {cs : List (Candidate σ)}
    (h : (candidatesAmong q f pools).result = .ok cs) :
    ∀ x ∈ cs, ∃ p ∈ pools, MadeFrom q f p x := by
  induction pools generalizing cs with
  | nil =>
    cases h
    exact fun x hx => absurd hx List.not_mem_nil
  | cons p pools ih =>
    unfold candidatesAmong at h
    obtain ⟨c, hc, h⟩ := Attempt.bind_eq_ok.1 h
    obtain ⟨rest, hrest, h⟩ := Attempt.bind_eq_ok.1 h
    cases h
    intro x hx
    rcases List.mem_append.1 hx with hx | hx
    · rw [Option.mem_toList] at hx
      rw [hx] at hc
      exact ⟨p, List.mem_cons_self, madeFrom_of_candidate? hc⟩
    · obtain ⟨p', hp', hmade⟩ := ih hrest x hx
      exact ⟨p', List.mem_cons_of_mem _ hp', hmade⟩

theorem mem_candidateGroups {definitions : List PoolDefinition} {groups : List (CandidateGroup σ)}
    (h : (candidateGroups q f definitions).result = .ok groups) :
    ∀ g ∈ groups, ∃ d ∈ definitions, g.name = d.name ∧
      ∀ x ∈ g.candidates, ∃ p ∈ d.pools, MadeFrom q f p x := by
  induction definitions generalizing groups with
  | nil =>
    cases h
    exact fun g hg => absurd hg List.not_mem_nil
  | cons d definitions ih =>
    unfold candidateGroups at h
    obtain ⟨_, -, h⟩ := Attempt.bind_eq_ok.1 h
    obtain ⟨cs, hcs, h⟩ := Attempt.bind_eq_ok.1 h
    obtain ⟨rest, hrest, h⟩ := Attempt.bind_eq_ok.1 h
    cases h
    have hlater : ∀ g ∈ rest, ∃ d' ∈ d :: definitions, g.name = d'.name ∧
        ∀ x ∈ g.candidates, ∃ p ∈ d'.pools, MadeFrom q f p x := by
      intro g hg
      obtain ⟨d', hd', hgroup⟩ := ih hrest g hg
      exact ⟨d', List.mem_cons_of_mem _ hd', hgroup⟩
    split
    · exact hlater
    · refine List.forall_mem_cons.2 ⟨⟨d, List.mem_cons_self, rfl, ?_⟩, hlater⟩
      exact mem_candidatesAmong hcs

theorem mem_candidates {groups : List (CandidateGroup σ)}
    (h : (q.candidates f).result = .ok groups) :
    ∀ g ∈ groups, ∃ d ∈ q.snapshot.definitions, g.name = d.name ∧
      ∀ x ∈ g.candidates, ∃ p ∈ d.pools, MadeFrom q f p x := by
  unfold PoolRequest.candidates at h
  obtain ⟨groups', hgroups, h⟩ := Attempt.bind_eq_ok.1 h
  obtain ⟨_, -, h⟩ := Attempt.bind_eq_ok.1 h
  cases h
  exact mem_candidateGroups hgroups

end ReplicaPlacement
