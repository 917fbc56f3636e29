import ReplicaPlacement.Proofs.Access.Spelling
import ReplicaPlacement.Proofs.Candidate.Offered
import ReplicaPlacement.Proofs.Selection.Spelling

/-!
# The same pools on offer in another spelling

A table of grants ignores how objects are spelled, and the built-in scores look at no name. So from a
snapshot that is spelled in upper case the same pools are offered, and the same faults are found.
-/

namespace ReplicaPlacement

/-! ## Access -/

def SecuredObject.canonical : SecuredObject → SecuredObject
  | poolDefinition name => poolDefinition name.canonical
  | node name => node name.canonical
  | pool host name => pool host.canonical name.canonical

theorem SecuredObject.key_canonical (object : SecuredObject) : object.canonical.key = object.key := by
  cases object <;> simp [canonical, key]

def Fault.canonical : Fault → Fault
  | invalidFilter f => invalidFilter f
  | invalidPattern text => invalidPattern text
  | kindConflict resource first second => kindConflict resource.canonical first second
  | hidden action object => hidden action object.canonical
  | scoreNotFinite p => scoreNotFinite p.canonical

namespace AccessPolicy

variable {policy : AccessPolicy} {subject : Subject} {object : SecuredObject}
  (h : policy.IgnoresSpelling subject object)

include h

theorem IgnoresSpelling.has_canonical (level : AccessLevel) :
    policy.has subject object.canonical level = policy.has subject object level :=
  h.has_eq object.key_canonical level

theorem IgnoresSpelling.viewFaults_canonical (action : String) :
    policy.viewFaults subject action object.canonical =
      (policy.viewFaults subject action object).map Fault.canonical := by
  unfold viewFaults
  rw [h.has_canonical]
  cases policy.has subject object .view <;> rfl

end AccessPolicy

/-! ## Pools -/

def ScoreFunction.IgnoresNames {σ : Type} (f : ScoreFunction σ) : Prop :=
  ∀ p, f.score p.canonical = f.score p

theorem ScoreStrategy.ignoresNames (strategy : ScoreStrategy) : strategy.function.IgnoresNames := by
  intro p
  cases strategy <;> rfl

def CandidateGroup.canonical {σ : Type} (g : CandidateGroup σ) : CandidateGroup σ where
  name := g.name.canonical
  candidates := g.candidates.map Candidate.canonical

namespace PoolRequest

variable {σ : Type} {q : PoolRequest} {f : ScoreFunction σ} {p : Pool}

def canonical (q : PoolRequest) : PoolRequest := { q with snapshot := q.snapshot.canonical }

variable (hspelling : ∀ object, q.policy.IgnoresSpelling q.subject object)

include hspelling

theorem reaches_canonical : q.canonical.reaches p.canonical = q.reaches p := by
  have hdefinition := (hspelling (.poolDefinition p.name)).has_canonical .use
  have hnode := (hspelling (.node p.node)).has_canonical .use
  have hconnected : (q.snapshot.canonical.node? p.node.canonical).any (·.connected) =
      (q.snapshot.node? p.node).any (·.connected) := by
    rw [Snapshot.node?_canonical]
    cases q.snapshot.node? p.node <;> rfl
  simp only [SecuredObject.canonical] at hdefinition hnode
  simp only [reaches, canonical, Pool.canonical, hdefinition, hnode, hconnected]

theorem eligible_canonical : Eligible q.canonical p.canonical ↔ Eligible q p := by
  rw [eligible_iff, eligible_iff, reaches_canonical hspelling]
  rfl

theorem spaceFaults_canonical :
    q.canonical.spaceFaults p.canonical = (q.spaceFaults p).map Fault.canonical := by
  have hthin : p.canonical.provider.isThin = p.provider.isThin := rfl
  unfold spaceFaults
  rw [hthin]
  cases p.provider.isThin with
  | true => rfl
  | false => exact (hspelling (.pool p.node p.name)).viewFaults_canonical "query free space"

variable [Score σ] (hf : f.IgnoresNames)

include hf

theorem scoreFaults_canonical :
    q.canonical.scoreFaults f p.canonical = (q.scoreFaults f p).map Fault.canonical := by
  simp only [scoreFaults, eligible_canonical hspelling, hf p]
  split <;> rfl

theorem poolFaults_canonical :
    q.canonical.poolFaults f p.canonical = (q.poolFaults f p).map Fault.canonical := by
  unfold poolFaults
  rw [reaches_canonical hspelling, spaceFaults_canonical hspelling, scoreFaults_canonical hspelling hf]
  cases q.reaches p with
  | false => rfl
  | true => exact List.map_append.symm

omit [Score σ] in
theorem offer?_canonical :
    q.canonical.offer? f p.canonical = (q.offer? f p).map Candidate.canonical := by
  simp only [offer?, eligible_canonical hspelling, hf p]
  split <;> rfl

/-! ## Definitions -/

theorem definitionFaults_canonical (d : PoolDefinition) :
    q.canonical.definitionFaults f d.canonical = (q.definitionFaults f d).map Fault.canonical := by
  have hview := (hspelling (.poolDefinition d.name)).viewFaults_canonical "list storage pools"
  unfold definitionFaults
  rw [List.map_append, ← hview]
  refine congrArg _ ?_
  rw [PoolDefinition.canonical, List.flatMap_map, List.map_flatMap]
  exact List.flatMap_congr fun p _ => poolFaults_canonical hspelling hf

omit [Score σ] in
theorem group?_canonical (d : PoolDefinition) :
    q.canonical.group? f d.canonical = (q.group? f d).map CandidateGroup.canonical := by
  have hoffered : d.canonical.pools.filterMap (q.canonical.offer? f) =
      (d.pools.filterMap (q.offer? f)).map Candidate.canonical := by
    rw [PoolDefinition.canonical, List.filterMap_map, List.map_filterMap]
    exact List.filterMap_congr fun p _ => offer?_canonical hspelling hf
  unfold group?
  rw [hoffered]
  cases d.pools.filterMap (q.offer? f) <;> rfl

omit [Score σ] in
theorem offers_canonical : q.canonical.offers f = (q.offers f).map CandidateGroup.canonical := by
  unfold offers
  rw [canonical, Snapshot.canonical, List.filterMap_map, List.map_filterMap]
  exact List.filterMap_congr fun d _ => group?_canonical hspelling hf d

end PoolRequest

end ReplicaPlacement
