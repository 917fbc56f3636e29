import ReplicaPlacement.Candidate.Basic
import ReplicaPlacement.Candidate.Check

/-!
# Collecting candidates

Every pool that passes all checks becomes a candidate. Pools are visited by name and then by node,
and that is the order of the groups and within them.
-/

namespace ReplicaPlacement

variable {σ : Type} [Score σ]

def Pool.candidate? (q : PoolRequest) (f : ScoreFunction σ) (p : Pool) :
    Attempt PlacementError (Option (Candidate σ)) := do
  match ← PoolCheck.firstExclusion q p PoolCheck.all with
  | some (check, exclusion) =>
    Attempt.debug fun _ => s!"{p.describe} filtered out by {check.name}: {exclusion.text}"
    pure none
  | none =>
    let score := f.score p
    Attempt.ofTraced ⟨(), f.report p⟩
    Attempt.trace fun _ => s!"{p.describe} scored {Score.text score} by {f.name}"
    if Score.isFinite score then pure (some (.ofPool p score))
    else
      throw (.internal
        s!"{p.describe} scored {Score.text score} by {f.name}, scores must be finite")

def candidatesAmong (q : PoolRequest) (f : ScoreFunction σ) :
    List Pool → Attempt PlacementError (List (Candidate σ))
  | [] => pure []
  | p :: ps => do
    let c ← p.candidate? q f
    let cs ← candidatesAmong q f ps
    pure (c.toList ++ cs)

/-- One group per definition that has candidates. Listing a definition takes access to view it. -/
def candidateGroups (q : PoolRequest) (f : ScoreFunction σ) :
    List PoolDefinition → Attempt PlacementError (List (CandidateGroup σ))
  | [] => pure []
  | d :: ds => do
    Attempt.ofExcept ((q.policy.require q.subject (.poolDefinition d.name) .view).mapError
      (.accessDenied "list storage pools"))
    let cs ← candidatesAmong q f d.pools
    let groups ← candidateGroups q f ds
    pure (if cs.isEmpty then groups else ⟨d.name, cs⟩ :: groups)

def PoolRequest.candidates (q : PoolRequest) (f : ScoreFunction σ) :
    Attempt PlacementError (List (CandidateGroup σ)) := do
  let groups ← candidateGroups q f q.snapshot.definitions
  let total := (groups.flatMap (·.candidates)).length
  Attempt.debug fun _ => s!"Built {total} candidates in {groups.length} storage pool groups"
  pure groups

end ReplicaPlacement
