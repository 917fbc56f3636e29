import ReplicaPlacement.Score

/-!
# Candidates

A candidate is a pool that a new replica may go to, with its score.
-/

namespace ReplicaPlacement

structure Candidate (σ : Type) where
  pool : PoolName
  node : NodeName
  provider : ProviderKind
  score : σ
  freeSpace : Option UInt64 := none
  deriving DecidableEq

namespace Candidate

variable {σ : Type}

def ofPool (p : Pool) (score : σ) : Candidate σ := ⟨p.name, p.node, p.provider, score, p.freeSpace⟩

def describe [Score σ] (c : Candidate σ) : String :=
  s!"storage pool '{c.pool}' on node '{c.node}' (score {Score.text c.score})"

def describeAll [Score σ] (cs : List (Candidate σ)) : String := ", ".intercalate (cs.map describe)

end Candidate

structure CandidateGroup (σ : Type) where
  name : PoolName
  candidates : List (Candidate σ)

namespace CandidateGroup

def key {σ : Type} (g : CandidateGroup σ) : String := g.name.key

end CandidateGroup

end ReplicaPlacement
