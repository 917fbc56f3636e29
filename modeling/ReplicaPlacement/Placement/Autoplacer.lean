import ReplicaPlacement.Candidate.Collect
import ReplicaPlacement.Constraint.Exclusion
import ReplicaPlacement.Placement.Basic
import ReplicaPlacement.Registry.Basic
import ReplicaPlacement.Selection.Select

/-!
# Automatic placement

A placement is decided in stages on one snapshot: the constraints are checked, candidates are
collected, those that no selection may hold are dropped, and the best selection of the rest is
taken. The first stage that fails decides the error.
-/

namespace ReplicaPlacement

structure AutoplacerConfig where
  strategy : ScoreStrategy := .mostFreeSpace
  logCandidates : Bool := false
  deriving DecidableEq, Repr

namespace AutoplacerConfig

def fieldNames : List String := ["strategy", "log_candidates"]

instance : ToValue AutoplacerConfig where
  toValue c := .record [
    ("strategy", toValue c.strategy),
    ("log_candidates", toValue c.logCandidates)]

instance : FromDocument AutoplacerConfig where
  read? v := do
    let fs ← Fields.of? fieldNames v
    let strategy ← fs.defaulted "strategy" .mostFreeSpace
    let logCandidates ← fs.defaulted "log_candidates" false
    pure { strategy, logCandidates }

end AutoplacerConfig

structure Autoplacer (σ : Type) where
  policy : AccessPolicy
  scorer : ScoreFunction σ
  logCandidates : Bool
  language : PatternLanguage

namespace Autoplacer

variable {σ : Type} [Score σ]

def ofConfig (policy : AccessPolicy) (config : AutoplacerConfig) (language : PatternLanguage) :
    Autoplacer Float :=
  ⟨policy, config.strategy.function, config.logCandidates, language⟩

/-- Properties of the nodes that are deployed on already take part in the search, so the subject
must be allowed to view these nodes. -/
def checkDeployedAccess (a : Autoplacer σ) (subject : Subject) (c : ConstraintSet)
    (context : PlacementContext) : Except PlacementError Unit :=
  if c.skipAlreadyPlaced || c.filters.isEmpty then .ok ()
  else
    context.deployedNodes.forM fun node =>
      (a.policy.require subject (.node node) .view).mapError
        (.accessDenied "read node properties")

def admissibleCandidates (a : Autoplacer σ) (s : Snapshot) (subject : Subject)
    (checked : CheckedConstraints) : Attempt PlacementError (List (Candidate σ)) := do
  let request : PoolRequest := ⟨s, a.policy, subject, checked.constraints.size⟩
  let groups ← request.candidates a.scorer
  Attempt.ofTraced (checked.admissible s groups)

def conclude (resource : ResourceName) (c : ConstraintSet) :
    Option (List (Candidate σ)) → Attempt PlacementError (Option (Placement σ))
  | some selection => do
    let placement := Placement.ofSelection resource selection
    Attempt.info fun _ =>
      s!"Placed resource '{resource}' on {placement.describePools} with total score {Score.text placement.totalScore}"
    pure (some placement)
  | none => do
    Attempt.warn fun _ =>
      s!"No feasible placement of {c.replicaCount} replicas for resource '{resource}'"
    pure none

def place (a : Autoplacer σ) (s : Snapshot) (subject : Subject) (resource : ResourceName)
    (c : ConstraintSet) : Attempt PlacementError (Option (Placement σ)) := do
  Attempt.debug fun _ =>
    s!"Placing {c.replicaCount} replicas of resource '{resource}' as '{subject}'"
  let checked ← Attempt.ofExcept (c.check a.language)
  let context ← Attempt.ofExcept (PlacementContext.ofResource s resource)
  if !context.deployedNodes.isEmpty then
    Attempt.debug fun _ =>
      s!"Resource '{resource}' already deployed on {Name.inspectAll context.deployedNodes} (provider kind {ProviderKind.inspect context.provider})"
  Attempt.ofExcept (a.checkDeployedAccess subject c context)
  let candidates ← a.admissibleCandidates s subject checked
  let selection ← Selection.select s c context a.logCandidates candidates
  conclude resource c selection

def placeFromRegistry (a : Autoplacer σ) (codec : Codec) (view : Store.Content) (subject : Subject)
    (resource : ResourceName) (c : ConstraintSet) :
    Attempt PlacementError (Option (Placement σ)) := do
  let s ← (Registry.load codec view).mapError .storage
  a.place s subject resource c

end Autoplacer

end ReplicaPlacement
