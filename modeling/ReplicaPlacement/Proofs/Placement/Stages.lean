import ReplicaPlacement.Placement.Autoplacer
import ReplicaPlacement.Proofs.Outcome

/-!
# The stages of a placement

A placement is decided if and only if every stage succeeds, and then the answer is that of the
selection.
-/

namespace ReplicaPlacement.Autoplacer

variable {σ : Type} [Score σ]

/-- What the stages before the selection hand to it. -/
structure Stages (a : Autoplacer σ) (s : Snapshot) (subject : Subject) (resource : ResourceName)
    (c : ConstraintSet) (checked : CheckedConstraints) (context : PlacementContext)
    (candidates : List (Candidate σ)) : Prop where
  checked_eq : c.check a.language = .ok checked
  context_eq : PlacementContext.ofResource s resource = .ok context
  may_view : a.checkDeployedAccess subject c context = .ok ()
  candidates_eq : (a.admissibleCandidates s subject checked).result = .ok candidates

theorem result_conclude (resource : ResourceName) (c : ConstraintSet)
    (selection : Option (List (Candidate σ))) :
    (conclude resource c selection).result = .ok (selection.map (Placement.ofSelection resource)) := by
  cases selection with
  | none => rfl
  | some selection => rfl

theorem result_place (a : Autoplacer σ) (s : Snapshot) (subject : Subject) (resource : ResourceName)
    (c : ConstraintSet) :
    (a.place s subject resource c).result =
      (c.check a.language).bind fun checked =>
        (PlacementContext.ofResource s resource).bind fun context =>
          (a.checkDeployedAccess subject c context).bind fun _ =>
            (a.admissibleCandidates s subject checked).result.bind fun candidates =>
              (Selection.select s c context a.logCandidates candidates).result.map
                (Option.map (Placement.ofSelection resource)) := by
  have hmap {ε α β : Type} (x : Except ε α) (f : α → β) : (x.bind fun y => .ok (f y)) = x.map f := by
    cases x <;> rfl
  unfold place
  rw [Attempt.result_report_bind (Attempt.result_debug _)]
  simp only [Attempt.result_bind, Attempt.result_ofExcept,
    Attempt.result_report_if (Attempt.result_debug _), result_conclude, hmap]

theorem place_eq_ok {a : Autoplacer σ} {s : Snapshot} {subject : Subject} {resource : ResourceName}
    {c : ConstraintSet} {r : Option (Placement σ)} :
    (a.place s subject resource c).result = .ok r ↔
      ∃ checked context candidates, a.Stages s subject resource c checked context candidates ∧
        ∃ selection, (Selection.select s c context a.logCandidates candidates).result = .ok selection ∧
          r = selection.map (Placement.ofSelection resource) := by
  simp only [result_place, Outcome.bind_eq_ok, Outcome.map_eq_ok]
  constructor
  · rintro ⟨checked, hchecked, context, hcontext, _, hview, candidates, hcandidates, selection,
      hselection, rfl⟩
    exact ⟨checked, context, candidates, ⟨hchecked, hcontext, hview, hcandidates⟩, selection,
      hselection, rfl⟩
  · rintro ⟨checked, context, candidates, hstages, selection, hselection, rfl⟩
    exact ⟨checked, hstages.checked_eq, context, hstages.context_eq, (), hstages.may_view,
      candidates, hstages.candidates_eq, selection, hselection, rfl⟩

end ReplicaPlacement.Autoplacer
