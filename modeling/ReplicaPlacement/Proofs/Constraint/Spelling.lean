import ReplicaPlacement.Proofs.Candidate.Spelling
import ReplicaPlacement.Proofs.Constraint.Kept

/-!
# The same candidates kept in another spelling

Constraints name pools and resources by their identity. Only a pattern looks at the spelling of a
name, so without one the same candidates are kept in upper case.
-/

namespace ReplicaPlacement.CheckedConstraints

variable {σ : Type} {c : CheckedConstraints} {s : Snapshot}

def canonical (c : CheckedConstraints) : CheckedConstraints :=
  { c with constraints := c.constraints.canonical }

theorem eligible_canonical (groups : List (CandidateGroup σ)) :
    c.canonical.eligible (groups.map CandidateGroup.canonical) =
      (c.eligible groups).map Candidate.canonical := by
  have hforced (g : CandidateGroup σ) :
      (c.canonical.constraints.forcedPool.all fun forced => forced.same g.canonical.name) =
        c.constraints.forcedPool.all fun forced => forced.same g.name := by
    have hmap : c.canonical.constraints.forcedPool = c.constraints.forcedPool.map Name.canonical := rfl
    simp only [hmap, Option.all_map, CandidateGroup.canonical, Name.same_canonical]
  unfold eligible
  rw [List.filter_map, List.flatMap_map, List.map_flatMap]
  simp only [Function.comp_def, hforced]
  rfl

theorem excludedResources_canonical (hpattern : c.pattern = none) :
    c.canonical.excludedResources s.canonical = (c.excludedResources s).map Name.canonical := by
  simp only [excludedResources, canonical, hpattern]
  exact Ordered.ofList_map Name.key_canonical c.constraints.notPlaceWith

theorem anyExcluded_canonical (excluded resources : List ResourceName) :
    anyExcluded (excluded.map Name.canonical) (resources.map Name.canonical) =
      anyExcluded excluded resources := by
  have hcontains (r : ResourceName) : Ordered.contains Name.key r.canonical.key
      (excluded.map Name.canonical) = Ordered.contains Name.key r.key excluded := by
    rw [Name.key_canonical, Ordered.contains_map Name.key_canonical]
  simp only [anyExcluded, List.any_map, Function.comp_def, hcontains]

theorem onFreeNode_canonical (excluded : List ResourceName) :
    onFreeNode s.canonical (excluded.map Name.canonical) ∘ Candidate.canonical (σ := σ) =
      onFreeNode s excluded := by
  funext x
  simp only [Function.comp_apply, onFreeNode, Candidate.canonical, Snapshot.resourcesOn_canonical,
    anyExcluded_canonical]

theorem inFreePool_canonical (excluded : List ResourceName) :
    inFreePool s.canonical (excluded.map Name.canonical) ∘ Candidate.canonical (σ := σ) =
      inFreePool s excluded := by
  funext x
  simp only [Function.comp_apply, inFreePool, Candidate.canonical, Snapshot.resourcesIn_canonical,
    anyExcluded_canonical]

theorem keepApart_canonical (hpattern : c.pattern = none) (cs : List (Candidate σ)) :
    (c.canonical.keepApart s.canonical (cs.map Candidate.canonical)).value =
      (c.keepApart s cs).value.map Candidate.canonical := by
  rw [keepApart_value, keepApart_value, excludedResources_canonical hpattern, List.filter_map,
    List.filter_map, onFreeNode_canonical, inFreePool_canonical, List.isEmpty_map, List.isEmpty_map]
  split
  · rfl
  · split <;> rfl

theorem mismatch?_canonical (fs : List PropertyFilter) (x : Candidate σ) :
    mismatch? s.canonical fs x.canonical = mismatch? s fs x := by
  have hproperty : propertyOf s.canonical x.canonical = propertyOf s x :=
    funext fun f => s.propOf?_canonical x.node f.key
  rw [mismatch?, mismatch?, hproperty]

theorem admissible_canonical [Score σ] (hpattern : c.pattern = none) (groups : List (CandidateGroup σ)) :
    (c.canonical.admissible s.canonical (groups.map CandidateGroup.canonical)).value =
      (c.admissible s groups).value.map Candidate.canonical := by
  have hpinned : c.canonical.pinned = c.pinned := rfl
  rw [admissible_value, admissible_value, eligible_canonical, keepApart_canonical hpattern, hpinned,
    List.filter_map]
  simp only [Function.comp_def, mismatch?_canonical]

end ReplicaPlacement.CheckedConstraints
