import ReplicaPlacement.Constraint.Exclusion
import ReplicaPlacement.Placement.Context
import ReplicaPlacement.Proofs.Access.Grants
import ReplicaPlacement.Proofs.Cluster.Lookup
import ReplicaPlacement.Proofs.Constraint.FilterText

/-!
# What can go wrong before candidates are collected

A fault is a reason for a placement to fail, apart from the text of the error. The stages of a
placement fail with the first of their faults.
-/

namespace ReplicaPlacement

inductive Fault where
  | invalidFilter (f : PropertyFilter)
  | invalidPattern (text : String)
  | kindConflict (resource : ResourceName) (first second : ProviderKind)
  /-- What the subject wants to do takes access to view the object. -/
  | hidden (action : String) (object : SecuredObject)
  | scoreNotFinite (p : Pool)

def Fault.error {σ : Type} [Score σ] (policy : AccessPolicy) (subject : Subject)
    (f : ScoreFunction σ) : Fault → PlacementError
  | invalidFilter filter => .invalidPropertyFilter filter.text
  | invalidPattern text => .invalidPattern text
  | kindConflict resource first second => .providerConflict resource.text first second
  | hidden action object =>
    .accessDenied action ⟨subject, object.describe, .view, policy.query subject object⟩
  | scoreNotFinite p =>
    .internal s!"{p.describe} scored {Score.text (f.score p)} by {f.name}, scores must be finite"

variable {σ : Type} [Score σ] (policy : AccessPolicy) (subject : Subject) (f : ScoreFunction σ)

/-! ## Access -/

def AccessPolicy.viewFaults (policy : AccessPolicy) (subject : Subject) (action : String)
    (object : SecuredObject) : List Fault :=
  if policy.has subject object .view then [] else [.hidden action object]

theorem AccessPolicy.require_view (action : String) (object : SecuredObject) :
    (policy.require subject object .view).mapError (.accessDenied action) =
      Outcome.failing ((policy.viewFaults subject action object).map (Fault.error policy subject f)) () := by
  rw [require_eq, viewFaults]
  cases policy.has subject object .view <;> rfl

/-! ## Constraints -/

def PropertyFilter.faults (filter : PropertyFilter) : List Fault :=
  if filter.key = "" ∨ '=' ∈ filter.key.toList then [.invalidFilter filter] else []

theorem PropertyFilter.validate_eq_failing (filter : PropertyFilter) :
    filter.validate = Outcome.failing (filter.faults.map (Fault.error policy subject f)) () := by
  unfold validate faults
  by_cases h : filter.key = "" ∨ '=' ∈ filter.key.toList
  · rw [if_pos h, if_neg fun hvalid => isValid_iff.1 hvalid h]
    rfl
  · rw [if_neg h, if_pos (isValid_iff.2 h)]
    rfl

def PatternLanguage.faults (language : PatternLanguage) (text : String) : List Fault :=
  if (language text).isNone then [.invalidPattern text] else []

def ConstraintSet.faults (c : ConstraintSet) (language : PatternLanguage) : List Fault :=
  c.filters.flatMap PropertyFilter.faults ++ c.notPlaceWithPattern.toList.flatMap language.faults

theorem ConstraintSet.check_eq_failing (c : ConstraintSet) (language : PatternLanguage) :
    c.check language = Outcome.failing ((c.faults language).map (Fault.error policy subject f))
      ⟨c, c.notPlaceWithPattern.bind language⟩ := by
  have hfilters : c.filters.forM PropertyFilter.validate = Outcome.failing
      ((c.filters.flatMap PropertyFilter.faults).map (Fault.error policy subject f)) () := by
    rw [List.map_flatMap]
    exact Outcome.forM_eq_failing fun filter _ => PropertyFilter.validate_eq_failing policy subject f filter
  change (c.filters.forM PropertyFilter.validate).bind _ = _
  rw [hfilters, faults, List.map_append]
  apply Outcome.failing_bind
  cases c.notPlaceWithPattern with
  | none => rfl
  | some text =>
    simp only [Option.toList_some, List.flatMap_singleton, Option.bind_some, PatternLanguage.faults]
    cases language text <;> rfl

/-! ## Existing replicas -/

def Snapshot.kindsOf (s : Snapshot) (r : Replica) : List ProviderKind :=
  if r.diskless then []
  else r.volumes.filterMap fun v =>
    ((s.pool? r.node v.pool).map (·.provider)).filter fun kind => !kind.isDiskless

def Snapshot.dataKinds (s : Snapshot) (resource : ResourceName) : List ProviderKind :=
  (s.replicasOf resource).flatMap s.kindsOf

namespace ProviderKind

/-- Every kind that differs from the first is in conflict with it. -/
def conflicts : List ProviderKind → List (ProviderKind × ProviderKind)
  | [] => []
  | first :: kinds => (kinds.filter (· ≠ first)).map (first, ·)

theorem conflicts_eq_nil_iff {kinds : List ProviderKind} :
    conflicts kinds = [] ↔ ∀ k ∈ kinds, ∀ k' ∈ kinds, k = k' := by
  cases kinds with
  | nil => simp [conflicts]
  | cons first kinds =>
    simp only [conflicts, List.map_eq_nil_iff, List.filter_eq_nil_iff, decide_not, Bool.not_eq_true',
      decide_eq_false_iff_not, not_not]
    constructor
    · intro h
      have hall : ∀ k ∈ first :: kinds, k = first := List.forall_mem_cons.2 ⟨rfl, h⟩
      exact fun k hk k' hk' => (hall k hk).trans (hall k' hk').symm
    · exact fun h k hk => h k (List.mem_cons_of_mem _ hk) first List.mem_cons_self

theorem head?_conflicts {kinds : List ProviderKind} {first kind : ProviderKind} :
    (conflicts kinds).head? = some (first, kind) ↔ ∃ before after,
      kinds = first :: (before ++ kind :: after) ∧ (∀ k ∈ before, k = first) ∧ kind ≠ first := by
  cases kinds with
  | nil => simp [conflicts]
  | cons head kinds =>
    rw [conflicts, List.head?_map, List.head?_filter, Option.map_eq_some_iff]
    simp only [List.find?_eq_some_iff_append]
    constructor
    · rintro ⟨_, ⟨hne, before, after, heq, hbefore⟩, ⟨⟩⟩
      exact ⟨before, after, by rw [heq], by simpa using hbefore, by simpa using hne⟩
    · rintro ⟨before, after, heq, hbefore, hne⟩
      obtain ⟨rfl, rfl⟩ := List.cons.inj heq
      exact ⟨kind, ⟨by simpa using hne, before, after, rfl, by simpa using hbefore⟩, rfl⟩

end ProviderKind

def Fault.conflicts (resource : ResourceName) (kinds : List ProviderKind) : List Fault :=
  (ProviderKind.conflicts kinds).map fun pair => .kindConflict resource pair.1 pair.2

theorem Fault.map_error_conflicts (resource : ResourceName) (kinds : List ProviderKind) :
    (conflicts resource kinds).map (error policy subject f) =
      (ProviderKind.conflicts kinds).map fun pair => .providerConflict resource.text pair.1 pair.2 :=
  List.map_map

namespace PlacementContext

variable {s : Snapshot} {resource : ResourceName}

theorem foldlM_fix_some (first : ProviderKind) (kinds : List ProviderKind) :
    kinds.foldlM (fun fixed kind => fix resource kind fixed) (some first) =
      Outcome.failing ((kinds.filter (· ≠ first)).map (.providerConflict resource.text first))
        (some first) := by
  induction kinds with
  | nil => rfl
  | cons kind kinds ih =>
    by_cases hsame : kind = first
    · have hfix : fix resource kind (some first) = .ok (some first) := if_pos hsame.symm
      rw [List.foldlM_cons, hfix, List.filter_cons_of_neg (by simp [hsame])]
      exact ih
    · have hfix : fix resource kind (some first) =
          .error (.providerConflict resource.text first kind) := if_neg (Ne.symm hsame)
      rw [List.foldlM_cons, hfix, List.filter_cons_of_pos (by simp [hsame])]
      rfl

theorem foldlM_fix (kinds : List ProviderKind) :
    kinds.foldlM (fun fixed kind => fix resource kind fixed) none =
      Outcome.failing ((ProviderKind.conflicts kinds).map fun pair =>
        .providerConflict resource.text pair.1 pair.2) kinds.head? := by
  cases kinds with
  | nil => rfl
  | cons first kinds =>
    rw [ProviderKind.conflicts, List.map_map]
    exact foldlM_fix_some first kinds

theorem addReplica_eq_foldlM {r : Replica} (hr : ∀ v ∈ r.volumes, s.hasPool r.node v.pool = true)
    (fixed : Option ProviderKind) : addReplica s resource fixed r =
      (s.kindsOf r).foldlM (fun fixed kind => fix resource kind fixed) fixed := by
  unfold addReplica Snapshot.kindsOf
  cases r.diskless with
  | true => rfl
  | false =>
    simp only [Bool.false_eq_true, if_false, List.foldlM_filterMap]
    refine Outcome.foldlM_congr (fun v hv fixed => ?_) fixed
    obtain ⟨p, hp⟩ := Option.isSome_iff_exists.1 (hr v hv)
    unfold addVolume
    rw [hp]
    cases hdisk : p.provider.isDiskless <;> simp [Option.filter, hdisk, pure, Except.pure]

/-- The nodes of the replicas, and the first kind that holds data. -/
def observed (s : Snapshot) (resource : ResourceName) : PlacementContext :=
  ⟨(s.replicasOf resource).map (·.node), (s.dataKinds resource).head?⟩

theorem ofResource_eq_failing (hs : s.WellFormed) (resource : ResourceName) :
    ofResource s resource = Outcome.failing
      ((ProviderKind.conflicts (s.dataKinds resource)).map fun pair =>
        .providerConflict resource.text pair.1 pair.2) (observed s resource) := by
  have hvolumes : ∀ r ∈ s.replicasOf resource, ∀ v ∈ r.volumes, s.hasPool r.node v.pool = true := by
    intro r hr
    obtain ⟨d, hd, hr⟩ := Snapshot.mem_replicas.1 (hs.mem_replicasOf_iff.1 hr).1
    exact hs.replica_volumes d hd r hr
  have hkinds : (s.replicasOf resource).foldlM (addReplica s resource) none =
      (s.dataKinds resource).foldlM (fun fixed kind => fix resource kind fixed) none :=
    Outcome.foldlM_flatMap (fun r hr => addReplica_eq_foldlM (hvolumes r hr)) none
  unfold ofResource observed
  simp only [hkinds, foldlM_fix, Outcome.failing_map]

end PlacementContext

end ReplicaPlacement
