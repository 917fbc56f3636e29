import Mathlib.Data.List.Flatten
import ReplicaPlacement.Proofs.Cluster.Altered
import ReplicaPlacement.Proofs.Placement.Answer
import ReplicaPlacement.Proofs.Selection.Larger

/-!
# Asking for less

With less space asked for, more nodes connected and more access granted, every pool that was on
offer still is, in the same order. Where no resource is excluded the constraints drop the same
candidates as before, so what could be placed still can.
-/

namespace ReplicaPlacement

/-! ## More nodes and more access -/

def Node.connect (more : Node → Bool) (n : Node) : Node :=
  { n with connected := n.connected || more n }

def Inventory.connect (more : Node → Bool) (i : Inventory) : Inventory :=
  { i with nodes := i.nodes.map (Node.connect more) }

def Snapshot.connect (more : Node → Bool) (s : Snapshot) : Snapshot :=
  { s with nodes := s.nodes.map (Node.connect more) }

def AccessPolicy.Within (policy policy' : AccessPolicy) (subject : Subject) : Prop :=
  ∀ object level, policy.granted subject object = some level →
    ∃ level', policy'.granted subject object = some level' ∧ level'.covers level = true

namespace Snapshot

variable {more : Node → Bool} {s : Snapshot}

theorem keepsNames_connect (more : Node → Bool) : KeepsNames (Node.connect more) id :=
  ⟨fun _ => rfl, fun _ => rfl, fun _ => rfl⟩

theorem altered_connect (more : Node → Bool) (s : Snapshot) :
    s.altered (Node.connect more) id = s.connect more := by
  have hdefinition : PoolDefinition.altered id = id := by
    funext d
    simp [PoolDefinition.altered]
  rw [altered, connect, hdefinition, List.map_id]

theorem node?_connect (name : NodeName) :
    (s.connect more).node? name = (s.node? name).map (Node.connect more) := by
  rw [← altered_connect]
  exact node?_altered (keepsNames_connect more) name

theorem propOf?_connect (name : NodeName) (key : String) :
    (s.connect more).propOf? name key = s.propOf? name key := by
  unfold propOf?
  rw [node?_connect]
  cases s.node? name <;> rfl

theorem ofInventory_connect {i : Inventory} (hs : ofInventory i = .ok s) (more : Node → Bool) :
    ofInventory (i.connect more) = .ok (s.connect more) := by
  have hinventory : i.altered (Node.connect more) id = i.connect more := by
    simp [Inventory.altered, Inventory.connect]
  rw [← hinventory, ofInventory_altered (keepsNames_connect more), hs, ← altered_connect]
  rfl

end Snapshot

namespace AccessPolicy

variable {policy policy' : AccessPolicy} {subject : Subject}

theorem Within.has (h : policy.Within policy' subject) {object : SecuredObject} {level : AccessLevel}
    (hhas : policy.has subject object level = true) : policy'.has subject object level = true := by
  unfold AccessPolicy.has at hhas ⊢
  obtain ⟨granted, hgranted, hcovers⟩ := (Option.any_eq_true _ _).1 hhas
  obtain ⟨granted', hgranted', hmore⟩ := h object granted hgranted
  apply (Option.any_eq_true _ _).2
  refine ⟨granted', hgranted', ?_⟩
  unfold AccessLevel.covers at hcovers hmore ⊢
  simp only [decide_eq_true_eq] at hcovers hmore ⊢
  omega

end AccessPolicy

/-! ## More candidates -/

section Offers

variable {more : Node → Bool} {s : Snapshot} {policy policy' : AccessPolicy} {subject : Subject}
  {size size' : UInt64}

theorem Eligible.relax (hpolicy : policy.Within policy' subject) (hsize : size' ≤ size) {p : Pool}
    (h : Eligible ⟨s, policy, subject, size⟩ p) :
    Eligible ⟨s.connect more, policy', subject, size'⟩ p := by
  constructor
  case may_use_definition => exact hpolicy.has h.may_use_definition
  case may_use_node => exact hpolicy.has h.may_use_node
  case not_diskless => exact h.not_diskless
  case connected =>
    obtain ⟨n, hn, hconnected⟩ := h.connected
    refine ⟨n.connect more, ?_, by simp [Node.connect, hconnected]⟩
    exact (Snapshot.node?_connect p.node).trans (congrArg (Option.map (Node.connect more)) hn)
  case has_room => exact h.has_room.imp_right (UInt64.le_trans hsize)

variable {σ : Type} {f : ScoreFunction σ}

theorem offer?_relax (hpolicy : policy.Within policy' subject) (hsize : size' ≤ size) (p : Pool) :
    (PoolRequest.offer? ⟨s, policy, subject, size⟩ f p).toList.Sublist
      (PoolRequest.offer? ⟨s.connect more, policy', subject, size'⟩ f p).toList := by
  unfold PoolRequest.offer?
  by_cases h : Eligible ⟨s, policy, subject, size⟩ p
  · rw [if_pos h, if_pos (h.relax hpolicy hsize)]
  · rw [if_neg h]
    exact List.nil_sublist _

theorem CheckedConstraints.eligible_relax {c c' : CheckedConstraints}
    (hforced : c'.constraints.forcedPool = c.constraints.forcedPool)
    (hpolicy : policy.Within policy' subject) (hsize : size' ≤ size) :
    (c.eligible (PoolRequest.offers ⟨s, policy, subject, size⟩ f)).Sublist
      (c'.eligible (PoolRequest.offers ⟨s.connect more, policy', subject, size'⟩ f)) := by
  rw [eligible_offers, eligible_offers, hforced]
  apply List.Sublist.flatMap_right
  intro d _
  rw [List.filterMap_eq_flatMap_toList, List.filterMap_eq_flatMap_toList]
  apply List.Sublist.flatMap_right
  intro p _
  exact offer?_relax hpolicy hsize p

end Offers

variable {σ : Type} [AddCommMonoid σ] [LinearOrder σ] [ToString σ]

namespace Autoplacer

variable {a : Autoplacer σ} {i : Inventory} {s : Snapshot} {subject : Subject}
  {resource : ResourceName} {c : ConstraintSet} {more : Node → Bool} {policy : AccessPolicy}
  {size : UInt64}

theorem admissibleOffers_relax (more : Node → Bool) (hnamed : c.notPlaceWith = [])
    (hpattern : c.notPlaceWithPattern = none) (hpolicy : a.policy.Within policy subject)
    (hsize : size ≤ c.size) :
    (a.admissibleOffers s subject c).Sublist
      ({ a with policy }.admissibleOffers (s.connect more) subject { c with size }) := by
  have hproperty : CheckedConstraints.propertyOf (σ := σ) (s.connect more) =
      CheckedConstraints.propertyOf s := by
    funext x f
    exact Snapshot.propOf?_connect x.node f.key
  have hpattern' : c.notPlaceWithPattern.bind a.language = none := by rw [hpattern]; rfl
  unfold admissibleOffers
  rw [CheckedConstraints.admissible_value, CheckedConstraints.admissible_value,
    CheckedConstraints.keepApart_value_of_named_nil hnamed hpattern',
    CheckedConstraints.keepApart_value_of_named_nil hnamed hpattern']
  unfold CheckedConstraints.mismatch?
  rw [hproperty]
  exact (CheckedConstraints.eligible_relax rfl hpolicy hsize).filter _

theorem answer_relax (hs : Snapshot.ofInventory i = .ok s) (hnamed : c.notPlaceWith = [])
    (hpattern : c.notPlaceWithPattern = none) (hpolicy : a.policy.Within policy subject)
    (hsize : size ≤ c.size) {p : Placement σ} (h : a.answer s subject resource c = some p) :
    ∃ p', { a with policy }.answer (s.connect more) subject resource { c with size } = some p' := by
  have hsub := admissibleOffers_relax (s := s) more hnamed hpattern hpolicy hsize
  have hwell := Snapshot.wellFormed_ofInventory (Snapshot.ofInventory_connect hs more)
  have hknown : Selection.NodesKnown (s.connect more) (.observed (s.connect more) resource)
      ({ a with policy }.admissibleOffers (s.connect more) subject { c with size }) :=
    nodesKnown_admissibleOffers hwell
  have hfewer : Selection.NodesKnown (s.connect more) (.observed (s.connect more) resource)
      (a.admissibleOffers s subject c) :=
    ⟨fun x hx => hknown.candidate_nodes x (hsub.subset hx), hknown.deployed_nodes⟩
  obtain ⟨chosen, hchosen, -⟩ := Option.map_eq_some_iff.1 h
  have hselect : (Selection.select (s.connect more) { c with size } (.observed (s.connect more) resource)
      false (a.admissibleOffers s subject c)).result = .ok (some chosen) := by
    rw [Selection.select_eq_selected hfewer, Selection.selected_congr Snapshot.propOf?_connect]
    exact congrArg Except.ok hchosen
  obtain ⟨chosen', hchosen'⟩ := Selection.exists_select_of_sublist hsub hknown hselect
  rw [Selection.select_eq_selected hknown] at hchosen'
  exact ⟨_, congrArg (Option.map (Placement.ofSelection resource)) (Except.ok.inj hchosen')⟩

end Autoplacer

open Selection (NodesKnown select)

/-- What can be placed can be placed with less space asked for, more nodes connected and more access
granted, unless that fails with an error. What can be selected can be selected from more. -/
theorem feasible_of_relaxed (σ : Type) [AddCommMonoid σ] [LinearOrder σ] [ToString σ] :
    (∀ (a : Autoplacer σ) (policy : AccessPolicy) (c : ConstraintSet) (size : UInt64)
        (more : Node → Bool) {i : Inventory} {s : Snapshot} {subject : Subject}
        {resource : ResourceName} {p : Placement σ},
      Snapshot.ofInventory i = .ok s → c.notPlaceWith = [] → c.notPlaceWithPattern = none →
      a.policy.Within policy subject → size ≤ c.size →
      (a.place s subject resource c).result = .ok (some p) →
      ∃ s', Snapshot.ofInventory (i.connect more) = .ok s' ∧
        ∀ r, ({ a with policy }.place s' subject resource { c with size }).result = .ok r →
          ∃ p', r = some p') ∧
    ∀ {s : Snapshot} {c : ConstraintSet} {context : PlacementContext} {log : Bool}
        {candidates more : List (Candidate σ)} {chosen : List (Candidate σ)},
      candidates.Sublist more → NodesKnown s context more →
      (select s c context log candidates).result = .ok (some chosen) →
      ∃ chosen', (select s c context log more).result = .ok (some chosen') := by
  refine ⟨?_, fun hsub hknown => Selection.exists_select_of_sublist hsub hknown⟩
  intro a policy c size more i s subject resource p hs hnamed hpattern hpolicy hsize h
  have hbuilt := Snapshot.ofInventory_connect hs more
  refine ⟨s.connect more, hbuilt, fun r hr => ?_⟩
  rw [Autoplacer.place_eq_failing (Snapshot.wellFormed_ofInventory hs), Outcome.failing_eq_ok] at h
  rw [Autoplacer.place_eq_failing (Snapshot.wellFormed_ofInventory hbuilt), Outcome.failing_eq_ok] at hr
  obtain ⟨p', hp'⟩ : ∃ p', { a with policy }.answer (s.connect more) subject resource { c with size } =
      some p' := Autoplacer.answer_relax hs hnamed hpattern hpolicy hsize h.2
  exact ⟨p', hr.2.symm.trans hp'⟩

/-! ## Less asked of the pair -/

def usersOnly : AccessPolicy := ⟨fun _ _ => some .use⟩

def byRoom : Autoplacer ℕ := .roomiest usersOnly

def alphaByRoom : Candidate ℕ := ⟨Snapshot.ssd, Snapshot.alpha, .lvm, 10, some 10⟩

theorem nodesKnown_alphaByRoom : NodesKnown Snapshot.pair {} [alphaByRoom] := ⟨by decide, nofun⟩

theorem place_pair_byRoom : (byRoom.place Snapshot.pair "guest" Autoplacer.database
    { replicaCount := 1, size := 8 }).result =
      .ok (some (.ofSelection Autoplacer.database [alphaByRoom])) := by
  have hstages : byRoom.Stages Snapshot.pair "guest" Autoplacer.database
      { replicaCount := 1, size := 8 } ⟨{ replicaCount := 1, size := 8 }, none⟩ {} [alphaByRoom] :=
    ⟨rfl, rfl, rfl, rfl⟩
  exact hstages.place_singleton nodesKnown_alphaByRoom rfl (Selection.mayFollow_first nofun nofun) rfl

theorem select_alphaByRoom : (select Snapshot.pair { replicaCount := 1 } {} false [alphaByRoom]).result =
    .ok (some [alphaByRoom]) :=
  Selection.select_singleton nodesKnown_alphaByRoom rfl (Selection.mayFollow_first nofun nofun)

/-- The second node joins, and its pool beside the first. -/
theorem place_pair_relaxed :
    (∃ s', Snapshot.ofInventory (Snapshot.pairInventory.connect fun _ => true) = .ok s' ∧
      ∀ r, ({ byRoom with policy := .allowAll }.place s' "guest" Autoplacer.database
          { replicaCount := 1, size := 3 }).result = .ok r → ∃ p', r = some p') ∧
    ∃ chosen, (select Snapshot.pair { replicaCount := 1 } {} false
      (Selection.pairCandidates (10 : ℕ) 20)).result = .ok (some chosen) := by
  constructor
  · refine (feasible_of_relaxed ℕ).1 byRoom .allowAll { replicaCount := 1, size := 8 } 3 (fun _ => true)
      Snapshot.ofInventory_pair rfl rfl ?_ (by decide) place_pair_byRoom
    rintro object level ⟨⟩
    exact ⟨.control, rfl, rfl⟩
  · have hsub : [alphaByRoom].Sublist (Selection.pairCandidates 10 20) :=
      (List.nil_sublist _).cons_cons _
    exact (feasible_of_relaxed ℕ).2 hsub (Selection.nodesKnown_pair 10 20) select_alphaByRoom

end ReplicaPlacement
