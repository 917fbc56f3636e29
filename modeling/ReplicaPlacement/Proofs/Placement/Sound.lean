import ReplicaPlacement.Proofs.Candidate.Eligible
import ReplicaPlacement.Proofs.Constraint.Kept
import ReplicaPlacement.Proofs.Placement.Context
import ReplicaPlacement.Proofs.Placement.Stages
import ReplicaPlacement.Proofs.Selection.Complete
import ReplicaPlacement.Proofs.Selection.Feasible

/-!
# What every placement satisfies

Whatever is placed satisfies all constraints at once, in terms of the snapshot: each pool on its
own, all pools together, and both with the replicas that exist.
-/

namespace ReplicaPlacement

variable {σ : Type}

open Selection (fixedValue claimedValues)

/-! ## Each pool -/

/-- The pool is in the snapshot, may be used, has room, and satisfies what is asked of single
pools. -/
structure SoundPool (a : Autoplacer σ) (s : Snapshot) (subject : Subject) (c : ConstraintSet)
    (x : Candidate σ) : Prop where
  listed : ∃ p ∈ s.toInventory.pools, s.pool? x.node x.pool = some p ∧
    x = .ofPool p (a.scorer.score p)
  may_use_definition : a.policy.has subject (.poolDefinition x.pool) .use = true
  may_use_node : a.policy.has subject (.node x.node) .use = true
  connected : ∃ n, s.node? x.node = some n ∧ n.connected = true
  not_diskless : x.provider.isDiskless = false
  has_room : x.provider.isThin = true ∨ c.size ≤ x.knownFree
  forced : ∀ name, c.forcedPool = some name → x.pool.key = name.key
  apart : ∀ r ∈ s.toInventory.replicas, r.node.key = x.node.key → r.uses x.pool = true →
    (∀ n ∈ c.notPlaceWith, n.key ≠ r.resource.key) ∧
      ∀ text test, c.notPlaceWithPattern = some text → a.language text = some test →
        ∀ n ∈ s.resources, n.key = r.resource.key → test n.text = false
  pinned_values : ∀ f ∈ c.replicasOnSame, ∀ v, f.pinned = some v →
    s.propOf? x.node f.key = some v

/-! ## All pools -/

/-- The nodes that existing replicas of the resource take, unless these are to be ignored. -/
def hosts (s : Snapshot) (resource : ResourceName) (c : ConstraintSet) : List NodeName :=
  if c.skipAlreadyPlaced then [] else (s.replicasOf resource).map (·.node)

structure SoundPlacement [Score σ] (a : Autoplacer σ) (s : Snapshot) (subject : Subject)
    (resource : ResourceName) (c : ConstraintSet) (p : Placement σ) : Prop where
  count_eq : p.pools.length = c.replicaCount.toNat
  pools_sound : ∀ x ∈ p.pools, SoundPool a s subject c x
  nodes_distinct : p.pools.Pairwise fun x y => x.node.key ≠ y.node.key
  nodes_free : c.skipAlreadyPlaced = false → ∀ x ∈ p.pools, ∀ r ∈ s.toInventory.replicas,
    r.resource.key = resource.key → r.node.key ≠ x.node.key
  one_kind : ∀ x ∈ p.pools, ∀ y ∈ p.pools, x.provider = y.provider
  kind_of_data : ∀ x ∈ p.pools, ∀ r ∈ s.toInventory.replicas, r.resource.key = resource.key →
    r.diskless = false → ∀ v ∈ r.volumes, ∀ q, s.pool? r.node v.pool = some q →
      q.provider.isDiskless = false → x.provider = q.provider
  /-- Once a node has a value that all must share, every later node has it. -/
  same_agree : ∀ f ∈ c.replicasOnSame, p.pools.Pairwise fun x y =>
    ∀ v, s.propOf? x.node f.key = some v → s.propOf? y.node f.key = some v
  same_fixed : ∀ f ∈ c.replicasOnSame, ∀ v, fixedValue s (hosts s resource c) f = some v →
    ∀ x ∈ p.pools, s.propOf? x.node f.key = some v
  different_distinct : ∀ f ∈ c.replicasOnDifferent, p.pools.Pairwise fun x y =>
    ∀ v, s.propOf? x.node f.key = some v → s.propOf? y.node f.key ≠ some v
  different_unclaimed : ∀ f ∈ c.replicasOnDifferent, ∀ x ∈ p.pools, ∀ v,
    s.propOf? x.node f.key = some v → v ∉ claimedValues s (hosts s resource c) f
  resource_eq : p.resource = resource
  total_eq : p.totalScore = Score.sum (p.pools.map (·.score))
  allThin_iff : p.allThin = true ↔ ∀ x ∈ p.pools, x.provider.isThin = true
  minFree_le : ∀ x ∈ p.pools, p.minFreeSpace ≤ x.knownFree
  minFree_attained : p.pools ≠ [] → ∃ x ∈ p.pools, x.knownFree = p.minFreeSpace
  minFree_empty : p.pools = [] → p.minFreeSpace = 0

/-! ## From the stages -/

namespace Autoplacer

variable [Score σ] {a : Autoplacer σ} {s : Snapshot} {subject : Subject} {resource : ResourceName}
  {c : ConstraintSet} {checked : CheckedConstraints} {context : PlacementContext}
  {candidates : List (Candidate σ)}

theorem Stages.candidate (h : a.Stages s subject resource c checked context candidates)
    {x : Candidate σ} (hx : x ∈ candidates) :
    ∃ d ∈ s.definitions, ∃ p ∈ d.pools,
      MadeFrom ⟨s, a.policy, subject, c.size⟩ a.scorer p x ∧
      (∀ name, c.forcedPool = some name → name.key = d.name.key) ∧
      (∀ r ∈ s.resourcesIn x.node x.pool, ¬ checked.Excludes s r.key) ∧
      ∀ f ∈ c.replicasOnSame, ∀ v, f.pinned = some v → s.propOf? x.node f.key = some v := by
  obtain ⟨hconstraints, -⟩ := ConstraintSet.check_eq_ok h.checked_eq
  have hcandidates := h.candidates_eq
  unfold admissibleCandidates at hcandidates
  obtain ⟨groups, hgroups, hkept⟩ := Attempt.bind_eq_ok.1 hcandidates
  rw [Attempt.result_ofTraced, Except.ok.injEq] at hkept
  rw [← hkept] at hx
  obtain ⟨⟨g, hg, hxg, hforced⟩, hapart, hpinned⟩ := CheckedConstraints.mem_admissible hx
  obtain ⟨d, hd, hname, hpools⟩ := mem_candidates hgroups g hg
  obtain ⟨p, hp, hmade⟩ := hpools x hxg
  rw [hconstraints] at hmade hforced hpinned
  refine ⟨d, hd, p, hp, hmade, fun name heq => ?_, hapart, hpinned⟩
  rw [hforced name heq, hname]

theorem Stages.soundPool (h : a.Stages s subject resource c checked context candidates)
    (hs : s.WellFormed) {x : Candidate σ} (hx : x ∈ candidates) : SoundPool a s subject c x := by
  obtain ⟨-, hpattern⟩ := ConstraintSet.check_eq_ok h.checked_eq
  obtain ⟨hconstraints, -⟩ := ConstraintSet.check_eq_ok h.checked_eq
  obtain ⟨d, hd, p, hp, hmade, hforced, hapart, hpinned⟩ := h.candidate hx
  obtain ⟨rfl, heligible, -⟩ := hmade
  have hlisted : p ∈ s.toInventory.pools := Snapshot.mem_pools.2 ⟨d, hd, hp⟩
  constructor
  case listed => exact ⟨p, hlisted, hs.pool?_eq_some hlisted, rfl⟩
  case may_use_definition => exact heligible.may_use_definition
  case may_use_node => exact heligible.may_use_node
  case connected => exact heligible.connected
  case not_diskless => exact heligible.not_diskless
  case has_room => exact heligible.has_room
  case forced =>
    intro name hname
    exact (hs.pool_named d hd p hp).trans (hforced name hname).symm
  case apart =>
    intro r hr hnode huses
    have hin : r.resource ∈ s.resourcesIn p.node p.name := hs.mem_resourcesIn hr hnode huses
    have hnot : ¬ checked.Excludes s r.resource.key := hapart r.resource hin
    refine ⟨fun n hn hk => hnot (Or.inl ⟨n, by rwa [hconstraints], hk⟩), ?_⟩
    intro text test htext htest n hn hk
    cases hmatch : test n.text with
    | false => rfl
    | true =>
      refine absurd (Or.inr ⟨test, ?_, n, hn, hmatch, hk⟩) hnot
      rw [hpattern, htext]
      exact htest
  case pinned_values => exact hpinned

theorem Stages.deployed_eq (h : a.Stages s subject resource c checked context candidates) :
    Selection.deployed c context = hosts s resource c := by
  rw [Selection.deployed, hosts, (PlacementContext.ofResource_eq_ok h.context_eq).1]

theorem Stages.place_singleton {checked : CheckedConstraints} {context : PlacementContext}
    {x : Candidate σ} (h : a.Stages s subject resource c checked context [x])
    (hknown : Selection.NodesKnown s context [x]) (hcount : c.replicaCount.toNat = 1)
    (hfollow : Selection.MayFollow s c context [] x)
    (himproves : Score.improves (Selection.total [x]) none = true) :
    (a.place s subject resource c).result = .ok (some (.ofSelection resource [x])) := by
  refine place_eq_ok.2 ⟨_, _, _, h, some [x], ?_, rfl⟩
  rw [Selection.select_singleton hknown hcount hfollow, if_pos himproves]

end Autoplacer

/-! ## The summary -/

namespace Placement

theorem least_spec {n : UInt64} {ns : List UInt64} (h : n ∈ ns) :
    least ns ∈ ns ∧ ∀ m ∈ ns, least ns ≤ m := by
  cases ns with
  | nil => cases h
  | cons m ms => exact List.min?_eq_some_iff.1 rfl

variable [Score σ] {resource : ResourceName} {chosen : List (Candidate σ)} {x : Candidate σ}

theorem minFreeSpace_le (hx : x ∈ chosen) :
    (ofSelection resource chosen).minFreeSpace ≤ x.knownFree := by
  have hfree := List.mem_map_of_mem (f := Candidate.knownFree) hx
  exact (least_spec hfree).2 _ hfree

theorem exists_minFreeSpace (hx : x ∈ chosen) :
    ∃ y ∈ chosen, y.knownFree = (ofSelection resource chosen).minFreeSpace :=
  List.mem_map.1 (least_spec (List.mem_map_of_mem hx)).1

end Placement

/-! ## The placement -/

namespace Autoplacer

variable [Score σ] {a : Autoplacer σ} {s : Snapshot} {subject : Subject} {resource : ResourceName}
  {c : ConstraintSet}

/-- Every placement on a snapshot that was built from an inventory is sound. -/
theorem place_sound {i : Inventory} {p : Placement σ} (hs : Snapshot.ofInventory i = .ok s)
    (h : (a.place s subject resource c).result = .ok (some p)) :
    SoundPlacement a s subject resource c p := by
  have hs := Snapshot.wellFormed_ofInventory hs
  obtain ⟨checked, context, candidates, hstages, selection, hselect, hp⟩ := place_eq_ok.1 h
  obtain ⟨chosen, rfl, rfl⟩ := Option.map_eq_some_iff.1 hp.symm
  obtain ⟨hsub, hcount, horder⟩ := Selection.select_sound hselect
  obtain ⟨-, hdata⟩ := PlacementContext.ofResource_eq_ok hstages.context_eq
  have hamong : ∀ x ∈ chosen, x ∈ candidates := fun x hx => Selection.mem_ranking.1 (hsub.subset hx)
  have hfeasible := Selection.feasible_of_inOrder hamong hcount horder
  have hhosts := hstages.deployed_eq
  have hsame := fun f (hf : f ∈ c.replicasOnSame) => horder.same_values hf fun y hy =>
    absurd hy List.not_mem_nil
  -- Before the first candidate only the hosts are taken.
  have htaken : Selection.takenNodes c context ([] : List (Candidate σ)) = hosts s resource c := by
    rw [Selection.takenNodes, List.map_nil, List.append_nil, hhosts]
  rw [htaken] at hsame
  constructor
  case count_eq => exact hcount
  case pools_sound => exact fun x hx => hstages.soundPool hs (hamong x hx)
  case nodes_distinct => exact hfeasible.nodes_distinct
  case nodes_free =>
    intro hskip x hx r hr hk
    refine hfeasible.nodes_free x hx r.node ?_
    rw [hhosts, hosts, hskip]
    exact List.mem_map_of_mem (hs.mem_replicasOf_iff.2 ⟨hr, hk⟩)
  case one_kind => exact hfeasible.one_kind
  case kind_of_data =>
    intro x hx r hr hk hdiskful v hv q hq hqdata
    refine hfeasible.kind_fits x hx q.provider (hdata r (hs.mem_replicasOf_iff.2 ⟨hr, hk⟩) _ ?_)
    exact ⟨hdiskful, v, hv, q, hq, hqdata, rfl⟩
  case same_agree => exact fun f hf => (hsame f hf).1
  case same_fixed => exact fun f hf v hv x hx => (hsame f hf).2 x hx v hv
  case different_distinct => exact hfeasible.values_distinct
  case different_unclaimed =>
    intro f hf x hx v hv hclaimed
    rw [claimedValues, ← hhosts, List.mem_append, List.mem_filterMap] at hclaimed
    rcases hclaimed with hpinned | ⟨n, hn, hnv⟩
    · exact hfeasible.values_unpinned x hx f hf v hv (Option.mem_toList.1 hpinned)
    · exact hfeasible.values_free x hx f hf n hn v hv hnv
  case resource_eq => rfl
  case total_eq => rfl
  case allThin_iff => exact List.all_eq_true
  case minFree_le => exact fun x hx => Placement.minFreeSpace_le hx
  case minFree_attained =>
    intro hne
    obtain ⟨x, hx⟩ := List.exists_mem_of_ne_nil chosen hne
    exact Placement.exists_minFreeSpace hx
  case minFree_empty =>
    rintro rfl
    rfl

/-! ## A placement in the hall -/

def uniform : Autoplacer Float := .ofConfig .allowAll { strategy := .uniform } fun _ => none

def roomiest (policy : AccessPolicy) : Autoplacer ℕ :=
  ⟨policy, { name := "Roomiest", score := fun p => p.knownFree.toNat }, false, fun _ => none⟩

def database : ResourceName := ⟨"db", by decide⟩

open Snapshot (hall alpha beta kilo lima news ssd wiki)

/-- Two more replicas in the same zone, each in a rack of its own, and none beside the news. -/
def twoInZone : ConstraintSet where
  forcedPool := some ssd
  notPlaceWith := [news]
  replicasOnSame := [⟨"zone", some "a"⟩]
  replicasOnDifferent := [⟨"rack", none⟩]
  size := 5

def roomInHall (node : NodeName) (free : UInt64) : Candidate ℕ :=
  ⟨ssd, node, .lvm, free.toNat, some free⟩

/-- What the constraints leave. The first has a replica already, the third shares a rack with the
second. -/
def roomForWiki : List (Candidate ℕ) :=
  [roomInHall alpha 60, roomInHall beta 50, roomInHall kilo 40, roomInHall lima 30]

theorem stages_roomForWiki : (roomiest .allowAll).Stages hall systemSubject wiki twoInZone
    ⟨twoInZone, none⟩ ⟨[alpha], some .lvm⟩ roomForWiki where
  checked_eq := rfl
  context_eq := rfl
  may_view := rfl
  candidates_eq := rfl

theorem select_roomForWiki :
    (Selection.select hall twoInZone ⟨[alpha], some .lvm⟩ false roomForWiki).result =
      .ok (some [roomInHall beta 50, roomInHall lima 30]) := by
  have hknown : Selection.NodesKnown hall ⟨[alpha], some .lvm⟩ roomForWiki := ⟨by decide, by decide⟩
  have hdesc : Selection.Descending roomForWiki := by
    unfold Selection.Descending roomForWiki
    decide +kernel
  rw [Selection.select_exhaustive hknown (by decide), Selection.ranking_eq_self hdesc]
  exact congrArg Except.ok (by decide +kernel)

theorem place_hall_sound :
    let placement := .ofSelection wiki [roomInHall beta 50, roomInHall lima 30]
    ((roomiest .allowAll).place hall systemSubject wiki twoInZone).result = .ok (some placement) ∧
      SoundPlacement (roomiest .allowAll) hall systemSubject wiki twoInZone placement := by
  have hplace := place_eq_ok.2 ⟨_, _, _, stages_roomForWiki, _, select_roomForWiki, rfl⟩
  exact ⟨hplace, place_sound Snapshot.ofInventory_hall hplace⟩

end Autoplacer

end ReplicaPlacement
