import ReplicaPlacement.Access.Control
import ReplicaPlacement.Proofs.Constraint.Spelling
import ReplicaPlacement.Proofs.Placement.Answer

/-!
# Placement in another spelling

Every stage of a placement gives from a snapshot in upper case what it gives from the snapshot
itself, in upper case. So two descriptions of one cluster that differ only in the order of objects
and in the letter case of names lead to the same placement, or to the same error about the same
names.
-/

namespace ReplicaPlacement

/-! ## Existing replicas -/

namespace Snapshot

variable (s : Snapshot)

theorem kindsOf_canonical (r : Replica) : s.canonical.kindsOf r.canonical = s.kindsOf r := by
  have hkind (v : Volume) : (s.canonical.pool? r.canonical.node v.canonical.pool).map (·.provider) =
      (s.pool? r.node v.pool).map (·.provider) := by
    rw [Replica.canonical, Volume.canonical, pool?_canonical, Option.map_map]
    rfl
  have hdiskless : r.canonical.diskless = r.diskless := rfl
  have hvolumes : r.canonical.volumes = r.volumes.map Volume.canonical := rfl
  unfold kindsOf
  rw [hdiskless, hvolumes, List.filterMap_map]
  simp only [Function.comp_def, hkind]

theorem dataKinds_canonical (resource : ResourceName) :
    s.canonical.dataKinds resource.canonical = s.dataKinds resource := by
  rw [dataKinds, dataKinds, replicasOf_canonical, List.flatMap_map]
  simp only [kindsOf_canonical]

end Snapshot

theorem Fault.conflicts_canonical (resource : ResourceName) (kinds : List ProviderKind) :
    conflicts resource.canonical kinds = (conflicts resource kinds).map Fault.canonical := by
  rw [conflicts, conflicts, List.map_map]
  rfl

theorem PlacementContext.observed_canonical (s : Snapshot) (resource : ResourceName) :
    observed s.canonical resource.canonical = (observed s resource).canonical := by
  simp only [observed, canonical, Snapshot.dataKinds_canonical, Snapshot.replicasOf_canonical,
    List.map_map]
  rfl

/-! ## Constraints -/

theorem PropertyFilter.faults_canonical (f : PropertyFilter) : f.faults.map Fault.canonical = f.faults := by
  unfold faults
  split <;> rfl

theorem PatternLanguage.faults_canonical (language : PatternLanguage) (text : String) :
    (language.faults text).map Fault.canonical = language.faults text := by
  unfold faults
  split <;> rfl

theorem ConstraintSet.faults_canonical (c : ConstraintSet) (language : PatternLanguage) :
    c.canonical.faults language = (c.faults language).map Fault.canonical := by
  have hsame : c.canonical.faults language = c.faults language := rfl
  rw [hsame, faults, List.map_append, List.map_flatMap, List.map_flatMap]
  simp only [PropertyFilter.faults_canonical, PatternLanguage.faults_canonical]

/-! ## The answer -/

variable {σ : Type} [Score σ]

theorem Selection.selected_canonical (s : Snapshot) (c : ConstraintSet) (context : PlacementContext)
    (cs : List (Candidate σ)) :
    selected s.canonical c.canonical context.canonical (cs.map Candidate.canonical) =
      (selected s c context cs).map (List.map Candidate.canonical) := by
  have hcount : c.canonical.replicaCount = c.replicaCount := rfl
  have hfilters : Filters.ofConstraints c.canonical = Filters.ofConstraints c := rfl
  unfold selected
  rw [hcount, hfilters, startState_canonical, ranking_canonical, rankedChoices_canonical]
  split
  · rfl
  · have hstart : (startState s c context).Shaped (Filters.ofConstraints c) := shaped_startState
    have hsearch := branchAndBound_canonical hstart (shaped_rankedChoices s c (ranking cs))
      c.replicaCount.toNat none
    rw [Option.map_none] at hsearch
    rw [hsearch]
    exact candidates_map (g := Choice.canonical) (h := Candidate.canonical) (fun _ => rfl) _

def Placement.canonical (p : Placement σ) : Placement σ :=
  { p with resource := p.resource.canonical, pools := p.pools.map Candidate.canonical }

theorem Placement.ofSelection_canonical (resource : ResourceName) (selection : List (Candidate σ)) :
    ofSelection resource.canonical (selection.map Candidate.canonical) =
      (ofSelection resource selection).canonical := by
  simp only [ofSelection, canonical, List.map_map, List.all_map]
  rfl

namespace Autoplacer

variable {a : Autoplacer σ} {s : Snapshot} {subject : Subject} {resource : ResourceName}
  {c : ConstraintSet}

omit [Score σ] in
theorem request_canonical :
    a.request s.canonical subject c.canonical = (a.request s subject c).canonical := rfl

variable (hspelling : ∀ object, a.policy.IgnoresSpelling subject object)

include hspelling

omit [Score σ] in
theorem deployedFaults_canonical : a.deployedFaults s.canonical subject resource.canonical c.canonical =
    (a.deployedFaults s subject resource c).map Fault.canonical := by
  have hskip : c.canonical.skipAlreadyPlaced = c.skipAlreadyPlaced := rfl
  have hfilters : c.canonical.filters = c.filters := rfl
  have hnodes : (PlacementContext.observed s resource).canonical.deployedNodes =
      (PlacementContext.observed s resource).deployedNodes.map Name.canonical := rfl
  have hview (n : NodeName) := (hspelling (.node n)).viewFaults_canonical "read node properties"
  simp only [SecuredObject.canonical] at hview
  unfold deployedFaults
  rw [PlacementContext.observed_canonical, hskip, hfilters, hnodes, List.flatMap_map]
  simp only [hview]
  split
  · rfl
  · rw [List.map_flatMap]

variable (hscorer : a.scorer.IgnoresNames)

include hscorer

theorem faults_canonical : a.faults s.canonical subject resource.canonical c.canonical =
    (a.faults s subject resource c).map Fault.canonical := by
  have hdefinitions : s.canonical.definitions.flatMap
      ((a.request s subject c).canonical.definitionFaults a.scorer) =
        (s.definitions.flatMap ((a.request s subject c).definitionFaults a.scorer)).map
          Fault.canonical := by
    rw [Snapshot.canonical, List.flatMap_map, List.map_flatMap]
    exact List.flatMap_congr fun d _ => PoolRequest.definitionFaults_canonical hspelling hscorer d
  unfold faults
  rw [ConstraintSet.faults_canonical, Snapshot.dataKinds_canonical, Fault.conflicts_canonical,
    deployedFaults_canonical hspelling, request_canonical, hdefinitions, List.map_append, List.map_append,
    List.map_append]

theorem admissibleOffers_canonical (hpattern : c.notPlaceWithPattern = none) :
    a.admissibleOffers s.canonical subject c.canonical =
      (a.admissibleOffers s subject c).map Candidate.canonical := by
  have hnone : c.notPlaceWithPattern.bind a.language = none := by rw [hpattern, Option.bind_none]
  have hchecked : (⟨c.canonical, c.canonical.notPlaceWithPattern.bind a.language⟩ : CheckedConstraints) =
      CheckedConstraints.canonical ⟨c, c.notPlaceWithPattern.bind a.language⟩ := rfl
  unfold admissibleOffers
  rw [request_canonical, PoolRequest.offers_canonical hspelling hscorer, hchecked,
    CheckedConstraints.admissible_canonical hnone]

theorem answer_canonical (hpattern : c.notPlaceWithPattern = none) :
    a.answer s.canonical subject resource.canonical c.canonical =
      (a.answer s subject resource c).map Placement.canonical := by
  unfold answer
  rw [PlacementContext.observed_canonical, admissibleOffers_canonical hspelling hscorer hpattern,
    Selection.selected_canonical, Option.map_map, Option.map_map]
  exact congrArg (Option.map · _) (funext fun selection => Placement.ofSelection_canonical resource selection)

end Autoplacer

/-! ## Errors -/

theorem Pool.upper_describe_canonical (p : Pool) :
    Name.upper p.canonical.describe = Name.upper p.describe := by
  have hname : Name.upper (toString p.canonical.name) = Name.upper (toString p.name) := p.name.key_canonical
  have hnode : Name.upper (toString p.canonical.node) = Name.upper (toString p.node) := p.node.key_canonical
  unfold describe
  simp only [Name.upper_append]
  rw [hname, hnode]

theorem SecuredObject.upper_describe_canonical (object : SecuredObject) :
    Name.upper object.canonical.describe = Name.upper object.describe := by
  have htext {kind : NameKind} (n : Name kind) :
      Name.upper (toString n.canonical) = Name.upper (toString n) := n.key_canonical
  unfold describe canonical
  cases object <;> simp only [Name.upper_append, htext]

namespace Fault

variable {f : ScoreFunction σ} (policy : AccessPolicy) (subject : Subject) (fault : Fault)

theorem code_canonical :
    (fault.canonical.error policy subject f).code = (fault.error policy subject f).code := by
  unfold canonical error PlacementError.code
  cases fault <;> simp only

theorem upper_message_canonical (hf : f.IgnoresNames) :
    Name.upper (fault.canonical.error policy subject f).message =
      Name.upper (fault.error policy subject f).message := by
  have htext (text : String) : toString text = text := rfl
  unfold canonical error PlacementError.message
  cases fault with
  | invalidFilter filter => simp only
  | invalidPattern text => simp only
  | kindConflict resource first second =>
    have hname : Name.upper resource.canonical.text = Name.upper resource.text := resource.key_canonical
    simp only [htext, Name.upper_append, hname]
  | hidden action object =>
    simp only [AccessDenied.message, htext, Name.upper_append, object.upper_describe_canonical]
  | scoreNotFinite p =>
    simp only [htext, Name.upper_append, hf p, p.upper_describe_canonical]

end Fault

/-! ## Access lists -/

def AccessGrant.canonical (g : AccessGrant) : AccessGrant :=
  { g with node := g.node.map Name.canonical, pool := g.pool.map Name.canonical }

namespace AccessList

def canonical (l : AccessList) : AccessList :=
  { l with grants := l.grants.map AccessGrant.canonical }

theorem addGrant_canonical (t : GrantTable) (g : AccessGrant) :
    addGrant t g.canonical = addGrant t g := by
  have hkey (object : SecuredObject) : t.grant g.subject object.canonical g.access =
      t.grant g.subject object g.access := by
    rw [GrantTable.grant, GrantTable.grant, SecuredObject.key_canonical]
  have hnames : SecuredObject.ofNames? g.canonical.node g.canonical.pool =
      (SecuredObject.ofNames? g.node g.pool).map SecuredObject.canonical := by
    unfold AccessGrant.canonical
    cases g.node <;> cases g.pool <;> rfl
  unfold addGrant
  rw [hnames]
  cases SecuredObject.ofNames? g.node g.pool with
  | none => rfl
  | some object => exact congrArg Except.ok (hkey object)

theorem table_canonical (l : AccessList) : l.canonical.table = l.table := by
  unfold table canonical
  rw [List.foldlM_map]
  simp only [addGrant_canonical]

end AccessList

/-! ## Two descriptions of one cluster -/

namespace Autoplacer

/-- Two outcomes that differ at most in the letter case of names. -/
inductive Alike (a : Autoplacer σ) (subject : Subject) :
    Except PlacementError (Option (Placement σ)) → Except PlacementError (Option (Placement σ)) → Prop
  | placed {p p' : Placement σ} (same : p.canonical = p'.canonical) :
      Alike a subject (.ok (some p)) (.ok (some p'))
  | infeasible : Alike a subject (.ok none) (.ok none)
  | failed {f f' : Fault} (same : f.canonical = f'.canonical)
      (code_eq : (f.error a.policy subject a.scorer).code = (f'.error a.policy subject a.scorer).code)
      (message_eq : Name.upper (f.error a.policy subject a.scorer).message =
        Name.upper (f'.error a.policy subject a.scorer).message) :
      Alike a subject (.error (f.error a.policy subject a.scorer))
        (.error (f'.error a.policy subject a.scorer))

variable {a : Autoplacer σ} {subject : Subject}

theorem alike_failing (hscorer : a.scorer.IgnoresNames) {faults faults' : List Fault}
    {r r' : Option (Placement σ)} (hfaults : faults.map Fault.canonical = faults'.map Fault.canonical)
    (hr : r.map Placement.canonical = r'.map Placement.canonical) :
    a.Alike subject (Outcome.failing (faults.map (Fault.error a.policy subject a.scorer)) r)
      (Outcome.failing (faults'.map (Fault.error a.policy subject a.scorer)) r') := by
  cases faults with
  | nil =>
    obtain rfl := List.map_eq_nil_iff.1 hfaults.symm
    cases r with
    | none =>
      obtain rfl := Option.map_eq_none_iff.1 hr.symm
      exact .infeasible
    | some p =>
      obtain ⟨p', rfl, hp⟩ := Option.map_eq_some_iff.1 hr.symm
      exact .placed hp.symm
  | cons f fs =>
    obtain ⟨f', fs', rfl, hf, -⟩ := List.map_eq_cons_iff.1 hfaults.symm
    refine .failed hf.symm ?_ ?_
    · rw [← f.code_canonical, ← hf, f'.code_canonical]
    · rw [← f.upper_message_canonical _ _ hscorer, ← hf, f'.upper_message_canonical _ _ hscorer]

/-- Whether a cluster is listed in another order, and names are spelled in another letter case,
makes no difference to which inventories build, to what a subject may do, or to a placement. -/
theorem place_alike_of_respelled {i i' : Inventory} {l l' : AccessList} {c c' : ConstraintSet}
    {resource resource' : ResourceName} (hi : i.Respelled i') (hl : l.canonical = l'.canonical)
    (hc : c.canonical = c'.canonical) (hresource : resource.canonical = resource'.canonical) :
    ((∃ s, Snapshot.ofInventory i = .ok s) ↔ ∃ s, Snapshot.ofInventory i' = .ok s) ∧
    l.table = l'.table ∧
    ∀ s s' t t', Snapshot.ofInventory i = .ok s → Snapshot.ofInventory i' = .ok s' →
      l.table = .ok t → l'.table = .ok t' → c.notPlaceWithPattern = none →
        ∀ config language subject, (ofConfig t.policy config language).Alike subject
          ((ofConfig t.policy config language).place s subject resource c).result
          ((ofConfig t'.policy config language).place s' subject resource' c').result := by
  have hbuilt : i.Consistent ↔ i'.Consistent := hi.consistent_iff
  have htable : l.table = l'.table := by rw [← l.table_canonical, hl, l'.table_canonical]
  refine ⟨by rw [Snapshot.isOk_ofInventory_iff, Snapshot.isOk_ofInventory_iff, hbuilt], htable, ?_⟩
  · intro s s' t t' hs hs' ht ht' hpattern config language subject
    obtain rfl : t = t' := Except.ok.inj (ht.symm.trans (htable.trans ht'))
    have hscorer : (ofConfig t.policy config language).scorer.IgnoresNames :=
      config.strategy.ignoresNames
    have hspelling : ∀ object, (ofConfig t.policy config language).policy.IgnoresSpelling subject object :=
      t.ignoresSpelling_policy subject
    have hpattern' : c'.notPlaceWithPattern = none :=
      (congrArg ConstraintSet.notPlaceWithPattern hc).symm.trans hpattern
    have hcanonical := Snapshot.canonical_eq_of_respelled hi hs hs'
    rw [place_eq_failing (Snapshot.wellFormed_ofInventory hs),
      place_eq_failing (Snapshot.wellFormed_ofInventory hs')]
    apply alike_failing hscorer
    · rw [← faults_canonical hspelling hscorer, ← faults_canonical hspelling hscorer, hcanonical, hc,
        hresource]
    · rw [← answer_canonical hspelling hscorer hpattern, ← answer_canonical hspelling hscorer hpattern',
        hcanonical, hc, hresource]

/-! ## Two nodes, listed the other way round -/

open Snapshot (alpha beta ssd)

/-- The pair of nodes from the second to the first, with some names in upper case. -/
def shoutedInventory : Inventory where
  nodes := [{ name := beta.canonical, connected := false }, { name := alpha }]
  pools := [
    { name := ssd.canonical, node := beta, provider := .lvm, freeSpace := some 20 },
    { name := ssd, node := alpha.canonical, provider := .lvm, freeSpace := some 10 }]

def shouted : Snapshot where
  nodes := [{ name := alpha }, { name := beta.canonical, connected := false }]
  definitions := [⟨ssd.canonical, shoutedInventory.pools.reverse⟩]

theorem respelled_shouted : Snapshot.pairInventory.Respelled shoutedInventory :=
  ⟨by decide +kernel, by decide +kernel, by decide +kernel, by decide +kernel⟩

theorem ofInventory_shouted : Snapshot.ofInventory shoutedInventory = .ok shouted := by
  decide +kernel

def guestList (node : NodeName) (pool : PoolName) : AccessList where
  default := some .control
  grants := [{ subject := "guest", node := some node, pool := some pool }]

def guestTable : GrantTable where
  default := some .control
  grants := [(("guest", .pool "ALPHA" "SSD"), none)]

def inPool (pool : PoolName) : ConstraintSet where
  replicaCount := 1
  forcedPool := some pool

theorem place_pair_shouted :
    (ofConfig guestTable.policy {} fun _ => none).Alike "guest"
      ((ofConfig guestTable.policy {} fun _ => none).place Snapshot.pair "guest" database
        (inPool ssd)).result
      ((ofConfig guestTable.policy {} fun _ => none).place shouted "guest" database.canonical
        (inPool ssd.canonical)).result := by
  have hlist : (guestList alpha ssd).canonical = (guestList alpha.canonical ssd).canonical := by
    decide +kernel
  have hpool : (inPool ssd).canonical = (inPool ssd.canonical).canonical := by decide +kernel
  have hresource : database.canonical = database.canonical.canonical := by decide +kernel
  obtain ⟨-, -, hplace⟩ := place_alike_of_respelled respelled_shouted hlist hpool hresource
  exact hplace _ _ _ _ Snapshot.ofInventory_pair ofInventory_shouted rfl rfl rfl {} _ "guest"

end Autoplacer

end ReplicaPlacement
