import ReplicaPlacement.Placement.Context
import ReplicaPlacement.Proofs.Cluster.Lookup

/-!
# What existing replicas fix

The context of a placement names the node of every replica of the resource, and its provider kind is
that of every pool that holds data of the resource.
-/

namespace ReplicaPlacement.PlacementContext

variable {s : Snapshot} {resource : ResourceName}

def HasData (s : Snapshot) (r : Replica) (v : Volume) (kind : ProviderKind) : Prop :=
  ∃ p, s.pool? r.node v.pool = some p ∧ p.provider.isDiskless = false ∧ p.provider = kind

def HoldsData (s : Snapshot) (r : Replica) (kind : ProviderKind) : Prop :=
  r.diskless = false ∧ ∃ v ∈ r.volumes, HasData s r v kind

/-- A kind that was fixed stays, and every kind that is wanted gets fixed. -/
structure Fixes (wanted : ProviderKind → Prop) (fixed fixed' : Option ProviderKind) : Prop where
  keeps : ∀ k, fixed = some k → fixed' = some k
  gets : ∀ k, wanted k → fixed' = some k

theorem foldlM_fixes {α : Type}
    {f : Option ProviderKind → α → Except PlacementError (Option ProviderKind)}
    {wanted : α → ProviderKind → Prop}
    (hf : ∀ x fixed fixed', f fixed x = .ok fixed' → Fixes (wanted x) fixed fixed') {xs : List α}
    {fixed fixed' : Option ProviderKind} (h : xs.foldlM f fixed = .ok fixed') :
    Fixes (fun k => ∃ x ∈ xs, wanted x k) fixed fixed' := by
  induction xs generalizing fixed with
  | nil =>
    cases h
    exact ⟨fun k hk => hk, by simp⟩
  | cons x xs ih =>
    obtain ⟨fixed₁, h1, h2⟩ := Outcome.foldlM_cons_eq_ok.1 h
    have hx := hf x fixed fixed₁ h1
    have hxs := ih h2
    refine ⟨fun k hk => hxs.keeps k (hx.keeps k hk), ?_⟩
    rintro k ⟨y, hy, hk⟩
    rcases List.mem_cons.1 hy with rfl | hy
    · exact hxs.keeps k (hx.gets k hk)
    · exact hxs.gets k ⟨y, hy, hk⟩

theorem fix_eq_ok {kind : ProviderKind} {fixed fixed' : Option ProviderKind}
    (h : fix resource kind fixed = .ok fixed') : Fixes (· = kind) fixed fixed' := by
  cases fixed with
  | none =>
    cases h
    exact ⟨nofun, fun k hk => congrArg some hk.symm⟩
  | some fixed =>
    rw [fix] at h
    split at h
    · rename_i hsame
      cases h
      exact ⟨fun k hk => hk, fun k hk => congrArg some (hsame.trans hk.symm)⟩
    · cases h

theorem addVolume_fixes {r : Replica} {v : Volume} {fixed fixed' : Option ProviderKind}
    (h : addVolume s resource r fixed v = .ok fixed') : Fixes (HasData s r v) fixed fixed' := by
  unfold addVolume at h
  cases hp : s.pool? r.node v.pool with
  | none =>
    rw [hp] at h
    cases h
  | some p =>
    have hwanted {k : ProviderKind} (hk : HasData s r v k) :
        p.provider.isDiskless = false ∧ p.provider = k := by
      obtain ⟨p', hp', hdata⟩ := hk
      rw [hp] at hp'
      cases hp'
      exact hdata
    rw [hp] at h
    simp only at h
    split at h
    · -- A volume without data fixes nothing.
      rename_i hdiskless
      cases h
      refine ⟨fun k hk => hk, fun k hk => ?_⟩
      rw [(hwanted hk).1] at hdiskless
      cases hdiskless
    · have hfix := fix_eq_ok h
      exact ⟨hfix.keeps, fun k hk => hfix.gets k (hwanted hk).2.symm⟩

theorem addReplica_fixes {r : Replica} {fixed fixed' : Option ProviderKind}
    (h : addReplica s resource fixed r = .ok fixed') : Fixes (HoldsData s r) fixed fixed' := by
  unfold addReplica at h
  cases hdiskless : r.diskless with
  | true =>
    rw [hdiskless] at h
    cases h
    refine ⟨fun k hk => hk, fun k hk => ?_⟩
    rw [hk.1] at hdiskless
    cases hdiskless
  | false =>
    rw [hdiskless] at h
    have hvolumes := foldlM_fixes (f := addVolume s resource r) (fun _ _ _ => addVolume_fixes) h
    exact ⟨hvolumes.keeps, fun k hk => hvolumes.gets k hk.2⟩

theorem ofResource_eq_ok {context : PlacementContext} (h : ofResource s resource = .ok context) :
    context.deployedNodes = (s.replicasOf resource).map (·.node) ∧
      ∀ r ∈ s.replicasOf resource, ∀ kind, HoldsData s r kind → context.provider = some kind := by
  unfold ofResource at h
  obtain ⟨kind, hkind, rfl⟩ := Outcome.map_eq_ok.1 h
  have hfixes := foldlM_fixes (f := addReplica s resource) (fun _ _ _ => addReplica_fixes) hkind
  exact ⟨rfl, fun r hr k hk => hfixes.gets k ⟨r, hr, hk⟩⟩

/-! ## Replicas of one kind -/

theorem foldlM_of_kind {α : Type}
    {f : Option ProviderKind → α → Except PlacementError (Option ProviderKind)} {kind : ProviderKind}
    {xs : List α} (hf : ∀ x ∈ xs, ∀ fixed, (∀ k, fixed = some k → k = kind) →
      f fixed x = .ok (some kind)) (fixed : Option ProviderKind) (hfixed : ∀ k, fixed = some k → k = kind) :
    xs.foldlM f fixed = .ok (if xs = [] then fixed else some kind) := by
  induction xs generalizing fixed with
  | nil => rfl
  | cons x xs ih =>
    obtain ⟨hx, hxs⟩ := List.forall_mem_cons.1 hf
    have hrest := ih hxs (some kind) fun k hk => (Option.some.inj hk).symm
    refine Outcome.foldlM_cons_eq_ok.2 ⟨some kind, hx fixed hfixed, ?_⟩
    rw [hrest, if_neg (List.cons_ne_nil x xs), ite_self]

theorem addVolume_of_kind {r : Replica} {v : Volume} {kind : ProviderKind} {fixed : Option ProviderKind}
    (hdisk : kind.isDiskless = false) (hv : (s.pool? r.node v.pool).map (·.provider) = some kind)
    (hfixed : ∀ k, fixed = some k → k = kind) :
    addVolume s resource r fixed v = .ok (some kind) := by
  obtain ⟨p, hp, rfl⟩ := Option.map_eq_some_iff.1 hv
  rw [addVolume, hp]
  simp only [hdisk, Bool.false_eq_true, if_false]
  cases fixed with
  | none => rfl
  | some k => simp [fix, hfixed k rfl]

theorem ofResource_of_kind {kind : ProviderKind} (hdisk : kind.isDiskless = false)
    (hdata : ∀ r ∈ s.replicasOf resource, r.diskless = false ∧ r.volumes ≠ [] ∧
      ∀ v ∈ r.volumes, (s.pool? r.node v.pool).map (·.provider) = some kind) :
    ofResource s resource = .ok ⟨(s.replicasOf resource).map (·.node),
      if s.replicasOf resource = [] then none else some kind⟩ := by
  have hreplica : ∀ r ∈ s.replicasOf resource, ∀ fixed, (∀ k, fixed = some k → k = kind) →
      addReplica s resource fixed r = .ok (some kind) := by
    intro r hr fixed hfixed
    obtain ⟨hdiskful, hne, hvolumes⟩ := hdata r hr
    have hall := foldlM_of_kind (f := addVolume s resource r)
      (fun v hv fixed hfixed => addVolume_of_kind hdisk (hvolumes v hv) hfixed) fixed hfixed
    rw [addReplica, hdiskful, if_neg Bool.false_ne_true, hall, if_neg hne]
  rw [ofResource, foldlM_of_kind hreplica none nofun]
  rfl

end ReplicaPlacement.PlacementContext
