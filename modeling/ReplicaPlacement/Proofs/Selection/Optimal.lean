import ReplicaPlacement.Proofs.Selection.Feasible
import ReplicaPlacement.Proofs.Selection.FirstBest

/-!
# When the selection is the best of all

If every value to be shared is given and at most one property must differ, two candidates exclude
each other or they do not, whatever else is chosen. Excluding each other is then transitive, so
choosing greedily among candidates of one kind is best: whoever chose otherwise can exchange one
candidate for the one that was taken first, and does not lose.
-/

namespace ReplicaPlacement

/-- Every value to be shared is given, and all values to differ are of one property. -/
structure ConstraintSet.Simple (c : ConstraintSet) : Prop where
  same_pinned : ∀ f ∈ c.replicasOnSame, f.pinned.isSome = true
  one_key : ∀ f ∈ c.replicasOnDifferent, ∀ g ∈ c.replicasOnDifferent, f.key = g.key

namespace Selection

variable {σ : Type} {s : Snapshot} {c : ConstraintSet} {context : PlacementContext}

/-! ## Excluding each other -/

theorem Clash.trans {x y z : Candidate σ} (hc : c.Simple) (hxy : Clash s c x y)
    (hyz : Clash s c y z) : Clash s c x z := by
  rcases hxy with hxy | ⟨f, hf, v, hx, hy⟩
  · rcases hyz with hyz | ⟨g, hg, w, hy, hz⟩
    · exact Or.inl (hxy.trans hyz)
    · exact Or.inr ⟨g, hg, w, (propOf?_congr hxy g.key).trans hy, hz⟩
  · rcases hyz with hyz | ⟨g, hg, w, hy', hz⟩
    · exact Or.inr ⟨f, hf, v, hx, (propOf?_congr hyz f.key).symm.trans hy⟩
    · -- Only one property must differ, so the middle one has the same value twice.
      have hkey : f.key = g.key := hc.one_key f hf g hg
      rw [← hkey, hy] at hy'
      cases hy'
      exact Or.inr ⟨f, hf, v, hx, hkey ▸ hz⟩

theorem fixedValue_of_pinned {nodes : List NodeName} {f : PropertyFilter}
    (h : f.pinned.isSome = true) : fixedValue s nodes f = f.pinned := by
  obtain ⟨v, hv⟩ := Option.isSome_iff_exists.1 h
  simp [fixedValue, hv]

theorem MayFollow.append {earlier : List (Candidate σ)} {x y : Candidate σ} (hc : c.Simple)
    (h : MayFollow s c context earlier y) (hxy : ¬ Clash s c x y)
    (hkind : fixedKind context (earlier ++ [x]) = some y.provider) :
    MayFollow s c context (earlier ++ [x]) y := by
  constructor
  case node_free =>
    intro n hn
    rw [takenNodes_append, List.mem_append, List.mem_singleton] at hn
    rcases hn with hn | rfl
    · exact h.node_free n hn
    · exact fun hnode => hxy (Or.inl hnode)
  case kind_fits =>
    intro kind hk
    rw [hkind] at hk
    cases hk
    rfl
  case same_fits =>
    intro f hf v hv
    have hpinned := hc.same_pinned f hf
    rw [fixedValue_of_pinned hpinned] at hv
    exact h.same_fits f hf v ((fixedValue_of_pinned hpinned).trans hv)
  case different_fits =>
    intro f hf v hv hclaimed
    rw [takenNodes_append, claimedValues, List.filterMap_append, ← List.append_assoc,
      List.mem_append] at hclaimed
    rcases hclaimed with hclaimed | hclaimed
    · exact h.different_fits f hf v hv hclaimed
    · obtain ⟨n, hn, hnv⟩ := List.mem_filterMap.1 hclaimed
      obtain rfl : n = x.node := List.mem_singleton.1 hn
      exact hxy (Or.inr ⟨f, hf, v, hnv, hv⟩)

/-! ## The exchange -/

/-- Of candidates that do not clash, one can be given up so that none clashes with a new one. -/
theorem exists_exchange {x : Candidate σ} {others : List (Candidate σ)} (hc : c.Simple)
    (hne : others ≠ []) (hapart : others.Pairwise fun y z => ¬ Clash s c y z) :
    ∃ y rest, others.Perm (y :: rest) ∧ ∀ z ∈ rest, ¬ Clash s c x z := by
  by_cases hclash : ∃ y ∈ others, Clash s c x y
  · obtain ⟨y, hy, hxy⟩ := hclash
    obtain ⟨before, behind, rfl⟩ := List.append_of_mem hy
    have hperm : (before ++ y :: behind).Perm (y :: (before ++ behind)) := List.perm_middle
    refine ⟨y, before ++ behind, hperm, fun z hz hxz => ?_⟩
    have hpairs := (hperm.pairwise_iff fun hn hclash => hn hclash.symm).1 hapart
    exact (List.pairwise_cons.1 hpairs).1 z hz (hxy.symm.trans hc hxz)
  · cases others with
    | nil => exact absurd rfl hne
    | cons y rest =>
      refine ⟨y, rest, .refl _, fun z hz hxz => hclash ⟨z, List.mem_cons_of_mem _ hz, hxz⟩⟩

/-- Candidates of one kind that could be chosen instead from what remains. -/
structure Rival (s : Snapshot) (c : ConstraintSet) (context : PlacementContext)
    (earlier : List (Candidate σ)) (kind : ProviderKind) (cs : List (Choice σ)) (k : Nat)
    (others : List (Candidate σ)) : Prop where
  among : ∀ y ∈ others, y ∈ cs.map (·.candidate)
  count_eq : others.length = k
  apart : others.Pairwise fun y z => ¬ Clash s c y z
  may_follow : ∀ y ∈ others, MayFollow s c context earlier y
  of_kind : ∀ y ∈ others, y.provider = kind

variable {earlier others : List (Candidate σ)} {kind : ProviderKind} {cs : List (Choice σ)} {k : Nat}

theorem Rival.skip {x : Choice σ} (h : Rival s c context earlier kind (x :: cs) k others)
    (hx : MayFollow s c context earlier x.candidate → x.candidate.provider ≠ kind) :
    Rival s c context earlier kind cs k others := by
  refine { h with among := fun y hy => ?_ }
  rcases List.mem_cons.1 (h.among y hy) with rfl | hmem
  · exact absurd (h.of_kind _ hy) (hx (h.may_follow _ hy))
  · exact hmem

theorem Feasible.rival {candidates chosen : List (Candidate σ)} (hc : c.Simple)
    (h : Feasible s c context candidates chosen) {x : Candidate σ} (hx : x ∈ chosen)
    (hcs : ∀ y ∈ candidates, y ∈ cs.map (·.candidate)) :
    Rival s c context [] x.provider cs c.replicaCount.toNat chosen := by
  refine ⟨fun y hy => hcs y (h.among y hy), h.count_eq, ?_, ?_, fun y hy => h.one_kind y hy x hx⟩
  · rw [List.pairwise_iff_get]
    rintro i j hij (hnode | ⟨f, hf, v, hv, hv'⟩)
    · exact List.pairwise_iff_get.1 h.nodes_distinct i j hij hnode
    · exact List.pairwise_iff_get.1 (h.values_distinct f hf) i j hij v hv hv'
  · intro y hy
    have htaken : takenNodes c context ([] : List (Candidate σ)) = deployed c context := by
      simp [takenNodes]
    constructor
    case node_free =>
      rw [htaken]
      exact h.nodes_free y hy
    case kind_fits =>
      intro kind hkind
      exact h.kind_fits y hy kind (by simpa [fixedKind] using hkind)
    case same_fits =>
      intro f hf v hv
      rw [fixedValue_of_pinned (hc.same_pinned f hf)] at hv
      exact h.same_value y hy f hf v hv
    case different_fits =>
      intro f hf v hv hclaimed
      rw [htaken, claimedValues, List.mem_append, List.mem_filterMap] at hclaimed
      rcases hclaimed with hpinned | ⟨n, hn, hnv⟩
      · exact h.values_unpinned y hy f hf v hv (Option.mem_toList.1 hpinned)
      · exact h.values_free y hy f hf n hn v hv hnv

variable [LinearOrder σ]

theorem Rival.exchange {x : Choice σ} (hc : c.Simple)
    (h : Rival s c context earlier kind (x :: cs) (k + 1) others)
    (hkind : fixedKind context (earlier ++ [x.candidate]) = some kind)
    (hdesc : ∀ y ∈ cs, y.candidate.score ≤ x.candidate.score) :
    ∃ y rest, others.Perm (y :: rest) ∧ y.score ≤ x.candidate.score ∧
      Rival s c context (earlier ++ [x.candidate]) kind cs k rest := by
  have hne : others ≠ [] := by
    rintro rfl
    exact absurd h.count_eq (Nat.succ_ne_zero k).symm
  obtain ⟨y, rest, hperm, hfree⟩ := exists_exchange (x := x.candidate) hc hne h.apart
  have hmem : ∀ z ∈ y :: rest, z ∈ others := fun z hz => hperm.mem_iff.2 hz
  have hrest : ∀ z ∈ rest, z ∈ others := fun z hz => hmem z (List.mem_cons_of_mem _ hz)
  refine ⟨y, rest, hperm, ?_, ?_⟩
  · have hy := h.among y (hmem y List.mem_cons_self)
    rw [List.map_cons, List.mem_cons] at hy
    rcases hy with rfl | hy
    · exact le_refl _
    · obtain ⟨z, hz, rfl⟩ := List.mem_map.1 hy
      exact hdesc z hz
  · have hlength := hperm.length_eq
    rw [h.count_eq, List.length_cons] at hlength
    have hpairs := (hperm.pairwise_iff fun hn hclash => hn hclash.symm).1 h.apart
    refine ⟨fun z hz => ?_, (Nat.succ.inj hlength).symm, (List.pairwise_cons.1 hpairs).2,
      fun z hz => ?_, fun z hz => h.of_kind z (hrest z hz)⟩
    · have hz' := h.among z (hrest z hz)
      rw [List.map_cons, List.mem_cons] at hz'
      rcases hz' with rfl | hz'
      · exact absurd (Clash.refl _) (hfree _ hz)
      · exact hz'
    · refine (h.may_follow z (hrest z hz)).append hc (hfree z hz) ?_
      rw [hkind, h.of_kind z (hrest z hz)]

/-! ## Choosing greedily -/

variable [AddCommMonoid σ] [ToString σ]

theorem total_eq (chosen : List (Candidate σ)) : total chosen = (chosen.map (·.score)).sum := sum_eq _

theorem total_perm_cons {y : Candidate σ} {rest : List (Candidate σ)}
    (h : others.Perm (y :: rest)) : total others = y.score + total rest := by
  rw [total_eq, total_eq, (h.map _).sum_eq, List.map_cons, List.sum_cons]

variable [IsOrderedAddMonoid σ]

theorem exists_found_of_rival (hc : c.Simple)
    (hdesc : cs.Pairwise fun a b => b.candidate.score ≤ a.candidate.score)
    (hv : ∀ x ∈ cs, x.values = valuesOf s (Filters.ofConstraints c) x.candidate.node)
    (hkind : fixedKind context earlier = some kind)
    (h : Rival s c context earlier kind cs k others) :
    ∃ chosen, firstAdmissible? (Filters.ofConstraints c) (stateAfter s c context earlier) k cs =
      some chosen ∧ total others ≤ totalOf chosen := by
  -- What is skipped is not in the rival, and what is taken is exchanged, so a rival remains.
  induction cs generalizing earlier k others with
  | nil =>
    obtain rfl : others = [] := List.eq_nil_iff_forall_not_mem.2 fun y hy => by
      simpa using h.among y hy
    obtain rfl : k = 0 := h.count_eq.symm
    exact ⟨[], by rw [firstAdmissible?], le_refl _⟩
  | cons x xs ih =>
    obtain ⟨hx, hxs⟩ := List.pairwise_cons.1 hdesc
    obtain ⟨hvx, hvxs⟩ := List.forall_mem_cons.1 hv
    cases k with
    | zero =>
      obtain rfl : others = [] := List.eq_nil_of_length_eq_zero h.count_eq
      exact ⟨[], by rw [firstAdmissible?], le_refl _⟩
    | succ k =>
      by_cases hfollow : MayFollow s c context earlier x.candidate
      · have hkind' : fixedKind context (earlier ++ [x.candidate]) = some kind := by
          rw [fixedKind_append, hkind]
          rfl
        obtain ⟨y, rest, hperm, hle, hrival⟩ := h.exchange hc hkind' hx
        obtain ⟨chosen, hchosen, htotal⟩ := ih hxs hvxs hkind' hrival
        refine ⟨x :: chosen, ?_, ?_⟩
        · rw [firstAdmissible?, (rejection?_stateAfter hvx).2 hfollow, add_stateAfter hvx, hchosen]
        · rw [total_perm_cons hperm, totalOf_cons]
          exact add_le_add hle htotal
      · obtain ⟨chosen, hchosen, htotal⟩ := ih hxs hvxs hkind (h.skip fun hf => absurd hf hfollow)
        refine ⟨chosen, ?_, htotal⟩
        cases hreject : State.rejection? (Filters.ofConstraints c) (stateAfter s c context earlier) x with
        | none => exact absurd ((rejection?_stateAfter hvx).1 hreject) hfollow
        | some reason => rw [firstAdmissible?, hreject, hchosen]

theorem exists_start_of_rival (hc : c.Simple)
    (hdesc : cs.Pairwise fun a b => b.candidate.score ≤ a.candidate.score)
    (hv : ∀ x ∈ cs, x.values = valuesOf s (Filters.ofConstraints c) x.candidate.node)
    (h : Rival s c context [] kind cs (k + 1) others) :
    ∃ start chosen, foundAt (Filters.ofConstraints c) (k + 1) (startState s c context) cs start =
      some chosen ∧ total others ≤ totalOf chosen := by
  induction cs with
  | nil =>
    obtain rfl : others = [] := List.eq_nil_iff_forall_not_mem.2 fun y hy => by
      simpa using h.among y hy
    cases h.count_eq
  | cons x xs ih =>
    obtain ⟨hx, hxs⟩ := List.pairwise_cons.1 hdesc
    obtain ⟨hvx, hvxs⟩ := List.forall_mem_cons.1 hv
    by_cases hfirst : MayFollow s c context [] x.candidate ∧ x.candidate.provider = kind
    · -- The first that may be chosen and is of this kind fixes the kind.
      obtain ⟨hfollow, rfl⟩ := hfirst
      have hkind : fixedKind context ([] ++ [x.candidate]) = some x.candidate.provider := by
        rw [fixedKind_append]
        cases hlocked : fixedKind context ([] : List (Candidate σ)) with
        | none => rfl
        | some kind =>
          rw [hfollow.kind_fits kind hlocked]
          rfl
      obtain ⟨y, rest, hperm, hle, hrival⟩ := h.exchange hc hkind hx
      obtain ⟨chosen, hchosen, htotal⟩ := exists_found_of_rival hc hxs hvxs hkind hrival
      refine ⟨0, x :: chosen, ?_, ?_⟩
      · rw [foundAt, List.drop_zero, ← stateAfter_nil (σ := σ), firstAdmissible?,
          (rejection?_stateAfter hvx).2 hfollow, add_stateAfter hvx, hchosen]
      · rw [total_perm_cons hperm, totalOf_cons]
        exact add_le_add hle htotal
    · -- The head is not in the rival, which is among the rest then.
      obtain ⟨start, chosen, hchosen, htotal⟩ :=
        ih hxs hvxs (h.skip fun hf hk => hfirst ⟨hf, hk⟩)
      exact ⟨start + 1, chosen, hchosen, htotal⟩

/-! ## Selecting -/

theorem exists_start_of_feasible {candidates chosen : List (Candidate σ)} (hc : c.Simple)
    (hcount : 0 < c.replicaCount.toNat) (h : Feasible s c context candidates chosen) :
    ∃ start found, foundAt (Filters.ofConstraints c) c.replicaCount.toNat (startState s c context)
      (rankedChoices s (Filters.ofConstraints c) (ranking candidates)) start = some found ∧
        total chosen ≤ totalOf found := by
  obtain ⟨k, hk⟩ : ∃ k, c.replicaCount.toNat = k + 1 := Nat.exists_eq_add_one.2 hcount
  obtain ⟨x, hx⟩ : ∃ x, x ∈ chosen := by
    apply List.exists_mem_of_length_pos
    rw [h.count_eq]
    exact hcount
  have hcandidates : ∀ y ∈ candidates,
      y ∈ (rankedChoices s (Filters.ofConstraints c) (ranking candidates)).map (·.candidate) := by
    intro y hy
    rw [map_candidate_rankedChoices]
    exact mem_ranking.2 hy
  have hrival := h.rival hc hx hcandidates
  rw [hk] at hrival ⊢
  exact exists_start_of_rival hc rankedChoices_descending
    (fun y hy => values_of_mem_rankedChoices hy) hrival

/-- Under simple constraints the selection is feasible and has the highest total of all that are.
Nothing is selected only if nothing is feasible. -/
theorem select_optimal {log : Bool} {candidates : List (Candidate σ)}
    (hknown : NodesKnown s context candidates) (hc : c.Simple) :
    (∃ chosen, (select s c context log candidates).result = .ok (some chosen) ∧
        Feasible s c context candidates chosen ∧
        ∀ other, Feasible s c context candidates other → total other ≤ total chosen) ∨
      (select s c context log candidates).result = .ok none ∧
        ∀ other, ¬ Feasible s c context candidates other := by
  have hsound {chosen : List (Candidate σ)}
      (h : (select s c context log candidates).result = .ok (some chosen)) :
      Feasible s c context candidates chosen := by
    obtain ⟨hsub, hlength, horder⟩ := select_sound h
    exact feasible_of_inOrder (fun x hx => mem_ranking.1 (hsub.subset hx)) hlength horder
  rcases Nat.eq_zero_or_pos c.replicaCount.toNat with hzero | hcount
  · -- Without replicas the empty selection is the only feasible one.
    have hselect : (select s c context log candidates).result = .ok (some []) :=
      select_eq_ok.2 (Or.inl ⟨hzero, rfl⟩)
    refine Or.inl ⟨[], hselect, hsound hselect, fun other hother => ?_⟩
    obtain rfl : other = [] := List.eq_nil_of_length_eq_zero (hother.count_eq.trans hzero)
    exact le_refl _
  · rcases select_cases (c := c) hknown hcount with
      ⟨hnone, hselect⟩ | ⟨start, chosen, hfirst, hselect⟩
    · refine Or.inr ⟨hselect, fun other hother => ?_⟩
      obtain ⟨start, found, hfound, -⟩ := exists_start_of_feasible hc hcount hother
      rw [hnone] at hfound
      cases hfound
    · refine Or.inl ⟨_, hselect, hsound hselect, fun other hother => ?_⟩
      obtain ⟨start', found, hfound, hle⟩ := exists_start_of_feasible hc hcount hother
      rw [total_map_candidate]
      exact hle.trans (hfirst.highest start' found hfound)

def zoneAndRacks : ConstraintSet where
  replicasOnSame := [⟨"zone", some "a"⟩]
  replicasOnDifferent := [⟨"rack", none⟩, ⟨"rack", some "r9"⟩]

def inHall {σ : Type} (node : NodeName) (score : σ) : Candidate σ :=
  ⟨Snapshot.ssd, node, .lvm, score, none⟩

open Snapshot (hall alpha beta kilo lima mike)

/-- The best of these is in another zone, and the next two share a rack. -/
def hallCandidates : List (Candidate ℚ) :=
  [inHall mike (7 / 2), inHall beta (5 / 2), inHall kilo 2, inHall alpha (3 / 2), inHall lima 1]

theorem nodesKnown_hallCandidates : NodesKnown hall {} hallCandidates := ⟨by decide, nofun⟩

theorem select_hall : (select hall zoneAndRacks {} false hallCandidates).result =
    .ok (some [inHall beta (5 / 2), inHall alpha (3 / 2)]) := by
  have hdesc : Descending hallCandidates := by
    unfold Descending hallCandidates inHall
    decide +kernel
  rw [select_exhaustive nodesKnown_hallCandidates (by decide), ranking_eq_self hdesc]
  exact congrArg Except.ok (by decide +kernel)

theorem select_hall_optimal :
    ∃ chosen, (select hall zoneAndRacks {} false hallCandidates).result = .ok (some chosen) ∧
      Feasible hall zoneAndRacks {} hallCandidates chosen ∧
      ∀ other, Feasible hall zoneAndRacks {} hallCandidates other → total other ≤ total chosen := by
  refine (select_optimal nodesKnown_hallCandidates ⟨by decide, by decide⟩).resolve_right ?_
  rintro ⟨hnone, -⟩
  rw [select_hall] at hnone
  cases hnone

end Selection

end ReplicaPlacement
