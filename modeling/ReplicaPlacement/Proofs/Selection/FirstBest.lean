import Mathlib.Algebra.Order.Ring.Rat
import ReplicaPlacement.Proofs.Selection.BranchAndBound

/-!
# The first best place wins

What selecting answers, in terms of what the search finds from each place of the ranking on.
-/

namespace ReplicaPlacement.Selection

variable {σ : Type}

/-! ## The stages of a selection -/

section Stages

variable [Score σ] {s : Snapshot} {c : ConstraintSet} {context : PlacementContext} {log : Bool}
  {candidates : List (Candidate σ)} {r : Option (List (Candidate σ))}

theorem mem_ranking {x : Candidate σ} : x ∈ ranking candidates ↔ x ∈ candidates :=
  (List.mergeSort_perm candidates _).mem_iff

theorem result_select (s : Snapshot) (c : ConstraintSet) (context : PlacementContext) (log : Bool)
    (candidates : List (Candidate σ)) : (select s c context log candidates).result =
    if c.replicaCount.toNat = 0 then .ok (some [])
    else if (ranking candidates).length < c.replicaCount.toNat then .ok none
    else ((ranking candidates).zipIdx.forM fun x => ask s x.1.node).bind fun _ =>
      ((deployed c context).forM (ask s)).map fun _ =>
        (branchAndBound (Filters.ofConstraints c) c.replicaCount.toNat (startState s c context) none
          (rankedChoices s (Filters.ofConstraints c) (ranking candidates))).value.map
            fun b => b.chosen.map (·.candidate) := by
  unfold select
  by_cases hcount : c.replicaCount.toNat = 0
  · simp [hcount]
  · rw [if_neg hcount, if_neg hcount]
    refine (Attempt.result_report_if (Attempt.result_forM_debug _ _) _).trans ?_
    by_cases hlen : (ranking candidates).length < c.replicaCount.toNat
    · rw [if_pos hlen, if_pos hlen]
      rfl
    · rw [if_neg hlen, if_neg hlen]
      simp only [Attempt.result_bind, Attempt.result_ofExcept, choicesOf_eq, initialState_eq]
      cases (ranking candidates).zipIdx.forM fun x => ask s x.1.node with
      | error e => rfl
      | ok => cases (deployed c context).forM (ask s) <;> rfl

theorem select_eq_ok : (select s c context log candidates).result = .ok r ↔
    c.replicaCount.toNat = 0 ∧ r = some [] ∨
      c.replicaCount.toNat ≠ 0 ∧
        if (ranking candidates).length < c.replicaCount.toNat then r = none
        else ∃ choices st,
          choicesOf s (Filters.ofConstraints c) (ranking candidates) = .ok choices ∧
          initialState s c context = .ok st ∧
          r = (branchAndBound (Filters.ofConstraints c) c.replicaCount.toNat st none choices).value.map
            fun b => b.chosen.map (·.candidate) := by
  rw [result_select]
  by_cases hcount : c.replicaCount.toNat = 0
  · simp [hcount, eq_comm (b := r)]
  · by_cases hlen : (ranking candidates).length < c.replicaCount.toNat
    · simp [hcount, hlen, eq_comm (b := r)]
    · simp [hcount, hlen, choicesOf_eq, initialState_eq, Outcome.bind_const_eq_ok,
        Outcome.map_const_eq_ok, and_assoc]

omit [Score σ] in
theorem foundAt_sound {ranked : List (Candidate σ)} {start : Nat} {chosen : List (Choice σ)} {k : Nat}
    (h : foundAt (Filters.ofConstraints c) k (startState s c context)
      (rankedChoices s (Filters.ofConstraints c) ranked) start = some chosen) :
    (chosen.map (·.candidate)).Sublist ranked ∧ chosen.length = k ∧
      InOrder s c context [] (chosen.map (·.candidate)) := by
  obtain ⟨hsub, hcount, hjoins⟩ := selectable_of_firstAdmissible? h
  have hall := hsub.trans (List.drop_sublist start _)
  refine ⟨?_, hcount, ?_⟩
  · have hmap := hall.map (·.candidate)
    rwa [map_candidate_rankedChoices] at hmap
  · rw [← stateAfter_nil (σ := σ)] at hjoins
    exact (joins_stateAfter fun x hx => values_of_mem_rankedChoices (hall.subset hx)).1 hjoins

theorem select_sound {chosen : List (Candidate σ)}
    (h : (select s c context log candidates).result = .ok (some chosen)) :
    chosen.Sublist (ranking candidates) ∧ chosen.length = c.replicaCount.toNat ∧
      InOrder s c context [] chosen := by
  rcases select_eq_ok.1 h with ⟨hcount, hr⟩ | ⟨-, hr⟩
  · cases hr
    exact ⟨List.nil_sublist _, hcount.symm, trivial⟩
  · split at hr
    · cases hr
    · obtain ⟨choices, st, hchoices, hst, hr⟩ := hr
      obtain ⟨-, rfl⟩ := choicesOf_eq_ok.1 hchoices
      obtain ⟨-, rfl⟩ := initialState_eq_ok.1 hst
      obtain ⟨b, hb, rfl⟩ := Option.map_eq_some_iff.1 hr.symm
      have hvalue := exists_foundAt_of_value shaped_startState
        (fun x hx => shaped_of_mem_rankedChoices hx) hb
      obtain ⟨start, hfound⟩ := hvalue.resolve_left nofun
      obtain ⟨hsub, hcount, horder⟩ := foundAt_sound hfound
      exact ⟨hsub, by rw [List.length_map, hcount], horder⟩

/-- Every node that the search asks about is in the snapshot. -/
structure NodesKnown (s : Snapshot) (context : PlacementContext) (candidates : List (Candidate σ)) :
    Prop where
  candidate_nodes : ∀ x ∈ candidates, s.hasNode x.node = true
  deployed_nodes : ∀ n ∈ context.deployedNodes, s.hasNode n = true

theorem NodesKnown.choices {filters : Filters} (h : NodesKnown s context candidates) :
    choicesOf s filters (ranking candidates) = .ok (rankedChoices s filters (ranking candidates)) :=
  choicesOf_eq_ok.2 ⟨fun x hx => h.candidate_nodes x (mem_ranking.1 hx), rfl⟩

omit [Score σ] in
theorem NodesKnown.start (h : NodesKnown s context candidates) :
    initialState s c context = .ok (startState s c context) := by
  refine initialState_eq_ok.2 ⟨fun n hn => ?_, rfl⟩
  unfold deployed at hn
  split at hn
  · cases hn
  · exact h.deployed_nodes n hn

theorem select_result (h : NodesKnown s context candidates) (hcount : 0 < c.replicaCount.toNat) :
    (select s c context log candidates).result =
      .ok ((branchAndBound (Filters.ofConstraints c) c.replicaCount.toNat (startState s c context) none
        (rankedChoices s (Filters.ofConstraints c) (ranking candidates))).value.map
          fun b => b.chosen.map (·.candidate)) := by
  rw [select_eq_ok]
  refine Or.inr ⟨Nat.pos_iff_ne_zero.1 hcount, ?_⟩
  split
  · rename_i hlen
    -- The driver finds nothing in a ranking that is too short.
    cases hchoices : rankedChoices s (Filters.ofConstraints c) (ranking candidates) with
    | nil => rfl
    | cons x xs =>
      have hshort : (x :: xs).length < c.replicaCount.toNat := by
        rw [← hchoices]
        simpa [rankedChoices] using hlen
      have hshaped : ∀ y ∈ x :: xs, y.Shaped (Filters.ofConstraints c) := by
        rw [← hchoices]
        exact fun y hy => shaped_of_mem_rankedChoices hy
      rw [branchAndBound_value_cons shaped_startState hshaped, firstAdmissible?_of_length_lt hshort]
      rfl
  · exact ⟨_, _, h.choices, h.start, rfl⟩

end Stages

/-! ## The first best of all places -/

section Exact

variable [AddCommMonoid σ] [LinearOrder σ] [ToString σ]

structure FirstHighest (found : Nat → Option (List (Choice σ))) (start : Nat)
    (chosen : List (Choice σ)) : Prop where
  found_there : found start = some chosen
  highest : ∀ other others, found other = some others → totalOf others ≤ totalOf chosen
  first : ∀ other < start, ∀ others, found other = some others → totalOf others < totalOf chosen

variable {filters : Filters} {st : State} {k : Nat} {cs chosen : List (Choice σ)}

theorem FirstHighest.cons {x : Choice σ} {start : Nat}
    (h : FirstHighest (foundAt filters k st cs) start chosen)
    (hx : ∀ others, firstAdmissible? filters st k (x :: cs) = some others →
      totalOf others < totalOf chosen) :
    FirstHighest (foundAt filters k st (x :: cs)) (start + 1) chosen := by
  refine ⟨h.found_there, ?_, ?_⟩
  · intro other others hothers
    cases other with
    | zero => exact le_of_lt (hx others hothers)
    | succ other => exact h.highest other others hothers
  · intro other hlt others hothers
    cases other with
    | zero => exact hx others hothers
    | succ other => exact h.first other (Nat.lt_of_succ_lt_succ hlt) others hothers

theorem FirstHighest.head {x : Choice σ} (hfound : firstAdmissible? filters st k (x :: cs) = some chosen)
    (h : Hopeless filters k st (some ⟨chosen, totalOf chosen⟩) cs) :
    FirstHighest (foundAt filters k st (x :: cs)) 0 chosen := by
  refine ⟨hfound, ?_, fun other hlt => absurd hlt (Nat.not_lt_zero other)⟩
  intro other others hothers
  cases other with
  | zero =>
    rw [foundAt, List.drop_zero, hfound] at hothers
    cases hothers
    exact le_refl _
  | succ other =>
    obtain ⟨b, hb, hle⟩ := h other others hothers
    cases hb
    exact hle

theorem Hopeless.cons {best : Option (Best σ)} {x : Choice σ} (h : Hopeless filters k st best cs)
    (hx : ∀ others, firstAdmissible? filters st k (x :: cs) = some others →
      ∃ b, best = some b ∧ totalOf others ≤ b.total) :
    Hopeless filters k st best (x :: cs) := by
  intro other others hothers
  cases other with
  | zero => exact hx others hothers
  | succ other => exact h other others hothers

theorem exhaustive_spec (filters : Filters) (st : State) (cs : List (Choice σ))
    (best : Option (Best σ)) (hk : 0 < k) :
    Hopeless filters k st best cs ∧ exhaustive filters k st best cs = best ∨
      ∃ start chosen, FirstHighest (foundAt filters k st cs) start chosen ∧
        (∀ b, best = some b → b.total < totalOf chosen) ∧
        exhaustive filters k st best cs = some ⟨chosen, totalOf chosen⟩ := by
  induction cs generalizing best with
  | nil =>
    refine Or.inl ⟨fun start chosen hfound => ?_, rfl⟩
    rw [foundAt, List.drop_nil, firstAdmissible?_of_length_lt hk] at hfound
    cases hfound
  | cons x xs ih =>
    unfold exhaustive
    cases hfound : firstAdmissible? filters st k (x :: xs) with
    | none =>
      rcases ih best with ⟨hhopeless, heq⟩ | ⟨start, chosen, hfirst, hbest, heq⟩
      · exact Or.inl ⟨hhopeless.cons (by simp [hfound]), heq⟩
      · exact Or.inr ⟨start + 1, chosen, hfirst.cons (by simp [hfound]), hbest, heq⟩
    | some found =>
      have honly {others : List (Choice σ)}
          (h : firstAdmissible? filters st k (x :: xs) = some others) : others = found := by
        rw [hfound] at h
        exact (Option.some.inj h).symm
      by_cases himproves : ∀ b, best = some b → b.total < totalOf found
      · -- What is found at the head is the best so far, and the rest may still exceed it.
        rw [better_of_improves himproves]
        rcases ih (some ⟨found, totalOf found⟩) with
          ⟨hhopeless, heq⟩ | ⟨start, chosen, hfirst, hbest, heq⟩
        · exact Or.inr ⟨0, found, .head hfound hhopeless, himproves, heq⟩
        · have hlt : totalOf found < totalOf chosen := hbest _ rfl
          refine Or.inr ⟨start + 1, chosen, hfirst.cons fun others h => ?_, ?_, heq⟩
          · rw [honly h]
            exact hlt
          · exact fun b hb => (himproves b hb).trans hlt
      · -- The best so far stays, so a start behind the head exceeds the head too.
        simp only [not_forall, not_lt] at himproves
        obtain ⟨b, hb, hle⟩ := himproves
        rw [better_of_le hb hle]
        rcases ih best with ⟨hhopeless, heq⟩ | ⟨start, chosen, hfirst, hbest, heq⟩
        · refine Or.inl ⟨hhopeless.cons fun others h => ⟨b, hb, ?_⟩, heq⟩
          rw [honly h]
          exact hle
        · refine Or.inr ⟨start + 1, chosen, hfirst.cons fun others h => ?_, hbest, heq⟩
          rw [honly h]
          exact hle.trans_lt (hbest b hb)

end Exact

/-! ## In terms of candidates -/

def total [Score σ] (cs : List (Candidate σ)) : σ := Score.sum (cs.map (·.score))

theorem total_map_candidate [Score σ] (cs : List (Choice σ)) :
    total (cs.map (·.candidate)) = totalOf cs := by
  rw [total, totalOf, List.map_map]
  rfl

theorem total_choiceAt [Score σ] {s : Snapshot} {filters : Filters} {ranked : List (Candidate σ)}
    (places : List (Fin ranked.length)) :
    totalOf (places.map (choiceAt s filters ranked)) = total (places.map ranked.get) := by
  rw [← candidates_choiceAt, total_map_candidate]

def findFrom [Score σ] (s : Snapshot) (c : ConstraintSet) (context : PlacementContext)
    (candidates : List (Candidate σ)) (start : Nat) :
    Except PlacementError (Option (List (Candidate σ))) := do
  let choices ← choicesOf s (Filters.ofConstraints c) (ranking candidates)
  let st ← initialState s c context
  pure ((search (Filters.ofConstraints c) c.replicaCount.toNat st (choices.drop start)).value.map
    fun chosen => chosen.map (·.candidate))

theorem findFrom_eq [Score σ] {s : Snapshot} {c : ConstraintSet} {context : PlacementContext}
    {candidates : List (Candidate σ)} (h : NodesKnown s context candidates) (start : Nat) :
    findFrom s c context candidates start =
      .ok ((foundAt (Filters.ofConstraints c) c.replicaCount.toNat (startState s c context)
        (rankedChoices s (Filters.ofConstraints c) (ranking candidates)) start).map
          fun chosen => chosen.map (·.candidate)) := by
  have hshaped : ∀ x ∈ (rankedChoices s (Filters.ofConstraints c) (ranking candidates)).drop start,
      x.Shaped (Filters.ofConstraints c) := fun x hx =>
    shaped_of_mem_rankedChoices (List.mem_of_mem_drop hx)
  unfold findFrom foundAt
  rw [h.choices, h.start, ← search_value shaped_startState hshaped]
  rfl

variable [AddCommMonoid σ] [LinearOrder σ] [IsOrderedAddMonoid σ] [ToString σ]
  {s : Snapshot} {c : ConstraintSet} {context : PlacementContext} {log : Bool}
  {candidates : List (Candidate σ)}

/-- What is found from this place on has the highest total of all that is found, and what is found
from any place before has a lower one. -/
structure FirstBest (s : Snapshot) (c : ConstraintSet) (context : PlacementContext)
    (candidates : List (Candidate σ)) (start : Nat) (chosen : List (Candidate σ)) : Prop where
  found_there : findFrom s c context candidates start = .ok (some chosen)
  highest : ∀ other others, findFrom s c context candidates other = .ok (some others) →
    total others ≤ total chosen
  first : ∀ other < start, ∀ others, findFrom s c context candidates other = .ok (some others) →
    total others < total chosen

omit [IsOrderedAddMonoid σ] in
theorem rankedChoices_descending :
    (rankedChoices s (Filters.ofConstraints c) (ranking candidates)).Pairwise
      fun a b => b.candidate.score ≤ a.candidate.score := by
  rw [rankedChoices_eq, List.pairwise_map]
  have hranked := descending_ranking candidates
  rw [Descending, List.pairwise_iff_get] at hranked
  exact (List.pairwise_lt_finRange _).imp fun {i j} hij => hranked i j hij

theorem select_exhaustive (h : NodesKnown s context candidates) (hcount : 0 < c.replicaCount.toNat) :
    (select s c context log candidates).result =
      .ok ((exhaustive (Filters.ofConstraints c) c.replicaCount.toNat (startState s c context) none
        (rankedChoices s (Filters.ofConstraints c) (ranking candidates))).map
          fun b => b.chosen.map (·.candidate)) := by
  rw [select_result h hcount, branchAndBound_value rankedChoices_descending shaped_startState
    fun x hx => shaped_of_mem_rankedChoices hx]

theorem select_cases (h : NodesKnown s context candidates) (hcount : 0 < c.replicaCount.toNat) :
    let found := foundAt (Filters.ofConstraints c) c.replicaCount.toNat (startState s c context)
      (rankedChoices s (Filters.ofConstraints c) (ranking candidates))
    (∀ start, found start = none) ∧ (select s c context log candidates).result = .ok none ∨
      ∃ start chosen, FirstHighest found start chosen ∧
        (select s c context log candidates).result = .ok (some (chosen.map (·.candidate))) := by
  rw [select_exhaustive h hcount]
  rcases exhaustive_spec (Filters.ofConstraints c) (startState s c context)
    (rankedChoices s (Filters.ofConstraints c) (ranking candidates)) none hcount with
    ⟨hhopeless, heq⟩ | ⟨start, chosen, hfirst, -, heq⟩
  · refine Or.inl ⟨fun start => Option.eq_none_iff_forall_not_mem.2 fun chosen hfound => ?_, ?_⟩
    · obtain ⟨b, hb, -⟩ := hhopeless start chosen hfound
      cases hb
    · rw [heq]
      rfl
  · refine Or.inr ⟨start, chosen, hfirst, ?_⟩
    rw [heq]
    rfl

/-- The driver answers with what is found from the smallest place that attains the highest total,
and with nothing only if nothing is found from any place. -/
theorem select_firstBest (h : NodesKnown s context candidates) (hcount : 0 < c.replicaCount.toNat) :
    (∀ start, findFrom s c context candidates start = .ok none) ∧
        (select s c context log candidates).result = .ok none ∨
      ∃ start chosen, FirstBest s c context candidates start chosen ∧
        (select s c context log candidates).result = .ok (some chosen) := by
  rcases select_cases (c := c) h hcount with ⟨hnone, hselect⟩ | ⟨start, chosen, hfirst, hselect⟩
  · refine Or.inl ⟨fun start => ?_, hselect⟩
    rw [findFrom_eq h, hnone]
    rfl
  · -- What is found in terms of candidates comes from what is found in terms of choices.
    have hfind {other : Nat} {others : List (Candidate σ)}
        (hothers : findFrom s c context candidates other = .ok (some others)) :
        ∃ found, foundAt (Filters.ofConstraints c) c.replicaCount.toNat (startState s c context)
          (rankedChoices s (Filters.ofConstraints c) (ranking candidates)) other = some found ∧
          total others = totalOf found := by
      rw [findFrom_eq h, Except.ok.injEq, Option.map_eq_some_iff] at hothers
      obtain ⟨found, hfound, rfl⟩ := hothers
      exact ⟨found, hfound, total_map_candidate found⟩
    refine Or.inr ⟨start, chosen.map (·.candidate), ⟨?_, ?_, ?_⟩, hselect⟩
    · rw [findFrom_eq h, hfirst.found_there]
      rfl
    · intro other others hothers
      obtain ⟨found, hfound, htotal⟩ := hfind hothers
      rw [htotal, total_map_candidate]
      exact hfirst.highest other found hfound
    · intro other hlt others hothers
      obtain ⟨found, hfound, htotal⟩ := hfind hothers
      rw [htotal, total_map_candidate]
      exact hfirst.first other hlt found hfound

def pairCandidates {σ : Type} (x y : σ) : List (Candidate σ) :=
  [⟨Snapshot.ssd, Snapshot.alpha, .lvm, x, some 10⟩, ⟨Snapshot.ssd, Snapshot.beta, .lvm, y, some 20⟩]

omit [AddCommMonoid σ] [LinearOrder σ] [IsOrderedAddMonoid σ] [ToString σ] in
theorem nodesKnown_pair (x y : σ) : NodesKnown Snapshot.pair {} (pairCandidates x y) := by
  refine ⟨?_, fun n hn => absurd hn List.not_mem_nil⟩
  simp only [pairCandidates, List.forall_mem_cons, List.not_mem_nil, false_implies, implies_true,
    and_true]
  decide

theorem select_pair_firstBest :
    let candidates : List (Candidate ℚ) := pairCandidates (1 / 2) (3 / 2)
    (∀ start, findFrom Snapshot.pair {} {} candidates start = .ok none) ∧
        (select Snapshot.pair {} {} false candidates).result = .ok none ∨
      ∃ start chosen, FirstBest Snapshot.pair {} {} candidates start chosen ∧
        (select Snapshot.pair {} {} false candidates).result = .ok (some chosen) :=
  select_firstBest (nodesKnown_pair _ _) (by decide)

end ReplicaPlacement.Selection
