import ReplicaPlacement.Proofs.Selection.Exact
import ReplicaPlacement.Proofs.Selection.First

/-!
# Stopping early loses nothing

Selecting tries each place of the ranking as a start until nothing better can come. With exact
scores the answer is that of trying every place: a place without a selection has none behind it
either, too few candidates leave none, and no selection from further down has a higher total than
the bound.
-/

namespace ReplicaPlacement.Selection

variable {σ : Type} {filters : Filters} {st : State} {k : Nat} {cs chosen : List (Choice σ)}

def foundAt (filters : Filters) (k : Nat) (st : State) (cs : List (Choice σ)) (start : Nat) :
    Option (List (Choice σ)) :=
  firstAdmissible? filters st k (cs.drop start)

/-! ## Where nothing is found any more -/

theorem foundAt_of_none (h : firstAdmissible? filters st k cs = none) (start : Nat) :
    foundAt filters k st cs start = none := by
  rw [foundAt, firstAdmissible?_eq_none_iff]
  rw [firstAdmissible?_eq_none_iff] at h
  rintro chosen ⟨hsub, hcount, hjoins⟩
  exact h chosen ⟨hsub.trans (List.drop_sublist start cs), hcount, hjoins⟩

theorem firstAdmissible?_of_length_lt (h : cs.length < k) :
    firstAdmissible? filters st k cs = none := by
  rw [firstAdmissible?_eq_none_iff]
  rintro chosen ⟨hsub, hcount, -⟩
  have := hsub.length_le
  omega

/-! ## Trying every place -/

section Exhaustive

variable [Score σ]

def better (best : Option (Best σ)) : Option (List (Choice σ)) → Option (Best σ)
  | none => best
  | some chosen => (improve best chosen).value

/-- Takes the best of what is found from each place of the ranking on. -/
def exhaustive (filters : Filters) (k : Nat) (st : State) (best : Option (Best σ)) :
    List (Choice σ) → Option (Best σ)
  | [] => best
  | x :: xs => exhaustive filters k st (better best (firstAdmissible? filters st k (x :: xs))) xs

theorem improve_value (best : Option (Best σ)) (chosen : List (Choice σ)) :
    (improve best chosen).value = if Score.improves (totalOf chosen) (best.map (·.total)) = true then
      some ⟨chosen, totalOf chosen⟩ else best := by
  unfold improve
  by_cases h : Score.improves (totalOf chosen) (best.map (·.total)) = true
  · simp only [if_pos h, Traced.value_bind, Traced.value_pure]
  · simp only [if_neg h, Traced.value_bind, Traced.value_pure]

/-- A step of the driver: what is found counts, and one of three reasons may end the search. -/
theorem branchAndBound_value_cons {best : Option (Best σ)} {x : Choice σ}
    (hst : st.Shaped filters) (hcs : ∀ y ∈ x :: cs, y.Shaped filters) :
    (branchAndBound filters k st best (x :: cs)).value =
      let found := firstAdmissible? filters st k (x :: cs)
      if found = none ∨ cs.length < k ∨
          Score.exhausted (upperBound k cs) ((better best found).map (·.total)) = true then
        better best found
      else (branchAndBound filters k st (better best found) cs).value := by
  rw [branchAndBound, Traced.value_bind, search_value hst hcs]
  cases hfound : firstAdmissible? filters st k (x :: cs) with
  | none => simp [better]
  | some chosen =>
    simp only [Traced.value_bind, better, reduceCtorEq, false_or]
    by_cases hlen : cs.length < k
    · simp [hlen]
    · by_cases hbound : Score.exhausted (upperBound k cs)
          ((improve best chosen).value.map (·.total)) = true
      · simp [hlen, hbound]
      · simp [hlen, hbound]

theorem exists_foundAt_of_value {best : Option (Best σ)} {b : Best σ} (hst : st.Shaped filters)
    (hcs : ∀ x ∈ cs, x.Shaped filters)
    (h : (branchAndBound filters k st best cs).value = some b) :
    best = some b ∨ ∃ start, foundAt filters k st cs start = some b.chosen := by
  induction cs generalizing best with
  | nil => exact Or.inl h
  | cons x xs ih =>
    have hbetter (hb : better best (firstAdmissible? filters st k (x :: xs)) = some b) :
        best = some b ∨ foundAt filters k st (x :: xs) 0 = some b.chosen := by
      cases hfound : firstAdmissible? filters st k (x :: xs) with
      | none =>
        rw [hfound] at hb
        exact Or.inl hb
      | some chosen =>
        rw [hfound, better, improve_value] at hb
        split at hb
        · cases hb
          exact Or.inr hfound
        · exact Or.inl hb
    rw [branchAndBound_value_cons hst hcs] at h
    simp only at h
    split at h
    · exact (hbetter h).imp_right fun hfound => ⟨0, hfound⟩
    · rcases ih (fun y hy => hcs y (List.mem_cons_of_mem _ hy)) h with hb | ⟨start, hfound⟩
      · exact (hbetter hb).imp_right fun hfound => ⟨0, hfound⟩
      · exact Or.inr ⟨start + 1, hfound⟩

end Exhaustive

/-! ## Choices in another form -/

section Map

variable [Score σ] {filters' : Filters} {st' : State} {g : Choice σ → Choice σ}

def Best.map (g : Choice σ → Choice σ) (b : Best σ) : Best σ := { b with chosen := b.chosen.map g }

omit [Score σ] in
theorem total_map (best : Option (Best σ)) :
    (best.map (Best.map g)).map (·.total) = best.map (·.total) := by
  rw [Option.map_map]
  rfl

omit [Score σ] in
theorem candidates_map {h : Candidate σ → Candidate σ} (hg : ∀ x, (g x).candidate = h x.candidate)
    (best : Option (Best σ)) :
    (best.map (Best.map g)).map (fun b => b.chosen.map (·.candidate)) =
      (best.map fun b => b.chosen.map (·.candidate)).map (List.map h) := by
  rw [Option.map_map, Option.map_map]
  refine congrArg (Option.map · best) (funext fun b => ?_)
  simp only [Function.comp_apply, Best.map, List.map_map]
  exact List.map_congr_left fun x _ => hg x

variable (hg : ∀ x, (g x).candidate.score = x.candidate.score)

include hg

theorem totalOf_map (cs : List (Choice σ)) : totalOf (cs.map g) = totalOf cs := by
  rw [totalOf, totalOf, List.map_map]
  exact congrArg Score.sum (List.map_congr_left fun x _ => hg x)

theorem upperBound_map (count : Nat) (cs : List (Choice σ)) :
    upperBound count (cs.map g) = upperBound count cs := by
  rw [upperBound, ← List.map_take, totalOf_map hg, upperBound]

theorem better_map (best : Option (Best σ)) (found : Option (List (Choice σ))) :
    better (best.map (Best.map g)) (found.map (List.map g)) = (better best found).map (Best.map g) := by
  cases found with
  | none => rfl
  | some chosen =>
    rw [Option.map_some, better, better, improve_value, improve_value, totalOf_map hg, total_map]
    split <;> rfl

/-- The driver looks at scores and at what the search finds, and at nothing else. -/
theorem branchAndBound_map (hst : st.Shaped filters) (hst' : st'.Shaped filters')
    (hcs : ∀ x ∈ cs, x.Shaped filters ∧ (g x).Shaped filters')
    (hfound : ∀ ys, ys.Sublist cs → firstAdmissible? filters' st' k (ys.map g) =
      (firstAdmissible? filters st k ys).map (List.map g)) (best : Option (Best σ)) :
    (branchAndBound filters' k st' (best.map (Best.map g)) (cs.map g)).value =
      (branchAndBound filters k st best cs).value.map (Best.map g) := by
  induction cs generalizing best with
  | nil => rfl
  | cons x cs ih =>
    have hmapped : ∀ y ∈ (x :: cs).map g, y.Shaped filters' :=
      List.forall_mem_map.2 fun y hy => (hcs y hy).2
    rw [List.map_cons] at hmapped ⊢
    rw [branchAndBound_value_cons hst' hmapped, branchAndBound_value_cons hst fun y hy => (hcs y hy).1]
    simp only
    rw [← List.map_cons, hfound _ (List.Sublist.refl _), better_map hg, total_map, upperBound_map hg,
      List.length_map, ih (fun y hy => hcs y (List.mem_cons_of_mem _ hy)) fun ys hys =>
        hfound ys (hys.cons x)]
    simp only [Option.map_eq_none_iff]
    split <;> rfl

end Map

/-! ## The driver with exact scores -/

variable [AddCommMonoid σ] [LinearOrder σ] [ToString σ]

/-- Nothing that is found from the list on improves on the best so far. -/
def Hopeless (filters : Filters) (k : Nat) (st : State) (best : Option (Best σ))
    (cs : List (Choice σ)) : Prop :=
  ∀ start chosen, foundAt filters k st cs start = some chosen →
    ∃ b, best = some b ∧ totalOf chosen ≤ b.total

theorem better_of_le {best : Option (Best σ)} {b : Best σ} (hb : best = some b)
    (h : totalOf chosen ≤ b.total) : better best (some chosen) = best := by
  rw [better, improve_value, if_neg]
  rw [improves_iff]
  intro himproves
  have := himproves b.total (by simp [hb])
  exact absurd h (not_le_of_gt this)

theorem better_of_improves {best : Option (Best σ)}
    (h : ∀ b, best = some b → b.total < totalOf chosen) :
    better best (some chosen) = some ⟨chosen, totalOf chosen⟩ := by
  rw [better, improve_value, if_pos]
  rw [improves_iff]
  intro t ht
  obtain ⟨b, hb, rfl⟩ := Option.map_eq_some_iff.1 ht
  exact h b hb

theorem exhaustive_of_hopeless {best : Option (Best σ)} (h : Hopeless filters k st best cs) :
    exhaustive filters k st best cs = best := by
  induction cs with
  | nil => rfl
  | cons x xs ih =>
    have hbetter : better best (firstAdmissible? filters st k (x :: xs)) = best := by
      cases hfound : firstAdmissible? filters st k (x :: xs) with
      | none => rfl
      | some chosen =>
        obtain ⟨b, hb, hle⟩ := h 0 chosen hfound
        exact better_of_le hb hle
    unfold exhaustive
    rw [hbetter]
    exact ih fun start chosen hfound => h (start + 1) chosen hfound

theorem hopeless_of_none {best : Option (Best σ)} (h : firstAdmissible? filters st k cs = none) :
    Hopeless filters k st best cs := by
  intro start chosen hfound
  rw [foundAt_of_none h start] at hfound
  cases hfound

variable [IsOrderedAddMonoid σ]

theorem totalOf_le_upperBound (hcs : cs.Pairwise fun a b => b.candidate.score ≤ a.candidate.score)
    {start : Nat} (h : foundAt filters k st cs start = some chosen) :
    totalOf chosen ≤ upperBound k cs := by
  obtain ⟨hsub, hcount, -⟩ := selectable_of_firstAdmissible? h
  have hscores : (cs.map (·.candidate.score)).Pairwise fun a b => b ≤ a := List.pairwise_map.2 hcs
  have hchosen := (hsub.trans (List.drop_sublist start cs)).map (·.candidate.score)
  have hle := sum_le_sum_take hscores hchosen
  rw [List.length_map, hcount] at hle
  rw [upperBound, totalOf_eq, totalOf_eq, List.map_take]
  exact hle

theorem hopeless_of_exhausted {best : Option (Best σ)}
    (hcs : cs.Pairwise fun a b => b.candidate.score ≤ a.candidate.score)
    (h : Score.exhausted (upperBound k cs) (best.map (·.total)) = true) :
    Hopeless filters k st best cs := by
  intro start chosen hfound
  obtain ⟨t, ht, hbound⟩ := exhausted_iff.1 h
  obtain ⟨b, hb, rfl⟩ := Option.map_eq_some_iff.1 ht
  exact ⟨b, hb, (totalOf_le_upperBound hcs hfound).trans hbound⟩

/-- Stopping early loses nothing. -/
theorem branchAndBound_value {best : Option (Best σ)}
    (hcs : cs.Pairwise fun a b => b.candidate.score ≤ a.candidate.score)
    (hst : st.Shaped filters) (hshaped : ∀ x ∈ cs, x.Shaped filters) :
    (branchAndBound filters k st best cs).value = exhaustive filters k st best cs := by
  induction cs generalizing best with
  | nil => rfl
  | cons x xs ih =>
    have htail := (List.pairwise_cons.1 hcs).2
    rw [branchAndBound_value_cons hst hshaped, exhaustive]
    simp only
    split
    · -- Nothing found, too few candidates left, or a bound that no total exceeds.
      rename_i hstop
      symm
      apply exhaustive_of_hopeless
      rcases hstop with hnone | hlen | hbound
      · exact hopeless_of_none (foundAt_of_none hnone 1)
      · exact hopeless_of_none (firstAdmissible?_of_length_lt hlen)
      · exact hopeless_of_exhausted htail hbound
    · exact ih htail fun y hy => hshaped y (List.mem_cons_of_mem _ hy)

end ReplicaPlacement.Selection
