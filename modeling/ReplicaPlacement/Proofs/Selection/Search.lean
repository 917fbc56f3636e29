import Mathlib.Tactic.Common
import ReplicaPlacement.Selection.Search

/-!
# The stack search is the recursive one

A cursor stands for what the recursion has still to do: finish the selection on the stack with the
candidates that remain, and without success do the same with the newest candidate left out. A step
changes the cursor but not what it stands for, because undoing a candidate restores the state that
it was added to.
-/

namespace ReplicaPlacement.Selection

variable {σ : Type} {filters : Filters} {count : Nat}

/-! ## Undoing -/

structure State.Shaped (filters : Filters) (st : State) : Prop where
  pins_length : st.pins.length = filters.same.length
  claims_length : st.claims.length = filters.different.length

structure Choice.Shaped (filters : Filters) (x : Choice σ) : Prop where
  same_length : x.values.same.length = filters.same.length
  different_length : x.values.different.length = filters.different.length

theorem State.Shaped.add {st : State} {x : Choice σ} (hst : st.Shaped filters)
    (hx : x.Shaped filters) : (st.add x).Shaped filters := by
  constructor
  · simp [State.add, State.addNode, hst.pins_length, hx.same_length]
  · simp [State.add, State.addNode, hst.claims_length, hx.different_length]

theorem undo_pins {pins values : List (Option String)} (h : pins.length = values.length) :
    List.zipWith (fun changed pin => if changed = true then none else pin)
      (List.zipWith (fun pin value => pin.isNone && value.isSome) pins values)
      (List.zipWith (fun pin value => pin <|> value) pins values) = pins := by
  induction pins generalizing values with
  | nil => rfl
  | cons pin pins ih =>
    cases values with
    | nil => cases h
    | cons value values =>
      simp only [List.zipWith_cons_cons, ih (Nat.succ.inj h)]
      cases pin <;> cases value <;> rfl

theorem undo_claims {claims : List (List String)} {values : List (Option String)}
    (h : claims.length = values.length) :
    List.zipWith (fun changed claimed => if changed = true then claimed.tail else claimed)
      (List.zipWith (fun _ value => value.isSome) claims values)
      (List.zipWith (fun claimed value => value.toList ++ claimed) claims values) = claims := by
  induction claims generalizing values with
  | nil => rfl
  | cons claimed claims ih =>
    cases values with
    | nil => cases h
    | cons value values =>
      simp only [List.zipWith_cons_cons, ih (Nat.succ.inj h)]
      cases value <;> rfl

theorem State.undo_add {st : State} {x : Choice σ} (hst : st.Shaped filters)
    (hx : x.Shaped filters) : (st.add x).undo (st.changes x) x = st := by
  obtain ⟨usedNodes, provider, pins, claims⟩ := st
  have hpins := undo_pins (hst.pins_length.trans hx.same_length.symm)
  have hclaims := undo_claims (hst.claims_length.trans hx.different_length.symm)
  unfold State.undo State.changes State.add State.addNode
  simp only [List.erase_cons_head, State.mk.injEq, hpins, hclaims, true_and, and_true]
  cases provider <;> rfl

/-! ## What a cursor stands for -/

/-- The candidates on the stack were added one after another, and the notes say what each of them
changed. -/
inductive Linked (filters : Filters) : State → List (Frame σ) → Prop
  | base {st : State} (hst : st.Shaped filters) : Linked filters st []
  | push {st : State} {frames : List (Frame σ)} {x : Choice σ} {xs : List (Choice σ)}
    (h : Linked filters st frames) (hx : ∀ y ∈ x :: xs, y.Shaped filters) :
    Linked filters (st.add x) (⟨x, xs, st.changes x⟩ :: frames)

theorem Linked.shaped {st : State} {frames : List (Frame σ)} (h : Linked filters st frames) :
    st.Shaped filters := by
  induction h with
  | base hst => exact hst
  | push _ hx ih => exact ih.add (hx _ List.mem_cons_self)

/-- What the recursion finds from here: with the candidates on the stack, else with the newest of
them left out. -/
def resume (filters : Filters) (count : Nat) :
    State → List (Frame σ) → List (Choice σ) → Option (List (Choice σ))
  | st, [], remaining => firstAdmissible? filters st count remaining
  | st, f :: frames, remaining =>
    match firstAdmissible? filters st (count - (frames.length + 1)) remaining with
    | some more => some ((frames.map (·.choice)).reverse ++ f.choice :: more)
    | none => resume filters count (st.undo f.changes f.choice) frames f.behind

theorem resume_of_some {st : State} {frames : List (Frame σ)} {remaining more : List (Choice σ)}
    (h : firstAdmissible? filters st (count - frames.length) remaining = some more) :
    resume filters count st frames remaining = some ((frames.map (·.choice)).reverse ++ more) := by
  cases frames with
  | nil => simpa [resume] using h
  | cons f frames =>
    unfold resume
    rw [List.length_cons] at h
    simp [h]

theorem resume_congr {st : State} {frames : List (Frame σ)} {xs ys : List (Choice σ)}
    (h : firstAdmissible? filters st (count - frames.length) xs =
      firstAdmissible? filters st (count - frames.length) ys) :
    resume filters count st frames xs = resume filters count st frames ys := by
  cases frames with
  | nil => exact h
  | cons f frames =>
    unfold resume
    rw [List.length_cons] at h
    rw [h]

/-- What stays true of the cursor while the search runs. -/
structure Cursor.Sound (filters : Filters) (count : Nat) (c : Cursor σ) : Prop where
  linked : Linked filters c.state c.frames
  fits : c.frames.length ≤ count
  remaining_shaped : ∀ x ∈ c.remaining, x.Shaped filters

def Cursor.found (filters : Filters) (count : Nat) (c : Cursor σ) : Option (List (Choice σ)) :=
  resume filters count c.state c.frames c.remaining

theorem Cursor.Sound.start {st : State} {cs : List (Choice σ)} (hst : st.Shaped filters)
    (hcs : ∀ x ∈ cs, x.Shaped filters) : (Cursor.start st cs).Sound filters count :=
  ⟨.base hst, Nat.zero_le _, hcs⟩

/-! ## One step -/

inductive Cursor.Moves (filters : Filters) (count : Nat) (c : Cursor σ) : Cursor σ → Prop
  | backtrack {f : Frame σ} {below : List (Frame σ)} (hcount : c.frames.length ≠ count)
    (hremaining : c.remaining = []) (hframes : c.frames = f :: below) :
    Moves filters count c (c.backtrack f below)
  | skip {x : Choice σ} {xs : List (Choice σ)} {reason : Rejection}
    (hcount : c.frames.length ≠ count) (hremaining : c.remaining = x :: xs)
    (hx : c.state.rejection? filters x = some reason) :
    Moves filters count c { c with remaining := xs }
  | choose {x : Choice σ} {xs : List (Choice σ)} (hcount : c.frames.length ≠ count)
    (hremaining : c.remaining = x :: xs) (hx : c.state.rejection? filters x = none) :
    Moves filters count c (c.choose x xs)

variable {c c' : Cursor σ}

theorem Cursor.Sound.backtrack {f : Frame σ} {frames : List (Frame σ)}
    (h : c.Sound filters count) (hf : c.frames = f :: frames) :
    (c.backtrack f frames).Sound filters count := by
  obtain ⟨st, cframes, remaining⟩ := c
  obtain ⟨hlinked, hfits, -⟩ := h
  simp only at hf hlinked hfits
  subst hf
  cases hlinked with
  | push hlinked hx =>
    have hundo := State.undo_add hlinked.shaped (hx _ List.mem_cons_self)
    unfold Cursor.backtrack
    simp only [hundo]
    exact ⟨hlinked, Nat.le_of_succ_le hfits, fun y hy => hx y (List.mem_cons_of_mem _ hy)⟩

theorem Cursor.Sound.choose {x : Choice σ} {xs : List (Choice σ)} (h : c.Sound filters count)
    (hr : c.remaining = x :: xs) (hlt : c.frames.length ≠ count) :
    (c.choose x xs).Sound filters count := by
  have hshaped := h.remaining_shaped
  rw [hr] at hshaped
  refine ⟨.push h.linked hshaped, ?_, fun y hy => hshaped y (List.mem_cons_of_mem _ hy)⟩
  exact Nat.lt_of_le_of_ne h.fits hlt

theorem found_of_rejection {x : Choice σ} {xs : List (Choice σ)} {reason : Rejection}
    (hr : c.remaining = x :: xs) (hlt : c.frames.length < count)
    (hx : c.state.rejection? filters x = some reason) :
    Cursor.found filters count { c with remaining := xs } = c.found filters count := by
  obtain ⟨k, hk⟩ : ∃ k, count - c.frames.length = k + 1 := ⟨_, (Nat.succ_pred (by omega)).symm⟩
  unfold Cursor.found
  rw [hr]
  apply resume_congr
  simp [hk, firstAdmissible?, hx]

theorem found_choose {x : Choice σ} {xs : List (Choice σ)} (h : c.Sound filters count)
    (hr : c.remaining = x :: xs) (hlt : c.frames.length < count)
    (hx : c.state.rejection? filters x = none) :
    (c.choose x xs).found filters count = c.found filters count := by
  have hxs : x.Shaped filters := h.remaining_shaped x (by simp [hr])
  have hundo := State.undo_add h.linked.shaped hxs
  obtain ⟨k, hk⟩ : ∃ k, count - c.frames.length = k + 1 := ⟨_, (Nat.succ_pred (by omega)).symm⟩
  have hk' : count - (c.frames.length + 1) = k := by omega
  unfold Cursor.found Cursor.choose
  rw [hr]
  simp only [resume, hk', hundo]
  cases hfirst : firstAdmissible? filters (c.state.add x) k xs with
  | some more =>
    have htaken : firstAdmissible? filters c.state (count - c.frames.length) (x :: xs) =
        some (x :: more) := by
      simp [hk, firstAdmissible?, hx, hfirst]
    rw [resume_of_some htaken]
  | none =>
    apply resume_congr
    rw [hk, firstAdmissible?, hx, hfirst]

variable [Score σ]

theorem Cursor.exists_step_iff :
    (∃ e, c.step filters count = .next c' e) ↔ c.Moves filters count c' := by
  constructor
  · rintro ⟨e, h⟩
    unfold Cursor.step at h
    split at h
    · cases h
    · rename_i hcount
      split at h
      · rename_i hremaining
        split at h
        · cases h
        · rename_i hframes
          cases h
          exact .backtrack hcount hremaining hframes
      · rename_i hremaining
        split at h
        · rename_i hx
          cases h
          exact .skip hcount hremaining hx
        · rename_i hx
          cases h
          exact .choose hcount hremaining hx
  · intro h
    cases h with
    | backtrack hcount hremaining hframes =>
      apply Exists.intro
      rw [Cursor.step, if_neg hcount]
      simp only [hremaining, hframes]
      rfl
    | skip hcount hremaining hx =>
      apply Exists.intro
      rw [Cursor.step, if_neg hcount]
      simp only [hremaining, hx]
      rfl
    | choose hcount hremaining hx =>
      apply Exists.intro
      rw [Cursor.step, if_neg hcount]
      simp only [hremaining, hx]
      rfl

theorem found_of_finish {r : Option (List (Choice σ))} (h : c.step filters count = .finish r) :
    c.found filters count = r := by
  unfold Cursor.step at h
  split at h
  · rename_i hcount
    cases h
    have hdone : firstAdmissible? filters c.state (count - c.frames.length) c.remaining = some [] := by
      rw [hcount, Nat.sub_self, firstAdmissible?]
    have := resume_of_some hdone
    rwa [List.append_nil] at this
  · rename_i hcount
    split at h
    · rename_i hr
      split at h
      · rename_i hf
        cases h
        rw [hf] at hcount
        unfold Cursor.found
        cases count with
        | zero => exact absurd rfl hcount
        | succ k => rw [hf, hr]; rfl
      · cases h
    · split at h <;> cases h

theorem found_step {e : Event} (h : c.Sound filters count) (hs : c.step filters count = .next c' e) :
    c'.Sound filters count ∧ c'.found filters count = c.found filters count := by
  have hfits : c.frames.length ≠ count → c.frames.length < count := Nat.lt_of_le_of_ne h.fits
  cases Cursor.exists_step_iff.1 ⟨e, hs⟩ with
  | @backtrack f below hcount hremaining hframes =>
    obtain ⟨k, hk⟩ : ∃ k, count - (below.length + 1) = k + 1 := by
      have hlt := hfits hcount
      rw [hframes, List.length_cons] at hlt
      exact ⟨_, (Nat.succ_pred (by omega)).symm⟩
    refine ⟨h.backtrack hframes, ?_⟩
    unfold Cursor.found Cursor.backtrack
    rw [hframes, hremaining]
    simp [resume, hk, firstAdmissible?]
  | skip hcount hremaining hx =>
    have hshaped := h.remaining_shaped
    rw [hremaining] at hshaped
    refine ⟨⟨h.linked, h.fits, fun y hy => hshaped y (List.mem_cons_of_mem _ hy)⟩, ?_⟩
    exact found_of_rejection hremaining (hfits hcount) hx
  | choose hcount hremaining hx =>
    exact ⟨h.choose hremaining hcount, found_choose h hremaining (hfits hcount) hx⟩

/-! ## A whole run -/

theorem run_eq_found {events : List Event} (h : c.Sound filters count) :
    (c.run filters count events).1 = c.found filters count := by
  fun_induction Cursor.run filters count c events with
  | case1 c events r hstep => exact (found_of_finish hstep).symm
  | case2 c events c' e hstep ih =>
    obtain ⟨hsound, hfound⟩ := found_step h hstep
    rw [ih hsound, hfound]

/-- The search on a stack with one state that is changed and changed back finds what the recursion
finds. -/
theorem search_value {st : State} {cs : List (Choice σ)} (hst : st.Shaped filters)
    (hcs : ∀ x ∈ cs, x.Shaped filters) :
    (search filters count st cs).value = firstAdmissible? filters st count cs :=
  run_eq_found (Cursor.Sound.start hst hcs)

end ReplicaPlacement.Selection
