import ReplicaPlacement.Proofs.Selection.First

/-!
# Searching from any place

The search on a stack comes to an end wherever in a list of candidates it starts, also behind the end
of the list. Of all places from there on whose candidates may join one after another, it finds the
lexicographically first.
-/

namespace ReplicaPlacement.Selection

variable {σ : Type} {filters : Filters} {st : State} {count : Nat}

/-! ## Coming to an end -/

section Finishing

variable [Score σ]

inductive Cursor.Finishes (filters : Filters) (count : Nat) :
    Cursor σ → Nat → Option (List (Choice σ)) → Prop
  | now {c : Cursor σ} {r : Option (List (Choice σ))} (h : c.step filters count = .finish r) :
    Finishes filters count c 0 r
  | later {c c' : Cursor σ} {e : Event} {n : Nat} {r : Option (List (Choice σ))}
    (h : c.step filters count = .next c' e) (hrest : Finishes filters count c' n r) :
    Finishes filters count c (n + 1) r

omit [Score σ] in
theorem Cursor.weight_pos (c : Cursor σ) : 0 < c.weight :=
  Nat.lt_of_lt_of_le (Nat.pow_pos (by decide)) (Nat.le_add_left _ _)

theorem Cursor.finishes_run (c : Cursor σ) (events : List Event) :
    ∃ n < c.weight, Finishes filters count c n (c.run filters count events).1 := by
  fun_induction Cursor.run filters count c events with
  | case1 c events r hstep => exact ⟨0, c.weight_pos, .now hstep⟩
  | case2 c events c' e hstep ih =>
    obtain ⟨n, hn, hfinishes⟩ := ih
    have hlower : c'.weight < c.weight := weight_step hstep
    exact ⟨n + 1, by omega, .later hstep hfinishes⟩

theorem finishes_search (st : State) (cs : List (Choice σ)) : ∃ n < 3 ^ cs.length,
    Cursor.Finishes filters count (.start st cs) n (search filters count st cs).value := by
  have hweight : (Cursor.start st cs).weight = 3 ^ cs.length := Nat.zero_add _
  rw [← hweight]
  exact (Cursor.start st cs).finishes_run []

end Finishing

/-! ## Places from a start -/

/-- A candidate at its place, with its row of a table of property values. -/
def tabled (candidates : List (Candidate σ)) (table : Fin candidates.length → NodeValues)
    (i : Fin candidates.length) : Choice σ := ⟨i, candidates.get i, table i⟩

def tabledFrom (candidates : List (Candidate σ)) (table : Fin candidates.length → NodeValues)
    (start : Nat) : List (Choice σ) :=
  ((List.finRange candidates.length).drop start).map (tabled candidates table)

variable {candidates : List (Candidate σ)} {table : Fin candidates.length → NodeValues} {start : Nat}

/-- Places, going up from a start, whose candidates may join one after another. -/
structure JoinFrom (filters : Filters) (st : State) (count start : Nat)
    (table : Fin candidates.length → NodeValues) (places : List (Fin candidates.length)) : Prop where
  count_eq : places.length = count
  increasing : places.Pairwise (· < ·)
  from_start : ∀ i ∈ places, start ≤ i.val
  joins : Joins filters st (places.map (tabled candidates table))

theorem JoinFrom.selectable {places : List (Fin candidates.length)}
    (h : JoinFrom filters st count start table places) :
    Selectable filters st count (tabledFrom candidates table start)
      (places.map (tabled candidates table)) :=
  ⟨(sublist_drop_finRange_iff.2 ⟨h.increasing, h.from_start⟩).map _,
    (List.length_map _).trans h.count_eq, h.joins⟩

theorem exists_isLeast_joinFrom {chosen : List (Choice σ)}
    (h : firstAdmissible? filters st count (tabledFrom candidates table start) = some chosen) :
    ∃ first, IsLeast {places | JoinFrom filters st count start table places} first ∧
      chosen = first.map (tabled candidates table) := by
  have hincreasing : ((List.finRange candidates.length).drop start).Pairwise (· < ·) :=
    (List.pairwise_lt_finRange _).sublist (List.drop_sublist _ _)
  obtain ⟨first, hfirst, rfl⟩ := firstAdmissible?_earliest hincreasing h
  have hfound := selectable_of_firstAdmissible? h
  have hcount : first.length = count := (List.length_map _).symm.trans hfound.count_eq
  obtain ⟨hlt, hstart⟩ := sublist_drop_finRange_iff.1 hfirst.sublist
  refine ⟨first, ⟨⟨hcount, hlt, hstart, hfound.joins⟩, ?_⟩, rfl⟩
  rintro other ⟨hlen, hother, hfrom, hjoins⟩
  exact hfirst.least other (sublist_drop_finRange_iff.2 ⟨hother, hfrom⟩) hlen hjoins

theorem firstAdmissible?_tabledFrom_eq_none_iff :
    firstAdmissible? filters st count (tabledFrom candidates table start) = none ↔
      ∀ places, ¬ JoinFrom filters st count start table places := by
  constructor
  · intro h places hplaces
    exact firstAdmissible?_eq_none_iff.1 h _ hplaces.selectable
  · intro h
    cases hfound : firstAdmissible? filters st count (tabledFrom candidates table start) with
    | none => rfl
    | some chosen =>
      obtain ⟨first, hfirst, -⟩ := exists_isLeast_joinFrom hfound
      exact absurd hfirst.1 (h first)

theorem firstAdmissible?_tabledFrom_eq_some_iff {chosen : List (Choice σ)} :
    firstAdmissible? filters st count (tabledFrom candidates table start) = some chosen ↔
      ∃ first, IsLeast {places | JoinFrom filters st count start table places} first ∧
        chosen = first.map (tabled candidates table) := by
  refine ⟨exists_isLeast_joinFrom, ?_⟩
  rintro ⟨first, hfirst, rfl⟩
  cases hfound : firstAdmissible? filters st count (tabledFrom candidates table start) with
  | none => exact absurd hfirst.1 (firstAdmissible?_tabledFrom_eq_none_iff.1 hfound first)
  | some chosen =>
    obtain ⟨first', hfirst', rfl⟩ := exists_isLeast_joinFrom hfound
    rw [hfirst.unique hfirst']

/-- From any start the search comes to an end. It finds what the recursion finds: the first places
whose candidates may join one after another, and nothing only if there are no such places. -/
theorem search_tabledFrom [Score σ] (hst : st.Shaped filters)
    (htable : ∀ i, (tabled candidates table i).Shaped filters) (count start : Nat) :
    (∃ n < 3 ^ (tabledFrom candidates table start).length,
      (Cursor.start st (tabledFrom candidates table start)).Finishes filters count n
        (search filters count st (tabledFrom candidates table start)).value) ∧
    (search filters count st (tabledFrom candidates table start)).value =
      firstAdmissible? filters st count (tabledFrom candidates table start) ∧
    ((search filters count st (tabledFrom candidates table start)).value = none ↔
      ∀ places, ¬ JoinFrom filters st count start table places) ∧
    ∀ chosen, (search filters count st (tabledFrom candidates table start)).value = some chosen ↔
      ∃ first, IsLeast {places | JoinFrom filters st count start table places} first ∧
        chosen = first.map (tabled candidates table) := by
  have hshaped : ∀ x ∈ tabledFrom candidates table start, x.Shaped filters :=
    List.forall_mem_map.2 fun i _ => htable i
  have hsearch : (search filters count st (tabledFrom candidates table start)).value =
      firstAdmissible? filters st count (tabledFrom candidates table start) :=
    search_value hst hshaped
  refine ⟨finishes_search st _, hsearch, ?_, fun chosen => ?_⟩
  · rw [hsearch]
    exact firstAdmissible?_tabledFrom_eq_none_iff
  · rw [hsearch]
    exact firstAdmissible?_tabledFrom_eq_some_iff

/-! ## The best candidate alone in its rack -/

open Snapshot (alpha beta ssd)

def gamma : NodeName := ⟨"gamma", by decide⟩

def threeNodes : List (Candidate Float) :=
  [⟨ssd, alpha, .lvm, 3, none⟩, ⟨ssd, beta, .lvm, 2, none⟩, ⟨ssd, gamma, .lvm, 1, none⟩]

def sameRack : Filters := ⟨[⟨"rack", none⟩], []⟩

def rackTable : Fin 3 → NodeValues
  | 0 => ⟨[some "r1"], []⟩
  | _ => ⟨[some "r2"], []⟩

/-- The first candidate is taken and given up again. -/
theorem search_threeNodes :
    let st : State := .ofFilters sameRack none
    let cs := tabledFrom threeNodes rackTable 0
    (∃ n < 27, (Cursor.start st cs).Finishes sameRack 2 n (search sameRack 2 st cs).value) ∧
      (search sameRack 2 st cs).value.map (List.map (·.rank)) = some [1, 2] := by
  intro st cs
  have hst : st.Shaped sameRack := ⟨rfl, rfl⟩
  have htable : ∀ i, (tabled threeNodes rackTable i).Shaped sameRack := by
    intro i
    constructor <;> revert i <;> decide
  obtain ⟨hfinishes, hsearch, -⟩ := search_tabledFrom hst htable 2 0
  refine ⟨hfinishes, ?_⟩
  rw [hsearch]
  decide +kernel

end ReplicaPlacement.Selection
