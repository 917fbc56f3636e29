import Mathlib.Data.Finset.Basic
import Mathlib.Logic.Relation
import ReplicaPlacement.Proofs.Selection.Places

/-!
# Undoing leaves no trace

Wherever the search stands, its state is the one it started from with the candidates on the stack
added in order. The note of the newest candidate leads back to the state before, and what was fixed
at the start stays fixed however often the search backtracks.
-/

namespace ReplicaPlacement.Selection

variable {σ : Type} {filters : Filters} {st : State} {count : Nat}

/-! ## Adding and undoing -/

def builtOn (st : State) (frames : List (Frame σ)) : State :=
  frames.foldr (fun f st => st.add f.choice) st

theorem shaped_builtOn {frames : List (Frame σ)} (hst : st.Shaped filters)
    (hframes : ∀ f ∈ frames, f.choice.Shaped filters) : (builtOn st frames).Shaped filters := by
  induction frames with
  | nil => exact hst
  | cons f frames ih =>
    obtain ⟨hf, hframes⟩ := List.forall_mem_cons.1 hframes
    exact (ih hframes).add hf

theorem provider_builtOn {frames : List (Frame σ)} :
    (builtOn st frames).provider = none ↔ st.provider = none ∧ frames = [] := by
  cases frames with
  | nil => simp [builtOn]
  | cons f frames => simp [builtOn, State.add]

theorem free_of_rejection {x : Choice σ} (h : st.rejection? filters x = none) :
    x.candidate.node.key ∉ st.usedNodes := by
  intro hused
  rw [State.rejection?, if_pos (List.contains_iff_mem.2 hused)] at h
  cases h

/-! ## What stays fixed -/

/-- What is fixed in one state is fixed in the other: a value of a pin for good, claimed values below
any that came later. -/
structure State.KeptIn (st st' : State) : Prop where
  nodes : st.usedNodes <:+ st'.usedNodes
  kind : ∀ kind, st.provider = some kind → st'.provider = some kind
  pins : ∀ (i : Nat) (v : String), st.pins[i]? = some (some v) → st'.pins[i]? = some (some v)
  claims : ∀ (i : Nat) (taken : List String), st.claims[i]? = some taken →
    ∃ taken', st'.claims[i]? = some taken' ∧ taken <:+ taken'

theorem State.KeptIn.refl (st : State) : st.KeptIn st where
  nodes := List.suffix_rfl
  kind _ h := h
  pins _ _ h := h
  claims _ taken h := ⟨taken, h, List.suffix_rfl⟩

theorem State.KeptIn.trans {st₁ st₂ : State} (h : st.KeptIn st₁) (h' : st₁.KeptIn st₂) :
    st.KeptIn st₂ where
  nodes := h.nodes.trans h'.nodes
  kind kind hkind := h'.kind kind (h.kind kind hkind)
  pins i v hv := h'.pins i v (h.pins i v hv)
  claims i taken htaken := by
    obtain ⟨taken₁, htaken₁, hsuffix₁⟩ := h.claims i taken htaken
    obtain ⟨taken₂, htaken₂, hsuffix₂⟩ := h'.claims i taken₁ htaken₁
    exact ⟨taken₂, htaken₂, hsuffix₁.trans hsuffix₂⟩

theorem State.keptIn_add {x : Choice σ} (hst : st.Shaped filters) (hx : x.Shaped filters) :
    st.KeptIn (st.add x) where
  nodes := List.suffix_cons _ _
  kind kind hkind := by simp [State.add, hkind]
  pins i v hv := by
    have hi : i < x.values.same.length := by
      rw [hx.same_length, ← hst.pins_length]
      exact (List.getElem?_eq_some_iff.1 hv).1
    simp [State.add, State.addNode, List.getElem?_zipWith, hv, List.getElem?_eq_getElem hi]
  claims i taken htaken := by
    have hi : i < x.values.different.length := by
      rw [hx.different_length, ← hst.claims_length]
      exact (List.getElem?_eq_some_iff.1 htaken).1
    refine ⟨x.values.different[i].toList ++ taken, ?_, List.suffix_append _ _⟩
    simp [State.add, State.addNode, List.getElem?_zipWith, htaken, List.getElem?_eq_getElem hi]

theorem keptIn_builtOn {frames : List (Frame σ)} (hst : st.Shaped filters)
    (hframes : ∀ f ∈ frames, f.choice.Shaped filters) : st.KeptIn (builtOn st frames) := by
  induction frames with
  | nil => exact .refl st
  | cons f frames ih =>
    obtain ⟨hf, hframes⟩ := List.forall_mem_cons.1 hframes
    exact (ih hframes).trans (State.keptIn_add (shaped_builtOn hst hframes) hf)

structure Seeded (s : Snapshot) (c : ConstraintSet) (context : PlacementContext) (st : State) :
    Prop where
  nodes : ∀ n ∈ deployed c context, n.key ∈ st.usedNodes
  kind : ∀ kind, context.provider = some kind → st.provider = some kind
  pins : ∀ (i : Nat) (f : PropertyFilter) (v : String), c.replicasOnSame[i]? = some f →
    fixedValue s (deployed c context) f = some v → st.pins[i]? = some (some v)
  claims : ∀ (i : Nat) (f : PropertyFilter), c.replicasOnDifferent[i]? = some f →
    ∃ taken, st.claims[i]? = some taken ∧ ∀ v ∈ claimedValues s (deployed c context) f, v ∈ taken

theorem State.KeptIn.seeded {s : Snapshot} {c : ConstraintSet} {context : PlacementContext}
    (h : (startState s c context).KeptIn st) : Seeded s c context st where
  nodes n hn := h.nodes.subset (by
    simp only [startState, stateOf, List.mem_reverse]
    exact List.mem_map_of_mem hn)
  kind := h.kind
  pins i f v hf hv := h.pins i v (by simp [startState, stateOf, hf, hv])
  claims i f hf := by
    obtain ⟨taken, htaken, hsuffix⟩ := h.claims i _ (by
      rw [startState, stateOf, List.getElem?_map, hf]
      rfl)
    refine ⟨taken, htaken, fun v hv => hsuffix.subset ?_⟩
    simpa [claimedValues, or_comm] using hv

/-! ## The stack -/

variable {candidates : List (Candidate σ)} {table : Fin candidates.length → NodeValues}
  {start next : Nat} {c c' : Cursor σ}

/-- Where the search from a start stands: at the place `next`, with candidates of earlier places on the
stack, the last place on top. Each of them could join those below, and its note says what that
changed. -/
structure Cursor.Logged (filters : Filters) (st : State) (table : Fin candidates.length → NodeValues)
    (start next : Nat) (c : Cursor σ) : Prop where
  start_le : start ≤ next
  remaining_eq : c.remaining = tabledFrom candidates table next
  placed : ∀ f ∈ c.frames, ∃ i : Fin candidates.length, start ≤ i.val ∧ i.val < next ∧
    f.choice = tabled candidates table i ∧ f.behind = tabledFrom candidates table (i + 1)
  increasing : c.frames.Pairwise fun f g => g.choice.rank < f.choice.rank
  state_eq : c.state = builtOn st c.frames
  noted : ∀ f below, f :: below <:+ c.frames →
    (builtOn st below).rejection? filters f.choice = none ∧
      f.changes = (builtOn st below).changes f.choice

theorem Cursor.Logged.initial (filters : Filters) (st : State)
    (table : Fin candidates.length → NodeValues) (start : Nat) :
    (Cursor.start st (tabledFrom candidates table start)).Logged filters st table start start where
  start_le := le_rfl
  remaining_eq := rfl
  placed := nofun
  increasing := .nil
  state_eq := rfl
  noted := by simp [Cursor.start]

theorem tabledFrom_eq_cons {x : Choice σ} {xs : List (Choice σ)}
    (h : tabledFrom candidates table next = x :: xs) : ∃ i : Fin candidates.length,
      i.val = next ∧ x = tabled candidates table i ∧ xs = tabledFrom candidates table (next + 1) := by
  have hlt : next < candidates.length := by
    have hlength := congrArg List.length h
    simp only [tabledFrom, List.length_map, List.length_drop, List.length_finRange,
      List.length_cons] at hlength
    omega
  rw [tabledFrom, List.drop_eq_getElem_cons (by simpa using hlt), List.map_cons] at h
  obtain ⟨rfl, rfl⟩ := List.cons.inj h
  exact ⟨⟨next, hlt⟩, rfl, by simp, rfl⟩

theorem Cursor.Logged.shaped (h : c.Logged filters st table start next)
    (htable : ∀ i, (tabled candidates table i).Shaped filters) :
    ∀ f ∈ c.frames, f.choice.Shaped filters := by
  intro f hf
  obtain ⟨i, -, -, hchoice, -⟩ := h.placed f hf
  rw [hchoice]
  exact htable i

theorem Cursor.Logged.undo_top {f : Frame σ} {below : List (Frame σ)}
    (h : c.Logged filters st table start next) (hst : st.Shaped filters)
    (htable : ∀ i, (tabled candidates table i).Shaped filters) (hframes : c.frames = f :: below) :
    c.state.undo f.changes f.choice = builtOn st below := by
  have hshaped := h.shaped htable
  rw [hframes] at hshaped
  obtain ⟨hf, hbelow⟩ := List.forall_mem_cons.1 hshaped
  have htop : f :: below <:+ c.frames := hframes ▸ List.suffix_rfl
  rw [h.state_eq, hframes, (h.noted f below htop).2]
  exact State.undo_add (shaped_builtOn hst hbelow) hf

theorem Cursor.Logged.backtrack {f : Frame σ} {below : List (Frame σ)}
    (h : c.Logged filters st table start next) (hst : st.Shaped filters)
    (htable : ∀ i, (tabled candidates table i).Shaped filters) (hframes : c.frames = f :: below) :
    ∃ next, (c.backtrack f below).Logged filters st table start next := by
  have hundo := h.undo_top hst htable hframes
  obtain ⟨hstart, hremaining, hplaced, hincreasing, hstate, hnoted⟩ := h
  rw [hframes] at hplaced hincreasing hnoted
  obtain ⟨hbelow, hincreasing⟩ := List.pairwise_cons.1 hincreasing
  obtain ⟨i, hi, -, hchoice, hbehind⟩ := hplaced f List.mem_cons_self
  -- The search goes on behind the candidate that is given up.
  refine ⟨i + 1, by omega, hbehind, fun g hg => ?_, hincreasing, hundo, ?_⟩
  · obtain ⟨j, hj, -, hg', hbehind'⟩ := hplaced g (List.mem_cons_of_mem _ hg)
    have hlower := hbelow g hg
    rw [hchoice, hg'] at hlower
    exact ⟨j, hj, Nat.lt_succ_of_lt hlower, hg', hbehind'⟩
  · exact fun g rest hg => hnoted g rest (hg.trans (List.suffix_cons _ _))

theorem Cursor.Logged.skip {x : Choice σ} {xs : List (Choice σ)}
    (h : c.Logged filters st table start next) (hx : c.remaining = x :: xs) :
    Cursor.Logged filters st table start (next + 1) { c with remaining := xs } := by
  obtain ⟨i, hi, -, hxs⟩ := tabledFrom_eq_cons (h.remaining_eq.symm.trans hx)
  refine ⟨Nat.le_succ_of_le h.start_le, hxs, fun f hf => ?_, h.increasing, h.state_eq, h.noted⟩
  obtain ⟨j, hj, hlt, hf⟩ := h.placed f hf
  exact ⟨j, hj, Nat.lt_succ_of_lt hlt, hf⟩

theorem Cursor.Logged.choose {x : Choice σ} {xs : List (Choice σ)}
    (h : c.Logged filters st table start next) (hremaining : c.remaining = x :: xs)
    (hx : c.state.rejection? filters x = none) :
    (c.choose x xs).Logged filters st table start (next + 1) := by
  obtain ⟨i, hi, hxi, hxs⟩ := tabledFrom_eq_cons (h.remaining_eq.symm.trans hremaining)
  have hstart := h.start_le
  have hstate := h.state_eq
  constructor
  case start_le => omega
  case remaining_eq => exact hxs
  case placed =>
    refine List.forall_mem_cons.2 ⟨⟨i, by omega, by omega, hxi, hi ▸ hxs⟩, fun f hf => ?_⟩
    obtain ⟨j, hj, hlt, hf⟩ := h.placed f hf
    exact ⟨j, hj, Nat.lt_succ_of_lt hlt, hf⟩
  case increasing =>
    refine List.pairwise_cons.2 ⟨fun g hg => ?_, h.increasing⟩
    obtain ⟨j, -, hlt, hg, -⟩ := h.placed g hg
    rw [hg, hxi]
    exact lt_of_lt_of_eq hlt hi.symm
  case state_eq => exact congrArg (·.add x) hstate
  case noted =>
    intro f below hf
    rcases List.suffix_cons_iff.1 hf with hf | hf
    · obtain ⟨rfl, rfl⟩ := List.cons.inj hf
      rw [← hstate]
      exact ⟨hx, rfl⟩
    · exact h.noted f below hf

theorem Cursor.Logged.move (h : c.Logged filters st table start next) (hst : st.Shaped filters)
    (htable : ∀ i, (tabled candidates table i).Shaped filters)
    (hmove : c.Moves filters count c') : ∃ next, c'.Logged filters st table start next := by
  cases hmove with
  | backtrack _ _ hframes => exact h.backtrack hst htable hframes
  | skip _ hremaining _ => exact ⟨next + 1, h.skip hremaining⟩
  | choose _ hremaining hx => exact ⟨next + 1, h.choose hremaining hx⟩

/-! ## Whole runs -/

variable [Score σ]

def Cursor.Reaches (filters : Filters) (count : Nat) : Cursor σ → Cursor σ → Prop :=
  Relation.ReflTransGen fun c c' => ∃ e, c.step filters count = .next c' e

theorem Cursor.Reaches.move {c₀ : Cursor σ} (h : Cursor.Reaches filters count c₀ c)
    (hmove : c.Moves filters count c') : Cursor.Reaches filters count c₀ c' :=
  h.tail (Cursor.exists_step_iff.2 hmove)

theorem Cursor.Reaches.logged (hst : st.Shaped filters)
    (htable : ∀ i, (tabled candidates table i).Shaped filters)
    (h : Cursor.Reaches filters count (.start st (tabledFrom candidates table start)) c) :
    ∃ next, c.Logged filters st table start next := by
  induction h with
  | refl => exact ⟨start, .initial filters st table start⟩
  | tail _ hstep ih =>
    obtain ⟨next, hlogged⟩ := ih
    exact hlogged.move hst htable (Cursor.exists_step_iff.1 hstep)

/-- Whenever the search looks at its cursor, the stack explains the state: the candidates on it stand at
rising places before the cursor, adding them in order leads from the initial state to the present one,
and the newest note leads back to the state before. Nothing fixed at the start is given up. -/
theorem stack_explains_state (hst : st.Shaped filters)
    (htable : ∀ i, (tabled candidates table i).Shaped filters)
    (h : Cursor.Reaches filters count (.start st (tabledFrom candidates table start)) c) :
    (∃ next, c.Logged filters st table start next) ∧
    (c.state.provider = none ↔ st.provider = none ∧ c.frames = []) ∧
    (∀ f below, c.frames = f :: below →
      c.state.undo f.changes f.choice = builtOn st below ∧
        (builtOn st below).usedNodes.toFinset =
          c.state.usedNodes.toFinset.erase f.choice.candidate.node.key) ∧
    st.KeptIn c.state ∧
    ∀ s constraints context, initialState s constraints context = .ok st →
      (c.state.provider = none → context.provider = none ∧ c.frames = []) ∧
        Seeded s constraints context c.state := by
  obtain ⟨next, hlogged⟩ := h.logged hst htable
  have hprovider : c.state.provider = none ↔ st.provider = none ∧ c.frames = [] := by
    rw [hlogged.state_eq]
    exact provider_builtOn
  have hkept : st.KeptIn c.state := by
    rw [hlogged.state_eq]
    exact keptIn_builtOn hst (hlogged.shaped htable)
  refine ⟨⟨next, hlogged⟩, hprovider, fun f below hframes => ?_, hkept, fun s c context hinit => ?_⟩
  · have hfree := free_of_rejection (hlogged.noted f below (hframes ▸ List.suffix_rfl)).1
    refine ⟨hlogged.undo_top hst htable hframes, ?_⟩
    -- The node was free, so that taking it out of the set takes out nothing else.
    have hused : c.state.usedNodes =
        f.choice.candidate.node.key :: (builtOn st below).usedNodes := by
      rw [hlogged.state_eq, hframes]
      rfl
    rw [hused, List.toFinset_cons, Finset.erase_insert (by simpa using hfree)]
  · obtain ⟨-, rfl⟩ := initialState_eq_ok.1 hinit
    exact ⟨hprovider.1, hkept.seeded⟩

/-! ## A choice given up beside an existing replica -/

def epsilon : NodeName := ⟨"epsilon", by decide⟩

def epsilonInZone : Snapshot where
  nodes := [{ name := epsilon, props := [("zone", "z1")] }]

def replicaOnEpsilon : PlacementContext := ⟨[epsilon], some .lvm⟩

def oneRackManyZones : ConstraintSet where
  replicaCount := 2
  replicasOnSame := [⟨"rack", none⟩]
  replicasOnDifferent := [⟨"zone", none⟩]

def zoneTable (i : Fin threeNodes.length) : NodeValues :=
  if i.val = 0 then ⟨[some "r1"], [some "z2"]⟩ else ⟨[some "r2"], [some "z3"]⟩

/-- The first candidate is taken, fits no other one and is given up. With the second one on the stack
its rack and zone are fixed, those of the first are not, and the node of the replica and its zone are
taken as they were. -/
theorem stack_explains_second :
    ∃ c : Cursor Float, Cursor.Reaches (.ofConstraints oneRackManyZones) 2
        (.start (startState epsilonInZone oneRackManyZones replicaOnEpsilon)
          (tabledFrom threeNodes zoneTable 0)) c ∧
      c.state = ⟨["BETA", "EPSILON"], some .lvm, [some "r2"], [["z3", "z1"]]⟩ ∧
      (∃ next, c.Logged (.ofConstraints oneRackManyZones)
        (startState epsilonInZone oneRackManyZones replicaOnEpsilon) zoneTable 0 next) ∧
      (∃ f, c.frames = [f] ∧ f.choice.rank = 1 ∧ c.state.undo f.changes f.choice =
        startState epsilonInZone oneRackManyZones replicaOnEpsilon) ∧
      Seeded epsilonInZone oneRackManyZones replicaOnEpsilon c.state := by
  let filters := Filters.ofConstraints oneRackManyZones
  let st := startState epsilonInZone oneRackManyZones replicaOnEpsilon
  let x : Fin 3 → Choice Float := tabled threeNodes zoneTable
  let initial : Cursor Float := .start st [x 0, x 1, x 2]
  let first := initial.choose (x 0) [x 1, x 2]
  let exhausted : Cursor Float := { first with remaining := [] }
  let again := exhausted.backtrack ⟨x 0, [x 1, x 2], st.changes (x 0)⟩ []
  let second := again.choose (x 1) [x 2]
  have hfirst : initial.Moves filters 2 first := .choose (by decide) rfl (by decide +kernel)
  have hother : ∀ i ≠ 0, first.state.rejection? filters (x i) =
      some (.valueDiffers "rack" (some "r2") "r1") := by decide +kernel
  have hbeta : first.Moves filters 2 { first with remaining := [x 2] } :=
    .skip (by decide) rfl (hother 1 (by decide))
  have hgamma : Cursor.Moves filters 2 { first with remaining := [x 2] } exhausted :=
    .skip (by decide) rfl (hother 2 (by decide))
  have hagain : exhausted.Moves filters 2 again := .backtrack (by decide) rfl rfl
  have hsecond : again.Moves filters 2 second := .choose (by decide) rfl (by decide +kernel)
  have hinitial : Cursor.Reaches filters 2 (.start st (tabledFrom threeNodes zoneTable 0)) initial :=
    .refl
  have hreaches := ((((hinitial.move hfirst).move hbeta).move hgamma).move hagain).move hsecond
  have htable : ∀ i, (tabled threeNodes zoneTable i).Shaped filters := by
    intro i
    constructor <;> revert i <;> decide
  obtain ⟨hlogged, -, hundo, -, hseeded⟩ := stack_explains_state shaped_startState htable hreaches
  have hinit : initialState epsilonInZone oneRackManyZones replicaOnEpsilon = .ok st := by
    decide +kernel
  exact ⟨second, hreaches, by decide +kernel, hlogged, ⟨_, rfl, rfl, (hundo _ _ rfl).1⟩,
    (hseeded _ _ _ hinit).2⟩

end ReplicaPlacement.Selection
