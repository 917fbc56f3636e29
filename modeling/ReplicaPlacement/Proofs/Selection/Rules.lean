import ReplicaPlacement.Proofs.Outcome
import ReplicaPlacement.Proofs.Cluster.WellFormed
import ReplicaPlacement.Selection.Select

/-!
# The rules of a selection

`MayFollow` says which candidate may come after some others, in terms of the snapshot, the
constraints and the existing replicas. `stateAfter` spells out what the search has fixed at that
point. Searching keeps to it: taking a candidate in leads from one such state to the next, and the
search rejects a candidate exactly if the rules do.
-/

namespace ReplicaPlacement

def Snapshot.propOf? (s : Snapshot) (node : NodeName) (key : String) : Option String :=
  (s.node? node).bind fun n => n.prop? key

namespace Selection

variable {σ : Type} (s : Snapshot) (c : ConstraintSet) (context : PlacementContext)

/-! ## What candidates must satisfy -/

def deployed : List NodeName := if c.skipAlreadyPlaced then [] else context.deployedNodes

def takenNodes (earlier : List (Candidate σ)) : List NodeName :=
  deployed c context ++ earlier.map (·.node)

def fixedKind (earlier : List (Candidate σ)) : Option ProviderKind :=
  context.provider <|> earlier.head?.map (·.provider)

/-- The value that all must share: the pinned one, else that of the first node with the property. -/
def fixedValue (nodes : List NodeName) (f : PropertyFilter) : Option String :=
  f.pinned <|> nodes.findSome? fun n => s.propOf? n f.key

/-- The values that no other node may have: the pinned one and those of the nodes. -/
def claimedValues (nodes : List NodeName) (f : PropertyFilter) : List String :=
  f.pinned.toList ++ nodes.filterMap fun n => s.propOf? n f.key

/-- The candidate may be chosen after the others. A missing value differs from every fixed one, and
is never claimed. -/
structure MayFollow (earlier : List (Candidate σ)) (x : Candidate σ) : Prop where
  node_free : ∀ n ∈ takenNodes c context earlier, n.key ≠ x.node.key
  kind_fits : ∀ kind, fixedKind context earlier = some kind → x.provider = kind
  same_fits : ∀ f ∈ c.replicasOnSame, ∀ v,
    fixedValue s (takenNodes c context earlier) f = some v → s.propOf? x.node f.key = some v
  different_fits : ∀ f ∈ c.replicasOnDifferent, ∀ v,
    s.propOf? x.node f.key = some v → v ∉ claimedValues s (takenNodes c context earlier) f

def InOrder (earlier : List (Candidate σ)) : List (Candidate σ) → Prop
  | [] => True
  | x :: xs => MayFollow s c context earlier x ∧ InOrder (earlier ++ [x]) xs

/-- Places of a ranking, going down, whose candidates may be chosen in this order. -/
structure OrderAdmissible (ranked : List (Candidate σ)) (places : List (Fin ranked.length)) :
    Prop where
  count_eq : places.length = c.replicaCount.toNat
  increasing : places.Pairwise (· < ·)
  in_order : InOrder s c context [] (places.map ranked.get)

/-! ## What the search has fixed -/

def valuesOf (filters : Filters) (node : NodeName) : NodeValues :=
  ⟨filters.same.map fun f => s.propOf? node f.key,
    filters.different.map fun f => s.propOf? node f.key⟩

def stateOf (nodes : List NodeName) (kind : Option ProviderKind) : State where
  usedNodes := (nodes.map Name.key).reverse
  provider := kind
  pins := c.replicasOnSame.map (fixedValue s nodes)
  claims := c.replicasOnDifferent.map fun f =>
    (nodes.filterMap fun n => s.propOf? n f.key).reverse ++ f.pinned.toList

def startState : State := stateOf s c (deployed c context) context.provider

def stateAfter (earlier : List (Candidate σ)) : State :=
  stateOf s c (takenNodes c context earlier) (fixedKind context earlier)

variable {s} in
theorem fixedValue_append (nodes : List NodeName) (node : NodeName) (f : PropertyFilter) :
    fixedValue s (nodes ++ [node]) f = (fixedValue s nodes f <|> s.propOf? node f.key) := by
  unfold fixedValue
  rw [List.findSome?_append]
  cases f.pinned <;> cases nodes.findSome? (fun n => s.propOf? n f.key) <;> simp

theorem addNode_stateOf (nodes : List NodeName) (kind : Option ProviderKind) (node : NodeName) :
    (stateOf s c nodes kind).addNode node (valuesOf s (Filters.ofConstraints c) node) =
      stateOf s c (nodes ++ [node]) kind := by
  unfold State.addNode stateOf valuesOf Filters.ofConstraints
  simp only [State.mk.injEq, List.zipWith_map, List.zipWith_self]
  refine ⟨by simp, trivial, ?_, ?_⟩
  · apply List.map_congr_left
    intro f _
    exact (fixedValue_append nodes node f).symm
  · apply List.map_congr_left
    intro f _
    rw [List.filterMap_append, List.reverse_append, List.append_assoc]
    cases h : s.propOf? node f.key <;> simp [h]

variable {s c context}

theorem stateAfter_nil : stateAfter s c context ([] : List (Candidate σ)) = startState s c context := by
  simp [stateAfter, startState, takenNodes, fixedKind]

/-! ## What holds of candidates in an admissible order -/

theorem InOrder.forall_mem {earlier xs : List (Candidate σ)} {P : Candidate σ → Prop}
    (hP : ∀ earlier x, MayFollow s c context earlier x → P x) (h : InOrder s c context earlier xs) :
    ∀ x ∈ xs, P x := by
  induction xs generalizing earlier with
  | nil => exact fun x hx => absurd hx List.not_mem_nil
  | cons x xs ih => exact List.forall_mem_cons.2 ⟨hP earlier x h.1, ih h.2⟩

theorem InOrder.pairwise {earlier xs : List (Candidate σ)} {R : Candidate σ → Candidate σ → Prop}
    (hR : ∀ earlier x, MayFollow s c context earlier x → ∀ y ∈ earlier, R y x)
    (h : InOrder s c context earlier xs) : xs.Pairwise R ∧ ∀ y ∈ earlier, ∀ x ∈ xs, R y x := by
  induction xs generalizing earlier with
  | nil => exact ⟨.nil, fun y _ x hx => absurd hx List.not_mem_nil⟩
  | cons x xs ih =>
    obtain ⟨hpairs, hearlier⟩ := ih h.2
    refine ⟨List.pairwise_cons.2 ⟨hearlier x (by simp), hpairs⟩, fun y hy => ?_⟩
    refine List.forall_mem_cons.2 ⟨hR earlier x h.1 y hy, hearlier y (by simp [hy])⟩

theorem takenNodes_append (earlier : List (Candidate σ)) (x : Candidate σ) :
    takenNodes c context (earlier ++ [x]) = takenNodes c context earlier ++ [x.node] := by
  simp [takenNodes]

theorem fixedKind_append (earlier : List (Candidate σ)) (x : Candidate σ) :
    fixedKind context (earlier ++ [x]) = (fixedKind context earlier <|> some x.provider) := by
  cases earlier <;> cases h : context.provider <;> simp [fixedKind, h]

theorem InOrder.provider_eq {earlier xs : List (Candidate σ)} {kind : ProviderKind}
    (hkind : fixedKind context earlier = some kind) (h : InOrder s c context earlier xs) :
    ∀ x ∈ xs, x.provider = kind := by
  induction xs generalizing earlier with
  | nil => exact fun x hx => absurd hx List.not_mem_nil
  | cons x xs ih =>
    refine List.forall_mem_cons.2 ⟨h.1.kind_fits kind hkind, ih ?_ h.2⟩
    rw [fixedKind_append, hkind]
    rfl

theorem InOrder.one_kind {xs : List (Candidate σ)} (h : InOrder s c context [] xs) :
    ∀ x ∈ xs, ∀ y ∈ xs, x.provider = y.provider := by
  cases xs with
  | nil => exact fun x hx => absurd hx List.not_mem_nil
  | cons z zs =>
    have hz : ∀ x ∈ z :: zs, x.provider = z.provider := by
      refine List.forall_mem_cons.2 ⟨rfl, InOrder.provider_eq ?_ h.2⟩
      cases hkind : context.provider with
      | none => simp [fixedKind, hkind]
      | some kind =>
        have := h.1.kind_fits kind (by simp [fixedKind, hkind])
        simp [fixedKind, hkind, this]
    exact fun x hx y hy => (hz x hx).trans (hz y hy).symm

/-- A candidate with a value fixes it, if it is not fixed yet, for all that follow. -/
theorem InOrder.same_values {earlier xs : List (Candidate σ)} {f : PropertyFilter}
    (hf : f ∈ c.replicasOnSame)
    (hearlier : ∀ y ∈ earlier, ∀ v, s.propOf? y.node f.key = some v →
      fixedValue s (takenNodes c context earlier) f = some v)
    (h : InOrder s c context earlier xs) :
    (xs.Pairwise fun y x => ∀ v, s.propOf? y.node f.key = some v → s.propOf? x.node f.key = some v) ∧
      ∀ x ∈ xs, ∀ v, fixedValue s (takenNodes c context earlier) f = some v →
        s.propOf? x.node f.key = some v := by
  -- Growing the nodes before keeps a value that is fixed, and what was taken has fixed its own.
  induction xs generalizing earlier with
  | nil => exact ⟨.nil, fun x hx => absurd hx List.not_mem_nil⟩
  | cons x xs ih =>
    have hx : ∀ v, fixedValue s (takenNodes c context earlier) f = some v →
        s.propOf? x.node f.key = some v := h.1.same_fits f hf
    have hgrown : fixedValue s (takenNodes c context (earlier ++ [x])) f =
        (fixedValue s (takenNodes c context earlier) f <|> s.propOf? x.node f.key) := by
      rw [takenNodes_append, fixedValue_append]
    have hkept : ∀ v, fixedValue s (takenNodes c context earlier) f = some v →
        fixedValue s (takenNodes c context (earlier ++ [x])) f = some v := by
      intro v hv
      rw [hgrown, hv]
      rfl
    have hown : ∀ v, s.propOf? x.node f.key = some v →
        fixedValue s (takenNodes c context (earlier ++ [x])) f = some v := by
      intro v hv
      cases hfixed : fixedValue s (takenNodes c context earlier) f with
      | none =>
        rw [hgrown, hfixed, hv]
        rfl
      | some w =>
        rw [hx w hfixed] at hv
        cases hv
        exact hkept _ hfixed
    obtain ⟨hpairs, hrest⟩ := ih (by
      intro y hy v hv
      rcases List.mem_append.1 hy with hy | hy
      · exact hkept v (hearlier y hy v hv)
      · rw [List.mem_singleton.1 hy] at hv
        exact hown v hv) h.2
    refine ⟨List.pairwise_cons.2 ⟨fun y hy v hv => hrest y hy v (hown v hv), hpairs⟩, ?_⟩
    exact List.forall_mem_cons.2 ⟨hx, fun y hy v hv => hrest y hy v (hkept v hv)⟩

/-! ## Taking a candidate in -/

theorem add_stateAfter {earlier : List (Candidate σ)} {ch : Choice σ}
    (hv : ch.values = valuesOf s (Filters.ofConstraints c) ch.candidate.node) :
    (stateAfter s c context earlier).add ch =
      stateAfter s c context (earlier ++ [ch.candidate]) := by
  unfold State.add stateAfter
  rw [hv, addNode_stateOf, takenNodes_append, fixedKind_append]
  rfl

theorem differing?_eq_none (fs : List PropertyFilter) (p q : PropertyFilter → Option String) :
    State.differing? fs (fs.map p) (fs.map q) = none ↔ ∀ f ∈ fs, ∀ v, p f = some v → q f = some v := by
  induction fs with
  | nil => simp [State.differing?]
  | cons f fs ih =>
    rw [List.forall_mem_cons, List.map_cons, List.map_cons, ← ih]
    cases hp : p f with
    | none => simp [State.differing?]
    | some required =>
      by_cases hq : q f = some required <;> simp [State.differing?, hq]

theorem taken?_eq_none (fs : List PropertyFilter) (p : PropertyFilter → List String)
    (q : PropertyFilter → Option String) :
    State.taken? fs (fs.map p) (fs.map q) = none ↔ ∀ f ∈ fs, ∀ v, q f = some v → v ∉ p f := by
  induction fs with
  | nil => simp [State.taken?]
  | cons f fs ih =>
    rw [List.forall_mem_cons, List.map_cons, List.map_cons, ← ih]
    cases hq : q f with
    | none => simp [State.taken?]
    | some value =>
      by_cases hp : value ∈ p f <;> simp [State.taken?, hp]

theorem otherProvider?_eq_none {own : ProviderKind} {kind : Option ProviderKind} :
    State.otherProvider? own kind = none ↔ ∀ k, kind = some k → own = k := by
  cases kind <;> simp [State.otherProvider?]

theorem orElse_eq_none {α : Type} {x y : Option α} : (x <|> y) = none ↔ x = none ∧ y = none := by
  cases x <;> simp

/-- The search rejects a candidate exactly if the rules do. -/
theorem rejection?_stateAfter {earlier : List (Candidate σ)} {ch : Choice σ}
    (hv : ch.values = valuesOf s (Filters.ofConstraints c) ch.candidate.node) :
    State.rejection? (Filters.ofConstraints c) (stateAfter s c context earlier) ch = none ↔
      MayFollow s c context earlier ch.candidate := by
  have hnode : (stateAfter s c context earlier).usedNodes.contains ch.candidate.node.key = false ↔
      ∀ n ∈ takenNodes c context earlier, n.key ≠ ch.candidate.node.key := by
    simp [stateAfter, stateOf]
  have hkind : State.otherProvider? ch.candidate.provider (stateAfter s c context earlier).provider
      = none ↔ ∀ kind, fixedKind context earlier = some kind → ch.candidate.provider = kind :=
    otherProvider?_eq_none
  have hsame := differing?_eq_none c.replicasOnSame
    (fixedValue s (takenNodes c context earlier)) fun f => s.propOf? ch.candidate.node f.key
  have hdiff : State.taken? c.replicasOnDifferent (stateAfter s c context earlier).claims
      (c.replicasOnDifferent.map fun f => s.propOf? ch.candidate.node f.key) = none ↔
      ∀ f ∈ c.replicasOnDifferent, ∀ v, s.propOf? ch.candidate.node f.key = some v →
        v ∉ claimedValues s (takenNodes c context earlier) f := by
    unfold stateAfter stateOf
    rw [taken?_eq_none]
    simp only [claimedValues, List.mem_append, List.mem_reverse, or_comm]
  unfold State.rejection?
  rw [hv]
  cases hu : (stateAfter s c context earlier).usedNodes.contains ch.candidate.node.key with
  | true =>
    rw [if_pos rfl]
    refine ⟨nofun, fun h => ?_⟩
    rw [hnode.2 h.node_free] at hu
    cases hu
  | false =>
    rw [if_neg Bool.false_ne_true, orElse_eq_none, orElse_eq_none]
    constructor
    · rintro ⟨⟨h1, h2⟩, h3⟩
      exact ⟨hnode.1 hu, hkind.1 h1, hsame.1 h2, hdiff.1 h3⟩
    · intro h
      exact ⟨⟨hkind.2 h.kind_fits, hsame.2 h.same_fits⟩, hdiff.2 h.different_fits⟩

/-! ## How the search starts -/

def ask (s : Snapshot) (name : NodeName) : Except PlacementError Unit :=
  (nodeValues s ⟨[], []⟩ name).map fun _ => ()

theorem ask_eq_ok {name : NodeName} : ask s name = .ok () ↔ s.hasNode name = true := by
  rw [← Snapshot.isSome_node?]
  unfold ask nodeValues
  cases s.node? name <;> simp [Except.map]

theorem nodeValues_eq (filters : Filters) (name : NodeName) :
    nodeValues s filters name = (ask s name).map fun _ => valuesOf s filters name := by
  unfold ask nodeValues valuesOf Snapshot.propOf?
  cases s.node? name <;> rfl

theorem foldlM_addNode_eq (rest nodes : List NodeName) (kind : Option ProviderKind) :
    rest.foldlM (fun st node => (nodeValues s (Filters.ofConstraints c) node).map
        fun values => st.addNode node values) (stateOf s c nodes kind) =
      (rest.forM (ask s)).map fun _ => stateOf s c (nodes ++ rest) kind := by
  induction rest generalizing nodes with
  | nil =>
    rw [List.append_nil]
    rfl
  | cons n rest ih =>
    have hasks : (n :: rest).forM (ask s) = (ask s n).bind fun _ => rest.forM (ask s) := rfl
    rw [List.foldlM_cons, nodeValues_eq, hasks, List.append_cons]
    cases ask s n with
    | error e => rfl
    | ok =>
      refine Eq.trans ?_ (ih (nodes ++ [n]))
      rw [← addNode_stateOf]
      rfl

theorem initialState_eq : initialState s c context =
    ((deployed c context).forM (ask s)).map fun _ => startState s c context := by
  have hstart : State.ofFilters (Filters.ofConstraints c) context.provider =
      stateOf s c [] context.provider := by
    simp [State.ofFilters, stateOf, Filters.ofConstraints, fixedValue]
  unfold initialState startState deployed
  simp only [hstart]
  cases c.skipAlreadyPlaced with
  | true => rfl
  | false => exact foldlM_addNode_eq _ _ _

theorem initialState_eq_ok {st : State} : initialState s c context = .ok st ↔
    (∀ n ∈ deployed c context, s.hasNode n = true) ∧ st = startState s c context := by
  simp only [initialState_eq, Outcome.map_const_eq_ok, Outcome.forM_eq_ok, ask_eq_ok]

def rankedChoices (s : Snapshot) (filters : Filters) (ranked : List (Candidate σ)) :
    List (Choice σ) :=
  ranked.zipIdx.map fun x => ⟨x.2, x.1, valuesOf s filters x.1.node⟩

theorem choicesOf_eq (filters : Filters) (ranked : List (Candidate σ)) :
    choicesOf s filters ranked =
      (ranked.zipIdx.forM fun x => ask s x.1.node).map fun _ => rankedChoices s filters ranked := by
  have hchoice : choiceOf s filters = fun x : Candidate σ × Nat =>
      (ask s x.1.node).map fun _ => ⟨x.2, x.1, valuesOf s filters x.1.node⟩ := by
    funext x
    rw [choiceOf, nodeValues_eq]
    cases ask s x.1.node <;> rfl
  rw [choicesOf, hchoice, Outcome.mapM_map_const]
  rfl

theorem choicesOf_eq_ok {filters : Filters} {ranked : List (Candidate σ)}
    {choices : List (Choice σ)} :
    choicesOf s filters ranked = .ok choices ↔
      (∀ x ∈ ranked, s.hasNode x.node = true) ∧ choices = rankedChoices s filters ranked := by
  have hasks : (∀ x ∈ ranked.zipIdx, s.hasNode x.1.node = true) ↔
      ∀ x ∈ ranked, s.hasNode x.node = true := by
    refine ⟨fun h x hx => ?_, fun h x hx => h _ (List.fst_mem_of_mem_zipIdx hx)⟩
    obtain ⟨i, hi⟩ := List.mem_iff_getElem?.1 hx
    exact h (x, i) (List.mk_mem_zipIdx_iff_getElem?.2 hi)
  simp only [choicesOf_eq, Outcome.map_const_eq_ok, Outcome.forM_eq_ok, ask_eq_ok, hasks]

end Selection

end ReplicaPlacement
