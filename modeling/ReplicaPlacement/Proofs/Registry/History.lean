import ReplicaPlacement.Proofs.Registry.Load

/-!
# Whole runs on one store

Saves are made change by change. In between, views are opened and transactions are dropped, half made
saves among them. Whatever happens, the committed content is that of the last save to commit, and a
view keeps the content it was opened on.
-/

namespace ReplicaPlacement.Registry

open Store (Content Entry Session)

variable {codec : Codec} {c c₀ : Content} {s : Snapshot}

/-! ## Changes -/

inductive Edit where
  | clear (start : Bytes)
  | put (e : Entry)

def Edit.apply (c : Content) : Edit → Content
  | clear start => (Store.deletePrefix start c).1
  | put e => Store.put e.key e.value c

def edits (codec : Codec) (s : Snapshot) : List Edit :=
  RegistryKey.prefixes.map (fun start => .clear (Utf8.encode start)) ++
    (entries codec s.toInventory).map .put

theorem foldl_edits (codec : Codec) (s : Snapshot) (c : Content) :
    (edits codec s).foldl Edit.apply c = replace codec s c := by
  rw [edits, List.foldl_append, List.foldl_map, List.foldl_map, replace, clear_eq_foldl]
  rfl

/-! ## Runs -/

inductive Writer where
  | idle
  | saving (s : Snapshot) (rest : List Edit)
  | other

structure State where
  session : Session
  writer : Writer := .idle
  /-- The snapshot whose save was the last to commit. -/
  saved : Option Snapshot := none

inductive Action where
  /-- A save opens its transaction. -/
  | save (s : Snapshot)
  /-- The save makes its next change. -/
  | write
  /-- The save has made all changes. -/
  | commit
  | begin
  | edit (e : Edit)
  | drop
  | view (name : String)

/-- A store has one transaction at a time. Each view has a name of its own. -/
def step? (codec : Codec) (t : State) : Action → Option State
  | .save s =>
    match t.writer with
    | .idle => some { t with session := t.session.begin, writer := .saving s (edits codec s) }
    | _ => none
  | .write =>
    match t.writer with
    | .saving s (e :: rest) =>
      some { t with session := t.session.update fun c => e.apply c, writer := .saving s rest }
    | _ => none
  | .commit =>
    match t.writer with
    | .saving s [] => some { session := t.session.commit, saved := some s }
    | _ => none
  | .begin =>
    match t.writer with
    | .idle => some { t with session := t.session.begin, writer := .other }
    | _ => none
  | .edit e =>
    match t.writer with
    | .other => some { t with session := t.session.update fun c => e.apply c }
    | _ => none
  | .drop =>
    match t.writer with
    | .idle => none
    | _ => some { t with session := t.session.rollback, writer := .idle }
  | .view name =>
    if t.session.view? name = none then some { t with session := t.session.pin name } else none

def run? (codec : Codec) (t : State) (actions : List Action) : Option State :=
  actions.foldlM (step? codec) t

variable {t t' : State} {a : Action} {actions : List Action} {name : String}

theorem run?_cons {t₂ : State} : run? codec t (a :: actions) = some t₂ ↔
    ∃ t₁, step? codec t a = some t₁ ∧ run? codec t₁ actions = some t₂ := by
  rw [run?, List.foldlM_cons]
  exact Option.bind_eq_some_iff

theorem run?_induction {P : State → Prop}
    (hstep : ∀ a ∈ actions, ∀ t t', P t → step? codec t a = some t' → P t') (h : P t)
    (hrun : run? codec t actions = some t') : P t' := by
  induction actions generalizing t with
  | nil =>
    cases hrun
    exact h
  | cons a actions ih =>
    obtain ⟨t₁, hfirst, hrun⟩ := run?_cons.1 hrun
    have h₁ := hstep a List.mem_cons_self t t₁ h hfirst
    exact ih (fun b hb => hstep b (List.mem_cons_of_mem _ hb)) h₁ hrun

/-! ## What every step keeps -/

/-- Nothing outside the registry has changed, a save that makes its changes will have replaced the
committed content, and the registry holds the snapshot that was saved last. -/
structure Inv (codec : Codec) (c₀ : Content) (t : State) : Prop where
  sorted : Ordered.Sorted Entry.key t.session.committed
  foreign : t.session.committed.filter (fun e => !owns e) = c₀.filter fun e => !owns e
  saving : ∀ s rest, t.writer = .saving s rest → s.Built ∧
    ∃ p, t.session.pending = some p ∧ rest.foldl Edit.apply p = replace codec s t.session.committed
  saved : ∀ s, t.saved = some s → s.Built ∧ Holds codec t.session.committed s

theorem Inv.initial (h : Ordered.Sorted Entry.key c₀) :
    Inv codec c₀ { session := { committed := c₀ } } where
  sorted := h
  foreign := rfl
  saving := by simp
  saved := by simp

theorem Inv.of_committed_eq (h : Inv codec c₀ t) (hcommitted : t'.session.committed = t.session.committed)
    (hsaved : t'.saved = t.saved)
    (hsaving : ∀ s rest, t'.writer = .saving s rest → s.Built ∧
      ∃ p, t'.session.pending = some p ∧ rest.foldl Edit.apply p = replace codec s t.session.committed) :
    Inv codec c₀ t' where
  sorted := hcommitted ▸ h.sorted
  foreign := hcommitted ▸ h.foreign
  saving := hcommitted ▸ hsaving
  saved := by
    rw [hcommitted, hsaved]
    exact h.saved

theorem Inv.save (h : Inv codec c₀ t) (hs : s.Built) :
    Inv codec c₀ { t with session := t.session.begin, writer := .saving s (edits codec s) } := by
  refine h.of_committed_eq rfl rfl ?_
  rintro s' rest ⟨⟩
  exact ⟨hs, t.session.committed, rfl, foldl_edits codec s _⟩

theorem Inv.write {e : Edit} {rest : List Edit} (h : Inv codec c₀ t)
    (hw : t.writer = .saving s (e :: rest)) :
    Inv codec c₀ { t with
      session := t.session.update fun c => e.apply c
      writer := .saving s rest } := by
  obtain ⟨hs, p, hp, hrest⟩ := h.saving s _ hw
  refine h.of_committed_eq rfl rfl ?_
  rintro s' rest' ⟨⟩
  exact ⟨hs, e.apply p, congrArg (Option.map fun c => e.apply c) hp, hrest⟩

theorem Inv.commit (h : Inv codec c₀ t) (hw : t.writer = .saving s []) :
    Inv codec c₀ { session := t.session.commit, saved := some s } := by
  obtain ⟨hs, p, hp, hreplaced⟩ := h.saving s [] hw
  -- No change is left to be made, so what is pending is the replaced content.
  have hcommitted : t.session.commit.committed = replace codec s t.session.committed := by
    rw [← hreplaced, Session.commit, hp]
    rfl
  constructor
  case sorted =>
    rw [hcommitted]
    exact (holds_replace codec hs.wellFormed h.sorted).sorted
  case foreign =>
    rw [hcommitted, foreign_replace codec hs.wellFormed h.sorted]
    exact h.foreign
  case saving => simp
  case saved =>
    rintro s' ⟨⟩
    rw [hcommitted]
    exact ⟨hs, holds_replace codec hs.wellFormed h.sorted⟩

theorem Inv.step (h : Inv codec c₀ t) (ha : ∀ s, a = .save s → s.Built)
    (hstep : step? codec t a = some t') : Inv codec c₀ t' := by
  cases a with
  | save s =>
    simp only [step?] at hstep
    split at hstep
    · cases hstep
      exact h.save (ha s rfl)
    · cases hstep
  | write =>
    simp only [step?] at hstep
    split at hstep
    next s e rest hw =>
      cases hstep
      exact h.write hw
    · cases hstep
  | commit =>
    simp only [step?] at hstep
    split at hstep
    next s hw =>
      cases hstep
      exact h.commit hw
    · cases hstep
  | begin =>
    simp only [step?] at hstep
    split at hstep
    · cases hstep
      exact h.of_committed_eq rfl rfl (by simp)
    · cases hstep
  | edit e =>
    -- The pending content is that of another transaction, and no save is open.
    simp only [step?] at hstep
    split at hstep
    next hw =>
      cases hstep
      exact h.of_committed_eq rfl rfl (by simp [hw])
    · cases hstep
  | drop =>
    simp only [step?] at hstep
    split at hstep
    · cases hstep
    · cases hstep
      exact h.of_committed_eq rfl rfl (by simp)
  | view name =>
    simp only [step?] at hstep
    split at hstep
    · cases hstep
      exact h.of_committed_eq rfl rfl h.saving
    · cases hstep

theorem Inv.run (h : Inv codec c₀ t) (hsaves : ∀ s, .save s ∈ actions → s.Built)
    (hrun : run? codec t actions = some t') : Inv codec c₀ t' :=
  run?_induction (fun _ ha _ _ h hstep => h.step (fun s hs => hsaves s (hs ▸ ha)) hstep) h hrun

/-! ## Views -/

theorem view?_step {v : Content} (hview : t.session.view? name = some v)
    (hstep : step? codec t a = some t') : t'.session.view? name = some v := by
  cases a with
  | view name' =>
    simp only [step?] at hstep
    split at hstep
    next hfree =>
      cases hstep
      have hne : name ≠ name' := by
        rintro rfl
        rw [hfree] at hview
        cases hview
      rw [← hview]
      simp [Session.view?, Session.pin, List.lookup_cons, beq_eq_false_iff_ne.2 hne]
    · cases hstep
  | _ =>
    simp only [step?] at hstep
    split at hstep <;> simp only [Option.some.injEq, reduceCtorEq] at hstep
    all_goals
      subst hstep
      exact hview

theorem view?_run {v : Content} (hview : t.session.view? name = some v)
    (hrun : run? codec t actions = some t') : t'.session.view? name = some v :=
  run?_induction (fun _ _ _ _ hview hstep => view?_step hview hstep) hview hrun

theorem view?_of_view (hrun : run? codec t (.view name :: actions) = some t') :
    t'.session.view? name = some t.session.committed := by
  obtain ⟨t₁, hstep, hrun⟩ := run?_cons.1 hrun
  refine view?_run ?_ hrun
  simp only [step?] at hstep
  split at hstep
  · cases hstep
    simp [Session.view?, Session.pin]
  · cases hstep

/-! ## Whole runs -/

/-- Once a save has committed, the registry holds exactly the entries of its snapshot and loads as this
snapshot. A view that is opened then shows this content whenever it is scanned, whatever happens in
between. Outside of the registry everything is as it was at the start. -/
theorem load_of_run {before : List Action} (hcodec : codec.Lawful) (hc₀ : Ordered.Sorted Entry.key c₀)
    (hsaves : ∀ s, .save s ∈ before → s.Built)
    (hrun : run? codec { session := { committed := c₀ } } before = some t) :
    t.session.committed.filter (fun e => !owns e) = c₀.filter (fun e => !owns e) ∧
      ∀ s, t.saved = some s → Holds codec t.session.committed s ∧
        (∃ s', (load codec t.session.committed).result = .ok s' ∧ s'.toInventory = s.toInventory) ∧
          ∀ name after t', run? codec t (.view name :: after) = some t' →
            t'.session.view? name = some t.session.committed := by
  have hinv := (Inv.initial hc₀).run hsaves hrun
  refine ⟨hinv.foreign, fun s hs => ?_⟩
  obtain ⟨hbuilt, hholds⟩ := hinv.saved s hs
  exact ⟨hholds, hholds.load hcodec hbuilt, fun name after t' => view?_of_view⟩

def saving (codec : Codec) (s : Snapshot) : List Action :=
  .save s :: ((edits codec s).map fun _ => .write) ++ [.commit]

theorem run?_append {before after : List Action} : run? codec t (before ++ after) =
    (run? codec t before).bind fun t => run? codec t after := by
  rw [run?, List.foldlM_append]
  rfl

theorem run?_writes (codec : Codec) {rest : List Edit} {p : Content} (hw : t.writer = .saving s rest)
    (hp : t.session.pending = some p) :
    run? codec t (rest.map fun _ => .write) = some { t with
      session := { t.session with pending := some (rest.foldl Edit.apply p) }
      writer := .saving s [] } := by
  induction rest generalizing t p with
  | nil =>
    rw [List.foldl_nil, ← hp, ← hw]
    rfl
  | cons e rest ih =>
    rw [List.map_cons, run?_cons]
    refine ⟨{ t with session := t.session.update fun c => e.apply c, writer := .saving s rest }, ?_, ?_⟩
    · simp only [step?, hw]
    · exact ih rfl (congrArg (Option.map fun c => e.apply c) hp)

theorem run?_saving (h : t.writer = .idle) : run? codec t (saving codec s) = some
    { session := { t.session with committed := replace codec s t.session.committed, pending := none }
      saved := some s } := by
  have hopen : step? codec t (.save s) =
      some { t with session := t.session.begin, writer := .saving s (edits codec s) } := by
    simp only [step?, h]
  have hwrites := run?_writes codec
    (t := { t with session := t.session.begin, writer := .saving s (edits codec s) }) rfl rfl
  rw [foldl_edits] at hwrites
  rw [saving, List.cons_append, run?_cons]
  refine ⟨_, hopen, ?_⟩
  rw [run?_append, hwrites]
  rfl

/-- A store that was used before: an entry outside of the registry, and one in it that is no object. -/
def used : Content := [⟨Utf8.encode "meta", [1]⟩, ⟨Utf8.encode "node/GHOST", [2]⟩]

theorem built_pair : Snapshot.pair.Built :=
  ⟨Snapshot.pairInventory, by simp [Snapshot.pairInventory], Snapshot.ofInventory_pair⟩

/-- A view from after the first save loads the pair, although the registry is emptied before it is
scanned. -/
theorem load_pair_of_run : ∃ t t',
    run? .json { session := { committed := used } } (saving .json .pair) = some t ∧
      run? .json t (.view "load" :: .save .pair :: .write :: .drop :: saving .json {}) = some t' ∧
        t.session.committed.filter (fun e => !owns e) = used.filter (fun e => !owns e) ∧
          ∃ view, t'.session.view? "load" = some view ∧ Holds .json view .pair ∧
            ∃ s', (load .json view).result = .ok s' ∧ s'.toInventory = Snapshot.pairInventory := by
  let t : State := { session := { committed := replace .json .pair used }, saved := some .pair }
  have hrun : run? .json { session := { committed := used } } (saving .json .pair) = some t :=
    run?_saving rfl
  obtain ⟨t', hafter⟩ : ∃ t', run? .json t
      (.view "load" :: .save .pair :: .write :: .drop :: saving .json {}) = some t' :=
    ⟨_, run?_cons.2 ⟨_, rfl, run?_cons.2 ⟨_, rfl, run?_cons.2 ⟨_, rfl, run?_cons.2
      ⟨_, rfl, run?_saving rfl⟩⟩⟩⟩⟩
  have hused : Ordered.Sorted Entry.key used := by
    unfold Ordered.Sorted
    decide +kernel
  have hsaves : ∀ s, .save s ∈ saving .json .pair → s.Built := by
    intro s hs
    obtain rfl : s = .pair := by simpa [saving] using hs
    exact built_pair
  obtain ⟨hforeign, hsaved⟩ := load_of_run Codec.lawful_json hused hsaves hrun
  obtain ⟨hholds, hload, hview⟩ := hsaved .pair rfl
  exact ⟨t, t', hrun, hafter, hforeign, _, hview "load" _ t' hafter, hholds, hload⟩

end ReplicaPlacement.Registry
