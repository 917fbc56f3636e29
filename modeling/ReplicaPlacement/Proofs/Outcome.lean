import Mathlib.Tactic.Common
import ReplicaPlacement.Trace

/-!
# What a success tells

An operation made of several succeeds only if each of them does, so a success can be taken apart
into theirs. What every step of a loop keeps, the loop keeps.
-/

namespace ReplicaPlacement

variable {ε α β : Type}

namespace Outcome

theorem bind_eq_ok {x : Except ε α} {f : α → Except ε β} {b : β} :
    x.bind f = .ok b ↔ ∃ a, x = .ok a ∧ f a = .ok b := by
  cases x <;> simp [Except.bind]

theorem map_eq_ok {x : Except ε α} {f : α → β} {b : β} :
    x.map f = .ok b ↔ ∃ a, x = .ok a ∧ f a = b := by
  cases x <;> simp [Except.map]

theorem bind_const_eq_ok {x : Except ε Unit} {y : Except ε β} {b : β} :
    (x.bind fun _ => y) = .ok b ↔ x = .ok () ∧ y = .ok b := by
  cases x <;> simp [Except.bind]

theorem map_const_eq_ok {x : Except ε Unit} {b b' : β} :
    (x.map fun _ => b) = .ok b' ↔ x = .ok () ∧ b' = b := by
  cases x <;> simp [Except.map, eq_comm]

theorem foldlM_cons_eq_ok {f : β → α → Except ε β} {x : α} {xs : List α} {b b' : β} :
    (x :: xs).foldlM f b = .ok b' ↔ ∃ b₁, f b x = .ok b₁ ∧ xs.foldlM f b₁ = .ok b' :=
  bind_eq_ok

theorem foldlM_invariant {f : β → α → Except ε β} {P : β → Prop} {xs : List α}
    (hstep : ∀ b b', ∀ x ∈ xs, P b → f b x = .ok b' → P b') {b b' : β} (hb : P b)
    (h : xs.foldlM f b = .ok b') : P b' := by
  induction xs generalizing b with
  | nil =>
    cases h
    exact hb
  | cons x xs ih =>
    obtain ⟨b₁, h1, h2⟩ := foldlM_cons_eq_ok.1 h
    have hb₁ : P b₁ := hstep b b₁ x List.mem_cons_self hb h1
    exact ih (fun b b' y hy => hstep b b' y (List.mem_cons_of_mem _ hy)) hb₁ h2

/-- What each step does to a part of the state, the loop does. -/
theorem foldlM_tracks {γ : Type} {f : β → α → Except ε β} (part : β → γ) {g : γ → α → γ} {xs : List α}
    (hstep : ∀ b b', ∀ x ∈ xs, f b x = .ok b' → part b' = g (part b) x) {b b' : β}
    (h : xs.foldlM f b = .ok b') : part b' = xs.foldl g (part b) := by
  induction xs generalizing b with
  | nil =>
    cases h
    rfl
  | cons x xs ih =>
    obtain ⟨b₁, h1, h2⟩ := foldlM_cons_eq_ok.1 h
    rw [List.foldl_cons, ← hstep b b₁ x List.mem_cons_self h1]
    exact ih (fun b b' y hy => hstep b b' y (List.mem_cons_of_mem _ hy)) h2

theorem forM_eq_ok {f : α → Except ε Unit} {xs : List α} :
    xs.forM f = .ok () ↔ ∀ x ∈ xs, f x = .ok () := by
  induction xs with
  | nil => simp [pure, Except.pure]
  | cons x xs ih =>
    rw [List.forall_mem_cons, ← ih]
    exact bind_eq_ok.trans ⟨fun ⟨_, h⟩ => h, fun h => ⟨(), h⟩⟩

theorem bind_congr {x : Except ε α} {f f' : α → Except ε β} (h : ∀ a, x = .ok a → f a = f' a) :
    x.bind f = x.bind f' := by
  cases x with
  | error e => rfl
  | ok a => exact h a rfl

theorem foldlM_congr {f f' : β → α → Except ε β} {xs : List α}
    (h : ∀ x ∈ xs, ∀ b, f b x = f' b x) (b : β) : xs.foldlM f b = xs.foldlM f' b := by
  induction xs generalizing b with
  | nil => rfl
  | cons x xs ih =>
    rw [List.foldlM_cons, List.foldlM_cons, h x List.mem_cons_self]
    exact bind_congr fun b₁ _ => ih (fun y hy => h y (List.mem_cons_of_mem _ hy)) b₁

theorem mapM_congr {m : Type → Type} [Monad m] [LawfulMonad m] {f f' : α → m β} {xs : List α}
    (h : ∀ x ∈ xs, f x = f' x) : xs.mapM f = xs.mapM f' := by
  induction xs with
  | nil => rfl
  | cons x xs ih =>
    rw [List.mapM_cons, List.mapM_cons, h x List.mem_cons_self,
      ih fun y hy => h y (List.mem_cons_of_mem _ hy)]

theorem mapM_map_eq_pure {m : Type → Type} [Monad m] [LawfulMonad m] {f : β → m α} {g : α → β}
    {xs : List α} (h : ∀ x ∈ xs, f (g x) = pure x) : (xs.map g).mapM f = pure xs := by
  have hcongr : xs.mapM (f ∘ g) = xs.mapM fun x => pure x := mapM_congr h
  rw [List.mapM_map, hcongr, List.mapM_pure, List.map_id']

theorem forall_of_mapM_map_eq_some {f : β → Option α} {g : α → β} {xs : List α}
    (h : (xs.map g).mapM f = some xs) : ∀ x ∈ xs, f (g x) = some x := by
  induction xs with
  | nil => nofun
  | cons x xs ih =>
    rw [List.map_cons, List.mapM_cons] at h
    obtain ⟨y, hy, h⟩ := Option.bind_eq_some_iff.1 h
    obtain ⟨ys, hys, h⟩ := Option.bind_eq_some_iff.1 h
    cases h
    exact List.forall_mem_cons.2 ⟨hy, ih hys⟩

theorem mapM_map_const {check : α → Except ε Unit} {f : α → β} (xs : List α) :
    xs.mapM (fun x => (check x).map fun _ => f x) = (xs.forM check).map fun _ => xs.map f := by
  induction xs with
  | nil => rfl
  | cons x xs ih =>
    have hchecks : (x :: xs).forM check = (check x).bind fun _ => xs.forM check := rfl
    rw [List.mapM_cons, ih, hchecks]
    cases check x with
    | error e => rfl
    | ok =>
      simp only [Except.bind]
      cases xs.forM check <;> rfl

theorem foldlM_flatMap {γ : Type} {f : β → α → Except ε β} {g : β → γ → Except ε β} {parts : α → List γ}
    {xs : List α} (h : ∀ x ∈ xs, ∀ b, f b x = (parts x).foldlM g b) (b : β) :
    xs.foldlM f b = (xs.flatMap parts).foldlM g b := by
  induction xs generalizing b with
  | nil => rfl
  | cons x xs ih =>
    obtain ⟨hx, hxs⟩ := List.forall_mem_cons.1 h
    rw [List.foldlM_cons, List.flatMap_cons, List.foldlM_append, hx]
    exact bind_congr fun b₁ _ => ih hxs b₁

theorem map_bind_of_commutes {α' β' : Type} {g : α → α'} {h : β → β'} {f : α → Except ε β}
    {f' : α' → Except ε β'} (hf : ∀ a, f' (g a) = (f a).map h) (x : Except ε α) :
    (x.map g).bind f' = (x.bind f).map h := by
  cases x with
  | error e => rfl
  | ok a => exact hf a

theorem foldlM_map_map {α' β' : Type} {f : β → α → Except ε β} {f' : β' → α' → Except ε β'}
    {g : β → β'} {h : α → α'} (hstep : ∀ b x, f' (g b) (h x) = (f b x).map g) (xs : List α) (b : β) :
    (xs.map h).foldlM f' (g b) = (xs.foldlM f b).map g := by
  induction xs generalizing b with
  | nil => rfl
  | cons x xs ih =>
    have hcons : ((x :: xs).map h).foldlM f' (g b) =
        (f' (g b) (h x)).bind fun b => (xs.map h).foldlM f' b := rfl
    rw [hcons, hstep]
    exact map_bind_of_commutes ih (f b x)

/-! ## Failing with the first of several errors -/

def failing : List ε → α → Except ε α
  | [], a => .ok a
  | e :: _, _ => .error e

theorem failing_eq_error {es : List ε} {a : α} {e : ε} :
    failing es a = .error e ↔ es.head? = some e := by
  cases es <;> simp [failing]

theorem failing_eq_ok {es : List ε} {a b : α} : failing es a = .ok b ↔ es = [] ∧ a = b := by
  cases es <;> simp [failing]

theorem failing_bind {es es' : List ε} {a : α} {b : β} {f : α → Except ε β}
    (h : f a = failing es' b) : (failing es a).bind f = failing (es ++ es') b := by
  cases es with
  | nil => exact h
  | cons e es => rfl

theorem failing_bind_ok {es : List ε} {a : α} {b : β} {f : α → Except ε β} (h : f a = .ok b) :
    (failing es a).bind f = failing es b := by
  cases es with
  | nil => exact h
  | cons e es => rfl

theorem failing_map (es : List ε) (a : α) (f : α → β) :
    (failing es a).map f = failing es (f a) := by
  cases es <;> rfl

/-- A loop of checks fails with the first error of all. -/
theorem forM_eq_failing {f : α → Except ε Unit} {errors : α → List ε} {xs : List α}
    (h : ∀ x ∈ xs, f x = failing (errors x) ()) : xs.forM f = failing (xs.flatMap errors) () := by
  induction xs with
  | nil => rfl
  | cons x xs ih =>
    obtain ⟨hx, hxs⟩ := List.forall_mem_cons.1 h
    have hrest : (xs.forM f) = failing (xs.flatMap errors) () := ih hxs
    rw [List.flatMap_cons, ← failing_bind (f := fun _ => xs.forM f) hrest, ← hx]
    rfl

theorem mapM_eq_failing {f : α → Except ε β} {errors : α → List ε} {read? : α → Option β} {xs : List α}
    (h : ∀ x ∈ xs, (∃ y, read? x = some y ∧ f x = failing (errors x) y) ∨
      ∃ e es, errors x = e :: es ∧ f x = .error e) :
    xs.mapM f = failing (xs.flatMap errors) (xs.filterMap read?) := by
  induction xs with
  | nil => rfl
  | cons x xs ih =>
    obtain ⟨hx, hxs⟩ := List.forall_mem_cons.1 h
    have hcons : (x :: xs).mapM f = (f x).bind fun y => (xs.mapM f).map fun ys => y :: ys := by
      rw [List.mapM_cons]
      cases f x with
      | error e => rfl
      | ok y => cases xs.mapM f <;> rfl
    rw [hcons, ih hxs, List.flatMap_cons]
    rcases hx with ⟨y, hread, hy⟩ | ⟨e, es, herrors, he⟩
    · rw [hy, List.filterMap_cons_some hread]
      exact failing_bind (failing_map _ _ _)
    · rw [he, herrors]
      rfl

/-! ## Settling -/

/-- It fails with the first of the errors, and if there is none it has a result, one of this kind. -/
inductive Settles (P : α → Prop) : List ε → Except ε α → Prop
  | ok {a : α} (h : P a) : Settles P [] (.ok a)
  | error (e : ε) (es : List ε) : Settles P (e :: es) (.error e)

namespace Settles

variable {P : α → Prop} {Q : β → Prop} {es es' : List ε} {x : Except ε α}

theorem eq_error_iff (h : Settles P es x) {e : ε} : x = .error e ↔ es.head? = some e := by
  cases h <;> simp

theorem eq_ok_iff (h : Settles P es x) : (∃ a, x = .ok a) ↔ es = [] := by
  cases h <;> simp

theorem imp {P' : α → Prop} (h : Settles P es x) (himp : ∀ a, x = .ok a → P a → P' a) :
    Settles P' es x := by
  cases h with
  | ok h => exact .ok (himp _ rfl h)
  | error e es => exact .error e es

theorem bind {f : α → Except ε β} (h : Settles P es x) (hf : ∀ a, P a → Settles Q es' (f a)) :
    Settles Q (es ++ es') (x.bind f) := by
  cases h with
  | ok h => exact hf _ h
  | error e es => exact .error e (es ++ es')

end Settles

def errorsAlong (errors : List α → α → List ε) : List α → List α → List ε
  | _, [] => []
  | before, x :: xs => errors before x ++ errorsAlong errors (x :: before) xs

/-- The invariant says what the state holds of the members taken in so far. -/
theorem Settles.foldlM {f : β → α → Except ε β} {Q : List α → β → Prop} {errors : List α → α → List ε}
    (hstep : ∀ {before b x}, Q before b → Settles (Q (x :: before)) (errors before x) (f b x))
    {before : List α} {b : β} (hb : Q before b) (xs : List α) :
    Settles (Q (xs.reverse ++ before)) (errorsAlong errors before xs) (xs.foldlM f b) := by
  induction xs generalizing before b with
  | nil => exact .ok hb
  | cons x xs ih =>
    have hrest : ∀ b', Q (x :: before) b' → Settles (Q ((x :: xs).reverse ++ before))
        (errorsAlong errors (x :: before) xs) (xs.foldlM f b') := by
      intro b' hb'
      rw [List.reverse_cons, List.append_assoc]
      exact ih hb'
    exact (hstep hb).bind hrest

end Outcome

namespace Attempt

theorem bind_eq_ok {x : Attempt ε α} {f : α → Attempt ε β} {b : β} :
    (x >>= f).result = .ok b ↔ ∃ a, x.result = .ok a ∧ (f a).result = .ok b := by
  rw [result_bind, Outcome.bind_eq_ok]

theorem bind_congr {x : Attempt ε α} {f f' : α → Attempt ε β}
    (h : ∀ a, x.result = .ok a → f a = f' a) : x >>= f = x >>= f' := by
  obtain ⟨v, events⟩ : Traced (Except ε α) := x
  cases v with
  | error e => rfl
  | ok a =>
    change Traced.mk (f a).run.value (events ++ (f a).run.events) =
      Traced.mk (f' a).run.value (events ++ (f' a).run.events)
    rw [h a rfl]

@[simp] theorem result_debug (r : Unit → String) : result (debug r : Attempt ε Unit) = .ok () := rfl

@[simp] theorem result_trace (r : Unit → String) : result (trace r : Attempt ε Unit) = .ok () := rfl

theorem result_report_bind {x : Attempt ε Unit} (hx : x.result = .ok ()) (f : Unit → Attempt ε β) :
    (x >>= f).result = (f ()).result := by
  rw [result_bind, hx]
  rfl

theorem result_report_if {b : Prop} [Decidable b] {x : Attempt ε Unit} (hx : x.result = .ok ())
    (f : Unit → Attempt ε β) : (if b then x >>= f else f ()).result = (f ()).result := by
  split
  · exact result_report_bind hx f
  · rfl

@[simp] theorem result_forM_debug (xs : List α) (text : α → Unit → String) :
    (forM xs fun x => debug (text x) : Attempt ε Unit).result = .ok () := by
  induction xs with
  | nil => rfl
  | cons x xs ih => rw [List.forM_cons, result_report_bind (result_debug _), ih]

end Attempt

end ReplicaPlacement
