import ReplicaPlacement.Selection.State
import ReplicaPlacement.Trace

/-!
# Depth-first search

`firstAdmissible?` is the search as a plain recursion: try the best candidate that may join, go on
behind it, and without success leave it out. `Cursor.run` is the same search on an explicit stack
with one state that is changed and changed back.
-/

namespace ReplicaPlacement.Selection

variable {σ : Type}

/-- The first way to choose so many candidates of the list, in its order, each of which may join
the ones before. -/
def firstAdmissible? (filters : Filters) :
    State → Nat → List (Choice σ) → Option (List (Choice σ))
  | _, 0, _ => some []
  | _, _ + 1, [] => none
  | st, k + 1, c :: cs =>
    match st.rejection? filters c with
    | some _ => firstAdmissible? filters st (k + 1) cs
    | none =>
      match firstAdmissible? filters (st.add c) k cs with
      | some chosen => some (c :: chosen)
      | none => firstAdmissible? filters st (k + 1) cs

structure Frame (σ : Type) where
  choice : Choice σ
  behind : List (Choice σ)
  changes : State.Changes

structure Cursor (σ : Type) where
  state : State
  /-- The candidates chosen, the newest first. -/
  frames : List (Frame σ)
  remaining : List (Choice σ)

inductive Step (σ : Type) where
  | finish (chosen : Option (List (Choice σ)))
  | next (cursor : Cursor σ) (event : Event)

namespace Cursor

def start (st : State) (cs : List (Choice σ)) : Cursor σ := ⟨st, [], cs⟩

def chosen (c : Cursor σ) : List (Choice σ) := (c.frames.map (·.choice)).reverse

def weightBehind : List (Frame σ) → Nat
  | [] => 0
  | f :: frames => Nat.pow 3 f.behind.length + weightBehind frames

/-- Bounds the number of steps still to come. -/
def weight (c : Cursor σ) : Nat := weightBehind c.frames + Nat.pow 3 c.remaining.length

def backtrack (c : Cursor σ) (f : Frame σ) (frames : List (Frame σ)) : Cursor σ :=
  ⟨c.state.undo f.changes f.choice, frames, f.behind⟩

def choose (c : Cursor σ) (x : Choice σ) (xs : List (Choice σ)) : Cursor σ :=
  ⟨c.state.add x, ⟨x, xs, c.state.changes x⟩ :: c.frames, xs⟩

def step [Score σ] (filters : Filters) (count : Nat) (c : Cursor σ) : Step σ :=
  if c.frames.length = count then .finish (some c.chosen)
  else
    match c.remaining with
    | [] =>
      match c.frames with
      | [] => .finish none
      | f :: frames =>
        .next (c.backtrack f frames)
          ⟨.trace, fun _ => s!"Removing {f.choice.candidate.describe} from current selection"⟩
    | x :: xs =>
      match c.state.rejection? filters x with
      | some reason =>
        .next { c with remaining := xs }
          ⟨.trace, fun _ => s!"Cannot add {x.candidate.describe}: {reason.text}"⟩
      | none =>
        .next (c.choose x xs)
          ⟨.trace, fun _ => s!"Adding {x.candidate.describe} to current selection"⟩

theorem weight_step [Score σ] {filters : Filters} {count : Nat} {c c' : Cursor σ} {e : Event}
    (h : c.step filters count = .next c' e) : c'.weight < c.weight := by
  have pos (n : Nat) : 0 < Nat.pow 3 n := Nat.pow_pos (by decide)
  unfold step at h
  split at h
  · cases h
  · split at h
    · rename_i hr
      split at h
      · cases h
      · rename_i f frames hf
        cases h
        have := pos f.behind.length
        simp only [weight, weightBehind, backtrack, hr, hf, List.length_nil, Nat.pow]
        omega
    · rename_i x xs hr
      have h3 : Nat.pow 3 (x :: xs).length = 3 * Nat.pow 3 xs.length := Nat.mul_comm _ 3
      have := pos xs.length
      split at h <;> cases h
      · simp only [weight, hr, h3]
        omega
      · simp only [weight, weightBehind, choose, hr, h3]
        omega

/-- Steps until the search is finished. The events so far are given newest first. -/
def run [Score σ] (filters : Filters) (count : Nat) (c : Cursor σ) (events : List Event) :
    Option (List (Choice σ)) × List Event :=
  match _h : c.step filters count with
  | .finish chosen => (chosen, events)
  | .next c' e => run filters count c' (e :: events)
termination_by c.weight
decreasing_by exact weight_step _h

end Cursor

/-- The first admissible choice among ranked candidates, found on an explicit stack. -/
def search [Score σ] (filters : Filters) (count : Nat) (st : State) (cs : List (Choice σ)) :
    Traced (Option (List (Choice σ))) :=
  let (chosen, events) := (Cursor.start st cs).run filters count []
  ⟨chosen, events.reverse⟩

end ReplicaPlacement.Selection
