/-!
# Lists in key order

A finite map is kept as a list of its members, sorted by a key that each member carries. The three
ways to add a member differ only in what happens when its key is taken.
-/

namespace ReplicaPlacement.Ordered

variable {α κ : Type} [LT κ] [DecidableLT κ] [DecidableEq κ] (key : α → κ)

def Sorted (xs : List α) : Prop := xs.Pairwise (fun a b => key a < key b)

def find? (k : κ) (xs : List α) : Option α := xs.find? (fun x => decide (key x = k))

def contains (k : κ) (xs : List α) : Bool := xs.any (fun x => decide (key x = k))

/-- Adds a member; one that already has its key stays instead. -/
def insert (x : α) : List α → List α
  | [] => [x]
  | y :: ys =>
    if key x < key y then x :: y :: ys
    else if key x = key y then y :: ys
    else y :: insert x ys

/-- Adds a member in place of any that has its key. -/
def put (x : α) : List α → List α
  | [] => [x]
  | y :: ys =>
    if key x < key y then x :: y :: ys
    else if key x = key y then x :: ys
    else y :: put x ys

/-- Changes the member with the key, or adds what `none` becomes if there is none. -/
def alter (k : κ) (f : Option α → α) : List α → List α
  | [] => [f none]
  | y :: ys =>
    if k < key y then f none :: y :: ys
    else if k = key y then f (some y) :: ys
    else y :: alter k f ys

def erase (k : κ) (xs : List α) : List α := xs.filter (fun x => decide (key x ≠ k))

/-- All members of a list; of several with one key the last stays. -/
def ofList (xs : List α) : List α := xs.foldl (fun acc x => put key x acc) []

omit [DecidableLT κ] [DecidableEq κ] in
@[simp] theorem sorted_nil : Sorted key ([] : List α) := List.Pairwise.nil

theorem mem_insert {x y : α} {xs : List α} (h : y ∈ insert key x xs) : y = x ∨ y ∈ xs := by
  induction xs with
  | nil => simpa [insert] using h
  | cons z zs ih =>
    unfold insert at h
    split at h
    · simpa using h
    · split at h
      · exact Or.inr h
      · rcases List.mem_cons.1 h with rfl | h
        · simp
        · rcases ih h with h | h <;> simp [h]

theorem mem_put {x y : α} {xs : List α} (h : y ∈ put key x xs) : y = x ∨ y ∈ xs := by
  induction xs with
  | nil => simpa [put] using h
  | cons z zs ih =>
    unfold put at h
    split at h
    · simpa using h
    · split at h
      · rcases List.mem_cons.1 h with h | h <;> simp [h]
      · rcases List.mem_cons.1 h with rfl | h
        · simp
        · rcases ih h with h | h <;> simp [h]

end ReplicaPlacement.Ordered
