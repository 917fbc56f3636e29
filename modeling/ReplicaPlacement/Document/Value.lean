/-!
# Structured values

What a JSON text denotes and what a JSON or YAML text is written from.
-/

namespace ReplicaPlacement

/-- A structured value. Integers and other numbers are told apart by how they are written. -/
inductive Value where
  | null
  | bool (b : Bool)
  | nat (n : Nat)
  /-- The integer `-n`, for positive `n`. -/
  | negative (n : Nat)
  | real (x : Float)
  | text (s : String)
  | list (items : List Value)
  | record (fields : List (String × Value))
  /-- Well-formed text that denotes no value: a number out of range or half a surrogate pair. It
  may stand where nothing reads it. -/
  | unreadable
  deriving Inhabited

class ToValue (α : Type) where
  toValue : α → Value

export ToValue (toValue)

namespace Value

def ofOption {α : Type} (f : α → Value) : Option α → Value
  | none => .null
  | some x => f x

end Value

instance : ToValue Bool := ⟨.bool⟩

instance : ToValue String := ⟨.text⟩

instance : ToValue UInt64 := ⟨fun n => .nat n.toNat⟩

instance : ToValue UInt32 := ⟨fun n => .nat n.toNat⟩

instance : ToValue Float := ⟨.real⟩

instance {α : Type} [ToValue α] : ToValue (Option α) := ⟨Value.ofOption toValue⟩

instance {α : Type} [ToValue α] : ToValue (List α) := ⟨fun xs => .list (xs.map toValue)⟩

end ReplicaPlacement
