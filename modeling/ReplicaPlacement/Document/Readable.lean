import ReplicaPlacement.Document.Value

/-!
# Reading typed data

A document node answers questions of the kind "which text are you?", "which fields do you have?".
Typed data is read through these questions alone, so one reader per type serves every format.
-/

namespace ReplicaPlacement

class Readable (ν : Type) where
  text? : ν → Option String
  bool? : ν → Option Bool
  nat? : ν → Option Nat
  real? : ν → Option Float
  /-- What the node is as an optional member, which a null leaves out. -/
  optional? : ν → Option (Option ν)
  items? : ν → Option (List ν)
  entries? : ν → Option (List (String × ν))
  /-- Members of a record by position, where a format allows that. -/
  positional? : ν → Option (List ν)
  variant? : ν → Option String

class FromDocument (α : Type) where
  read? : {ν : Type} → [Readable ν] → ν → Option α

structure Fields (ν : Type) where
  members : List (String × ν)
  /-- Given by position. An optional field may then not be left out, unless it has a default. -/
  positional : Bool

namespace Fields

variable {ν : Type} [Readable ν] {α : Type} [FromDocument α]

/-- The fields of a record. Unknown names are skipped; a known name may come once only. -/
def of? (names : List String) (v : ν) : Option (Fields ν) :=
  match Readable.entries? v with
  | some entries =>
    let known := entries.filter fun e => names.contains e.1
    if (known.map (·.1)).Nodup then some ⟨known, false⟩ else none
  | none =>
    (Readable.positional? v).bind fun items =>
      if items.length ≤ names.length then some ⟨names.zip items, true⟩ else none

def find? (fs : Fields ν) (name : String) : Option ν := fs.members.lookup name

def required (fs : Fields ν) (name : String) : Option α :=
  (fs.find? name).bind FromDocument.read?

def defaulted (fs : Fields ν) (name : String) (value : α) : Option α :=
  match fs.find? name with
  | none => some value
  | some v => FromDocument.read? v

end Fields

instance : FromDocument String := ⟨Readable.text?⟩

instance : FromDocument Bool := ⟨Readable.bool?⟩

instance : FromDocument Float := ⟨Readable.real?⟩

def readBelow? {ν : Type} [Readable ν] (bound : Nat) (v : ν) : Option Nat :=
  (Readable.nat? v).bind fun n => if n < bound then some n else none

instance : FromDocument UInt64 := ⟨fun v => (readBelow? UInt64.size v).map UInt64.ofNat⟩

instance : FromDocument UInt32 := ⟨fun v => (readBelow? UInt32.size v).map UInt32.ofNat⟩

instance {α : Type} [FromDocument α] : FromDocument (Option α) where
  read? v :=
    (Readable.optional? v).bind fun
      | none => some none
      | some v => (FromDocument.read? v).map some

/-- A field that may be null, and left out of a record with names. -/
def Fields.nullable {ν : Type} [Readable ν] {α : Type} [FromDocument α] (fs : Fields ν)
    (name : String) : Option (Option α) :=
  match fs.find? name with
  | none => if fs.positional then none else some none
  | some v => FromDocument.read? v

instance {α : Type} [FromDocument α] : FromDocument (List α) where
  read? v := (Readable.items? v).bind fun items => items.mapM FromDocument.read?

def variantAmong? {ν α : Type} [Readable ν] (name : α → String) (all : List α) (v : ν) : Option α :=
  (Readable.variant? v).bind fun s => all.find? fun a => name a == s

namespace Value

def toReal? : Value → Option Float
  | .nat n => some (UInt64.ofNat n).toFloat
  | .negative n => some (-(UInt64.ofNat n).toFloat)
  | .real x => some x
  | _ => none

instance : Readable Value where
  text?
    | .text s => some s
    | _ => none
  bool?
    | .bool b => some b
    | _ => none
  nat?
    | .nat n => some n
    | _ => none
  real? := toReal?
  optional?
    | .null => some none
    | v => some (some v)
  items?
    | .list items => some items
    | _ => none
  entries?
    | .record fields => some fields
    | _ => none
  positional?
    | .list items => some items
    | _ => none
  variant?
    | .text s => some s
    | .record [(name, .null)] => some name
    | _ => none

end Value

end ReplicaPlacement
