/-!
# Object names

Nodes, storage pools and resources are named alike: two to forty-eight characters, a letter first,
then letters, digits, `_` or `-`. The spelling is kept for display. Two spellings that differ only
in letter case name the same object, so every comparison goes through `Name.key`.
-/

namespace ReplicaPlacement

inductive NameKind where
  | node
  | storagePool
  | resource
  deriving DecidableEq, Repr

def NameKind.text : NameKind → String
  | .node => "node"
  | .storagePool => "storage pool"
  | .resource => "resource"

namespace Name

def minLength : Nat := 2

def maxLength : Nat := 48

def isInner (c : Char) : Bool := c.isAlphanum || c == '_' || c == '-'

/-- The naming rule. Valid characters are single bytes, so length in characters is length in bytes. -/
def isValid : List Char → Bool
  | [] => false
  | c :: cs =>
    c.isAlpha && cs.all isInner
      && decide (minLength ≤ cs.length + 1) && decide (cs.length + 1 ≤ maxLength)

end Name

structure Name (kind : NameKind) where
  text : String
  valid : Name.isValid text.toList = true
  deriving DecidableEq

abbrev NodeName := Name .node

abbrev PoolName := Name .storagePool

abbrev ResourceName := Name .resource

namespace Name

variable {kind : NameKind}

def ofString? (kind : NameKind) (s : String) : Option (Name kind) :=
  if h : isValid s.toList = true then some ⟨s, h⟩ else none

def upper (s : String) : String := String.ofList (s.toList.map Char.toUpper)

/-- The identity of the object named: the spelling in upper case. -/
def key (n : Name kind) : String := upper n.text

def same (a b : Name kind) : Bool := a.key == b.key

def order (a b : Name kind) : Ordering := compare a.key b.key

@[simp] theorem ofString?_text (n : Name kind) : ofString? kind n.text = some n := by
  simp [ofString?, n.valid]

theorem text_of_ofString? {s : String} {n : Name kind} (h : ofString? kind s = some n) :
    n.text = s := by
  unfold ofString? at h
  split at h
  · cases h; rfl
  · cases h

theorem same_iff {a b : Name kind} : a.same b = true ↔ a.key = b.key := by simp [same]

end Name

instance (kind : NameKind) : ToString (Name kind) := ⟨Name.text⟩

end ReplicaPlacement
