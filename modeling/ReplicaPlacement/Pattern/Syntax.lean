/-!
# Pattern syntax

The parts of a regular expression as they are written. What they match depends on flags, which a
pattern may change on its way.
-/

namespace ReplicaPlacement.Pattern

inductive Flag where
  | ignoreCase
  | multiLine
  | dotAll
  | swapGreed
  | unicode
  | crlf
  | ignoreBlanks
  deriving DecidableEq, Repr

def Flag.ofChar? : Char → Option Flag
  | 'i' => some ignoreCase
  | 'm' => some multiLine
  | 's' => some dotAll
  | 'U' => some swapGreed
  | 'u' => some unicode
  | 'R' => some crlf
  | 'x' => some ignoreBlanks
  | _ => none

/-- Flags that are switched on or off, each at most once. -/
abbrev FlagChanges := List (Flag × Bool)

structure Literal where
  char : Char
  /-- Written with two hexadecimal digits, which may stand for a byte. -/
  byte : Bool := false
  deriving DecidableEq, Repr

inductive Look where
  | textStart
  | textEnd
  | lineStart
  | lineEnd
  | wordBoundary
  | notWordBoundary
  | wordStart
  | wordEnd
  | wordStartHalf
  | wordEndHalf
  deriving DecidableEq, Repr

inductive ShortClass where
  | digit
  | space
  | word
  deriving DecidableEq, Repr

inductive SetOperator where
  | intersection
  | difference
  | symmetricDifference
  deriving DecidableEq, Repr

inductive ClassExpr where
  | none
  | literal (l : Literal)
  | range (low high : Literal)
  | short (c : ShortClass) (negated : Bool)
  | ascii (name : String) (negated : Bool)
  /-- A Unicode property, with the value it must have unless it is a yes or no property. -/
  | property (name : String) (value : Option String) (negated : Bool)
  | bracketed (negated : Bool) (inner : ClassExpr)
  | union (items : List ClassExpr)
  | combine (op : SetOperator) (left right : ClassExpr)

inductive Node where
  | empty
  /-- Changes flags up to the end of the group. -/
  | flags (changes : FlagChanges)
  | literal (l : Literal)
  | dot
  | look (l : Look)
  | single (c : ClassExpr)
  | repeated (inner : Node) (least : Nat) (most : Option Nat)
  | group (changes : FlagChanges) (inner : Node)
  | alternation (branches : List Node)
  | sequence (items : List Node)

namespace ClassExpr

def ofItems : List ClassExpr → ClassExpr
  | [] => none
  | [c] => c
  | cs => union cs

mutual

def depth : ClassExpr → Nat
  | bracketed _ inner => inner.depth + 1
  | union items => deepest items + 1
  | combine _ left right => max left.depth right.depth + 1
  | _ => 0

def deepest : List ClassExpr → Nat
  | [] => 0
  | c :: cs => max c.depth (deepest cs)

end

end ClassExpr

namespace Node

def ofItems : List Node → Node
  | [] => empty
  | [n] => n
  | ns => sequence ns

def ofBranches : List Node → Node
  | [] => empty
  | [n] => n
  | ns => alternation ns

mutual

def depth : Node → Nat
  | single c => c.depth
  | repeated inner _ _ => inner.depth + 1
  | group _ inner => inner.depth + 1
  | alternation branches => deepest branches + 1
  | sequence items => deepest items + 1
  | _ => 0

def deepest : List Node → Nat
  | [] => 0
  | n :: ns => max n.depth (deepest ns)

end

end Node

end ReplicaPlacement.Pattern
