import ReplicaPlacement.Pattern.CharSet

/-!
# Matching

What a pattern matches is a relation between places in a text: a match may lead from one place to
another. The relation of a pattern is put together from those of its parts, each of which is worked
out once, so no pattern makes this slow.
-/

namespace ReplicaPlacement.Pattern

inductive Matcher where
  | empty
  | set (s : CharSet)
  | look (test : Option Char → Option Char → Bool)
  | sequence (first second : Matcher)
  | either (left right : Matcher)
  | repeated (inner : Matcher) (least : Nat) (most : Option Nat)
  | group (inner : Matcher)

/-- For each place of a text the places where a match from there may end, as the bits of a number. -/
abbrev Reach := List Nat

namespace Reach

def identity (places : Nat) : Reach := (List.range places).map fun p => 1 <<< p

def union (r s : Reach) : Reach := List.zipWith (· ||| ·) r s

def image (s : Reach) (from_ : Nat) : Nat :=
  (s.zipIdx.filter fun row => from_.testBit row.2).foldl (fun acc row => acc ||| row.1) 0

def compose (r s : Reach) : Reach := r.map (image s)

def power (r : Reach) : Nat → Reach
  | 0 => identity r.length
  | n + 1 => compose (power r n) r

/-- A relation from `least` up to `most` times. As places are only passed forward, more times than
there are places are no different. -/
def iterate (r : Reach) (least : Nat) (most : Option Nat) : Reach :=
  let optional := union (identity r.length) r
  let extra := ((most.map (· - least)).getD r.length).min r.length
  compose (power r (least.min (r.length + 1))) (power optional extra)

end Reach

namespace Matcher

def neighbours (before : Option Char) : List Char → List (Option Char × Option Char)
  | [] => [(before, none)]
  | c :: cs => (before, some c) :: neighbours (some c) cs

def reach (places : List (Option Char × Option Char)) : Matcher → Reach
  | empty => Reach.identity places.length
  | set s => places.zipIdx.map fun (x, p) => if x.2.any s.has then 1 <<< (p + 1) else 0
  | look test => places.zipIdx.map fun (x, p) => if test x.1 x.2 then 1 <<< p else 0
  | sequence first second => Reach.compose (first.reach places) (second.reach places)
  | either left right => Reach.union (left.reach places) (right.reach places)
  | repeated inner least most => Reach.iterate (inner.reach places) least most
  | group inner => inner.reach places

def matchesIn (m : Matcher) (s : String) : Bool :=
  (m.reach (neighbours none s.toList)).any (· != 0)

/-! ## Size -/

def stepSize : Nat := 32

def choiceSize : Nat := stepSize + 8

def isWidthless : Matcher → Bool
  | empty => true
  | set _ => false
  | look _ => true
  | sequence first second => first.isWidthless && second.isWidthless
  | either left right => left.isWidthless && right.isWidthless
  | repeated inner _ _ => inner.isWidthless
  | group inner => inner.isWidthless

/-- Roughly the bytes of the compiled pattern, in which what is repeated is written out. Repeating
empty stretches changes nothing. -/
def size : Matcher → Nat
  | empty => stepSize
  | set s => 2 * stepSize + 8 * s.asciiRuns + s.wide
  | look _ => stepSize
  | sequence first second => first.size + second.size
  | either left right => left.size + right.size + choiceSize
  | repeated inner least (some most) =>
    if inner.isWidthless then inner.size + choiceSize
    else least * inner.size + (most - least) * (inner.size + choiceSize) + stepSize
  | repeated inner least none =>
    if inner.isWidthless then inner.size + choiceSize
    else max least 1 * inner.size + choiceSize + stepSize
  | group inner => inner.size + 2 * stepSize

def maxSize : Nat := 10 * 1024 * 1024

end Matcher

end ReplicaPlacement.Pattern
