import ReplicaPlacement.Cluster.Basic
import ReplicaPlacement.Decimal.Layout
import ReplicaPlacement.Trace

/-!
# Scores

Higher is better. Placement only adds scores, ranks them and compares sums, so it works with any
type that can do this. The program runs on binary64 numbers.
-/

namespace ReplicaPlacement

class Score (σ : Type) where
  zero : σ
  add : σ → σ → σ
  /-- The sum improves on the best so far, if there is one. -/
  improves : σ → Option σ → Bool
  /-- Nothing up to this bound improves on the best so far. -/
  exhausted : σ → Option σ → Bool
  /-- The first may stand before the second in descending order. -/
  ranks : σ → σ → Bool
  isFinite : σ → Bool
  text : σ → String

namespace Score

def sum {σ : Type} [Score σ] (xs : List σ) : σ := xs.foldl add zero

/-- The place of a binary64 number in the total order of all of them, NaN and both zeros told
apart. -/
def totalRank (x : Float) : Int :=
  let bits := x.toBits.toNat
  if bits < 0x8000000000000000 then bits else 0x7fffffffffffffff - (bits : Int)

/-- Minus infinity stands for the best sum when there is none yet. -/
def bestOr (best : Option Float) : Float := best.getD (-1.0 / 0.0)

instance : Score Float where
  zero := -0.0
  add := (· + ·)
  improves x best := bestOr best < x
  exhausted bound best := bound ≤ bestOr best
  ranks a b := totalRank b ≤ totalRank a
  isFinite := Float.isFinite
  text := Decimal.plain

end Score

structure ScoreFunction (σ : Type) where
  name : String
  score : Pool → σ
  report : Pool → List Event := fun _ => []

inductive ScoreStrategy where
  | mostFreeSpace
  | leastUsed
  | uniform
  deriving DecidableEq, Repr

namespace ScoreStrategy

def all : List ScoreStrategy := [mostFreeSpace, leastUsed, uniform]

def text : ScoreStrategy → String
  | mostFreeSpace => "most-free-space"
  | leastUsed => "least-used"
  | uniform => "uniform"

instance : ToString ScoreStrategy := ⟨text⟩

instance : ToValue ScoreStrategy := ⟨fun s => .text s.text⟩

instance : FromDocument ScoreStrategy := ⟨variantAmong? text all⟩

def parse (s : String) : Except String ScoreStrategy :=
  let lower := String.ofList (s.toList.map Char.toLower)
  match all.find? fun strategy => strategy.text == lower with
  | some strategy => .ok strategy
  | none =>
    .error s!"Unknown score strategy '{lower}', expected most-free-space, least-used or uniform"

def freeScore (p : Pool) : Float := p.knownFree.toFloat

def shareScore (p : Pool) : Float :=
  match p.freeSpace, p.totalCapacity with
  | some free, some capacity =>
    if capacity = 0 then 0.0
    else
      let share := free.toFloat / capacity.toFloat * 100.0
      if 100.0 < share then 100.0 else share
  | _, _ => 0.0

def function : ScoreStrategy → ScoreFunction Float
  | mostFreeSpace => {
      name := "MostFreeSpace"
      score := freeScore
      report := fun p =>
        [⟨.trace, fun _ => s!"{p.describe} score: {Score.text (freeScore p)} (free KiB)"⟩] }
  | leastUsed => {
      name := "LeastUsed"
      score := shareScore
      report := fun p =>
        [⟨.trace, fun _ => s!"{p.describe} score: {Decimal.onePlace (shareScore p)} (% free)"⟩] }
  | uniform => { name := "Uniform", score := fun _ => 1.0 }

end ScoreStrategy

end ReplicaPlacement
