/-!
# Shortest decimals

The decimal with the fewest digits that reads back as a given binary64 number, the nearest of them
if there are several. All arithmetic is on natural numbers.
-/

namespace ReplicaPlacement.Decimal

/-- The number `digits * 10 ^ exponent`, without trailing zeros unless it is zero. -/
structure Scaled where
  digits : Nat
  exponent : Int
  deriving DecidableEq, Repr

structure Binary where
  mantissa : Nat
  exponent : Int
  /-- The next number below is only half a step away. -/
  atPowerOfTwo : Bool
  deriving DecidableEq, Repr

def hiddenBit : Nat := 0x10000000000000

/-- Sign, and the magnitude unless it is zero. Meaningless for infinities and NaN. -/
def Binary.ofFloat (x : Float) : Bool × Option Binary :=
  let bits := x.toBits.toNat
  let fraction : Nat := bits % hiddenBit
  let biased : Nat := bits / hiddenBit % 0x800
  let negative := decide (0x8000000000000000 ≤ bits)
  if biased = 0 then
    (negative, if fraction = 0 then none else some ⟨fraction, -1074, false⟩)
  else
    (negative, some ⟨hiddenBit + fraction, (biased : Int) - 1075, fraction = 0 && biased > 1⟩)

structure Ratio where
  num : Nat
  den : Nat

def Ratio.scale (n base : Nat) (e : Int) : Ratio :=
  if 0 ≤ e then ⟨n * Nat.pow base e.toNat, 1⟩ else ⟨n, Nat.pow base (-e).toNat⟩

def Ratio.lt (a b : Ratio) : Bool := a.num * b.den < b.num * a.den

def Ratio.le (a b : Ratio) : Bool := a.num * b.den ≤ b.num * a.den

structure Interval where
  low : Ratio
  high : Ratio
  closed : Bool

def Binary.interval (b : Binary) : Interval where
  low := .scale (4 * b.mantissa - if b.atPowerOfTwo then 1 else 2) 2 (b.exponent - 2)
  high := .scale (4 * b.mantissa + 2) 2 (b.exponent - 2)
  closed := b.mantissa % 2 = 0

def Interval.contains (i : Interval) (r : Ratio) : Bool :=
  if i.closed then i.low.le r && r.le i.high else i.low.lt r && r.lt i.high

def digitCount (n : Nat) : Nat := (Nat.toDigits 10 n).length

/-- The exponent `k` with `10 ^ (k - 1) ≤ r < 10 ^ k`. -/
def Ratio.magnitude (r : Ratio) : Int :=
  if r.den ≤ r.num then digitCount (r.num / r.den)
  else 1 - digitCount ((r.den - 1) / r.num)

def gridPoint? (value : Ratio) (i : Interval) (e : Int) : Option Nat :=
  let unit := Ratio.scale 1 10 e
  let scaledNum := value.num * unit.den
  let scaledDen := value.den * unit.num
  let below := scaledNum / scaledDen
  let rest := scaledNum % scaledDen
  let hit (n : Nat) : Bool := i.contains (.scale n 10 e)
  match hit below, hit (below + 1) with
  | true, true =>
    if 2 * rest < scaledDen || (2 * rest = scaledDen && below % 2 = 0) then some below
    else some (below + 1)
  | true, false => some below
  | false, true => some (below + 1)
  | false, false => none

def Scaled.normalize (fuel : Nat) (d : Scaled) : Scaled :=
  match fuel with
  | 0 => d
  | fuel + 1 =>
    if d.digits ≠ 0 ∧ d.digits % 10 = 0 then normalize fuel ⟨d.digits / 10, d.exponent + 1⟩ else d

/-- Tries grids of one digit, two digits and so on. Seventeen digits always suffice. -/
def Binary.shortest (b : Binary) : Scaled :=
  let value := Ratio.scale b.mantissa 2 b.exponent
  let top := value.magnitude
  let withDigits (count : Nat) : Option Scaled :=
    (gridPoint? value b.interval (top - count)).map fun n => ⟨n, top - count⟩
  ((((List.range 17).map (· + 1)).findSome? withDigits).getD ⟨0, 0⟩).normalize 20

def roundHalfEven (num den : Nat) : Nat :=
  let below := num / den
  let rest := num % den
  if 2 * rest < den || (2 * rest = den && below % 2 = 0) then below else below + 1

end ReplicaPlacement.Decimal
