import ReplicaPlacement.Text.Numeral

/-!
# Written decimals

A decimal numeral taken apart into its digits, and two ways to read it as a binary64 number: to the
nearest number, or by scaling a 64-bit significand once.
-/

namespace ReplicaPlacement.Decimal

open Text

structure Written where
  whole : List Char
  fraction : Option (List Char)
  exponent : Option Int
  deriving DecidableEq, Repr

def digitsValue (cs : List Char) : Nat := (readDigits? 10 cs).getD 0

/-- An `e` or `E`, an optional sign and at least one digit. `none` if there is no exponent mark. -/
def takeExponent (cs : List Char) : Option (Option (Int × List Char)) :=
  match cs with
  | c :: cs =>
    if c = 'e' ∨ c = 'E' then
      let (negative, cs) :=
        match cs with
        | '+' :: cs => (false, cs)
        | '-' :: cs => (true, cs)
        | cs => (false, cs)
      let digits := cs.takeWhile Char.isDigit
      if digits.isEmpty then some none
      else
        let n : Int := digitsValue digits
        some (some (if negative then -n else n, cs.dropWhile Char.isDigit))
    else none
  | [] => none

/-- The significand of a numeral as far as 64 bits hold it, and the exponent it is scaled by. Whole
digits that no longer fit raise the exponent; digits of the fraction from the first that does not
fit are dropped. -/
def Written.significand (w : Written) : Nat × Int :=
  let addWhole : Nat × Int × Bool → Char → Nat × Int × Bool := fun (n, e, full) c =>
    let n' := 10 * n + (digitValue? c).getD 0
    if full || n' ≥ UInt64.size then (n, e + 1, true) else (n', e, false)
  let (n, e, _) := w.whole.foldl addWhole (0, 0, false)
  let addFraction : Nat × Int × Bool → Char → Nat × Int × Bool := fun (n, e, full) c =>
    let n' := 10 * n + (digitValue? c).getD 0
    if full || n' ≥ UInt64.size then (n, e, true) else (n', e - 1, false)
  let (n, e, _) := (w.fraction.getD []).foldl addFraction (n, e, false)
  (n, e + w.exponent.getD 0)

def powerOfTen (n : Nat) : Float := Float.ofScientific 1 false n

/-- Divides by powers of ten of at most 1e308 at a time. -/
def scaleDown (fuel : Nat) (x : Float) (n : Nat) : Float :=
  match fuel with
  | 0 => x
  | fuel + 1 =>
    if n ≤ 308 then x / powerOfTen n
    else if x == 0.0 then x
    else scaleDown fuel (x / powerOfTen 308) (n - 308)

def Written.scaled? (w : Written) : Option Float :=
  let (n, e) := w.significand
  let x := (UInt64.ofNat n).toFloat
  if 0 ≤ e then
    if e ≤ 308 then
      let y := x * powerOfTen e.toNat
      if y.isInf then none else some y
    else if x == 0.0 then some x
    else none
  else some (scaleDown ((-e).toNat / 308 + 1) x (-e).toNat)

/-- Above this exponent every number but zero is infinite. -/
def largestExponent : Nat := 400

/-- The nearest binary64 number, which may be infinite. An exponent far out of range is cut short,
which changes nothing but the size of the intermediate numbers. -/
def Written.nearest (w : Written) : Float :=
  let digits := w.whole ++ w.fraction.getD []
  let n := digitsValue digits
  let e : Int := w.exponent.getD 0 - (w.fraction.getD []).length
  if 0 ≤ e then Float.ofScientific n false (min e.toNat largestExponent)
  else Float.ofScientific n true (min (-e).toNat (digits.length + largestExponent))

end ReplicaPlacement.Decimal
