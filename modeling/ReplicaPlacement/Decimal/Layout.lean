import ReplicaPlacement.Decimal.Shortest

/-!
# Decimal texts

How numbers are written: with an exponent where positional digits would be long, or in plain digits
always, or with a fixed number of places.
-/

namespace ReplicaPlacement.Decimal

structure ExponentStyle where
  plusSign : Bool
  nan : String
  infinity : String

def zeros (n : Nat) : String := String.ofList (List.replicate n '0')

def pointAfter (n : Nat) (digits : String) : String :=
  String.ofList (digits.toList.take n) ++ "." ++ String.ofList (digits.toList.drop n)

def minus (negative : Bool) : String := if negative then "-" else ""

/-- Positional from 1e-5 up to below 1e16, always with a point; an exponent outside. -/
def ExponentStyle.magnitude (style : ExponentStyle) (d : Scaled) : String :=
  let digits := toString d.digits
  let point : Int := digits.length + d.exponent
  if 0 ≤ d.exponent ∧ point ≤ 16 then digits ++ zeros d.exponent.toNat ++ ".0"
  else if 0 < point ∧ point ≤ 16 then pointAfter point.toNat digits
  else if -5 < point ∧ point ≤ 0 then "0." ++ zeros (-point).toNat ++ digits
  else
    let exponent := point - 1
    let sign := if 0 ≤ exponent && style.plusSign then "+" else ""
    let first := if digits.length = 1 then digits else pointAfter 1 digits
    first ++ "e" ++ sign ++ toString exponent

def ExponentStyle.render (style : ExponentStyle) (x : Float) : String :=
  if x.isNaN then style.nan
  else
    let (negative, binary) := Binary.ofFloat x
    if x.isInf then minus negative ++ style.infinity
    else minus negative ++
      match binary with
      | none => "0.0"
      | some b => style.magnitude b.shortest

def plain (x : Float) : String :=
  if x.isNaN then "NaN"
  else
    let (negative, binary) := Binary.ofFloat x
    if x.isInf then minus negative ++ "inf"
    else minus negative ++
      match binary with
      | none => "0"
      | some b =>
        let d := b.shortest
        let digits := toString d.digits
        let point : Int := digits.length + d.exponent
        if 0 ≤ d.exponent then digits ++ zeros d.exponent.toNat
        else if 0 < point then pointAfter point.toNat digits
        else "0." ++ zeros (-point).toNat ++ digits

def onePlace (x : Float) : String :=
  if x.isNaN then "NaN"
  else
    let (negative, binary) := Binary.ofFloat x
    if x.isInf then minus negative ++ "inf"
    else
      let tenths :=
        match binary with
        | none => 0
        | some b =>
          let r := Ratio.scale (10 * b.mantissa) 2 b.exponent
          roundHalfEven r.num r.den
      minus negative ++ toString (tenths / 10) ++ "." ++ toString (tenths % 10)

end ReplicaPlacement.Decimal
