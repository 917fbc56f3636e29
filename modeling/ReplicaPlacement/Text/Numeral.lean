/-!
# Written natural numbers

Digits in a base, most significant first, read to a natural number of any size.
-/

namespace ReplicaPlacement.Text

def digitValue? (c : Char) : Option Nat :=
  if '0' ≤ c ∧ c ≤ '9' then some (c.toNat - '0'.toNat)
  else if 'a' ≤ c ∧ c ≤ 'f' then some (c.toNat - 'a'.toNat + 10)
  else if 'A' ≤ c ∧ c ≤ 'F' then some (c.toNat - 'A'.toNat + 10)
  else none

def digitInBase? (base : Nat) (c : Char) : Option Nat :=
  (digitValue? c).bind fun d => if d < base then some d else none

def readDigits? (base : Nat) : List Char → Option Nat
  | [] => none
  | cs => cs.foldlM (fun n c => (digitInBase? base c).map (base * n + ·)) 0

def readNat? : List Char → Option Nat
  | '+' :: cs => readDigits? 10 cs
  | cs => readDigits? 10 cs

def hexDigit (d : Nat) : Char :=
  if d < 10 then Char.ofNat ('0'.toNat + d) else Char.ofNat ('a'.toNat + (d - 10))

def hexDigits : (width n : Nat) → List Char
  | 0, _ => []
  | w + 1, n => hexDigits w (n / 16) ++ [hexDigit (n % 16)]

def hex (n : Nat) : List Char :=
  match (hexDigits (n.log2 / 4 + 1) n).dropWhile (· == '0') with
  | [] => ['0']
  | ds => ds

end ReplicaPlacement.Text
