/-!
# UTF-8

Text as bytes. Decoding never fails: what is no UTF-8 is reported piece by piece, each piece as long
as a valid character could have begun with it.
-/

namespace ReplicaPlacement

abbrev Bytes := List UInt8

namespace Utf8

def byte (n : Nat) : UInt8 := UInt8.ofNat n

def tail (n : Nat) : UInt8 := byte (0x80 + n % 0x40)

def encodeChar (c : Char) : Bytes :=
  let n := c.toNat
  if n < 0x80 then [byte n]
  else if n < 0x800 then [byte (0xC0 + n / 0x40), tail n]
  else if n < 0x10000 then [byte (0xE0 + n / 0x1000), tail (n / 0x40), tail n]
  else [byte (0xF0 + n / 0x40000), tail (n / 0x1000), tail (n / 0x40), tail n]

def encode (s : String) : Bytes := s.toList.flatMap encodeChar

def isTail (b : UInt8) : Bool := 0x80 ≤ b && b < 0xC0

/-- The second bytes that may follow a first byte of a longer sequence. -/
def isSecond (first b : UInt8) : Bool :=
  if first == 0xE0 then 0xA0 ≤ b && b < 0xC0
  else if first == 0xED then 0x80 ≤ b && b < 0xA0
  else if first == 0xF0 then 0x90 ≤ b && b < 0xC0
  else if first == 0xF4 then 0x80 ≤ b && b < 0x90
  else isTail b

def join (first : Nat) (rest : List UInt8) : Char :=
  Char.ofNat (rest.foldl (fun n b => n * 0x40 + b.toNat % 0x40) first)

/-- Characters, with `none` for each piece that is no UTF-8. -/
def decode : Bytes → List (Option Char)
  | [] => []
  | a :: rest =>
    if a < 0x80 then some (Char.ofNat a.toNat) :: decode rest
    else if a < 0xC2 || 0xF4 < a then none :: decode rest
    else
      match rest with
      | [] => [none]
      | b :: rest =>
        if !isSecond a b then none :: decode (b :: rest)
        else if a < 0xE0 then some (join (a.toNat % 0x20) [b]) :: decode rest
        else
          match rest with
          | [] => [none]
          | c :: rest =>
            if !isTail c then none :: decode (c :: rest)
            else if a < 0xF0 then some (join (a.toNat % 0x10) [b, c]) :: decode rest
            else
              match rest with
              | [] => [none]
              | d :: rest =>
                if !isTail d then none :: decode (d :: rest)
                else some (join (a.toNat % 0x08) [b, c, d]) :: decode rest

def text? (bs : Bytes) : Option String := ((decode bs).mapM id).map String.ofList

def lossy (bs : Bytes) : String := String.ofList ((decode bs).map fun c => c.getD '\ufffd')

end Utf8

end ReplicaPlacement
