import ReplicaPlacement.Pattern.Property
import ReplicaPlacement.Pattern.Syntax

/-!
# Sets of characters

What classes of a pattern stand for. The sets are exact on ASCII, which is all that names are made
of, and on the two characters beyond it that differ from an ASCII letter in case alone.
-/

namespace ReplicaPlacement.Pattern

structure CharSet where
  has : Char → Bool
  /-- Roughly the bytes that the members beyond ASCII take in a compiled pattern. -/
  wide : Nat := 0

namespace CharSet

def empty : CharSet := ⟨fun _ => false, 0⟩

def wholeWidth : Nat := 400

def any : CharSet := ⟨fun _ => true, wholeWidth⟩

def range (low high : Char) : CharSet :=
  ⟨fun c => low ≤ c && c ≤ high, if high.toNat < 0x80 then 0 else 80⟩

def singleton (c : Char) : CharSet := range c c

def ofRanges (rs : List (Nat × Nat)) (wide : Nat) : CharSet :=
  ⟨fun c => rs.any fun (a, b) => a ≤ c.toNat && c.toNat ≤ b, wide⟩

def union (s t : CharSet) : CharSet := ⟨fun c => s.has c || t.has c, s.wide + t.wide⟩

def unionAll (ss : List CharSet) : CharSet := ss.foldl union empty

def complement (s : CharSet) : CharSet :=
  ⟨fun c => !s.has c, if s.wide = 0 then wholeWidth else s.wide⟩

def combine (s t : CharSet) : SetOperator → CharSet
  | .intersection => ⟨fun c => s.has c && t.has c, min s.wide t.wide⟩
  | .difference => ⟨fun c => s.has c && !t.has c, s.wide⟩
  | .symmetricDifference => ⟨fun c => s.has c != t.has c, s.wide + t.wide⟩

def longS : Char := '\u017f'

def kelvin : Char := '\u212a'

def caseVariants (c : Char) : List Char :=
  if c = 'k' then ['K', kelvin]
  else if c = 'K' then ['k', kelvin]
  else if c = kelvin then ['k', 'K']
  else if c = 's' then ['S', longS]
  else if c = 'S' then ['s', longS]
  else if c = longS then ['s', 'S']
  else if c.isUpper then [c.toLower]
  else if c.isLower then [c.toUpper]
  else []

/-- Closed under case, with bytes for the members beyond ASCII that this adds. -/
def fold (s : CharSet) : CharSet where
  has c := s.has c || (caseVariants c).any s.has
  wide := s.wide + if s.has 'k' || s.has 'K' || s.has 's' || s.has 'S' then 80 else 0

def foldAscii (s : CharSet) : CharSet where
  has c := s.has c || (c.toNat < 0x80 && (caseVariants c).any fun d => d.toNat < 0x80 && s.has d)
  wide := s.wide

/-! ## Named sets -/

def digit : CharSet := ⟨Char.isDigit, 0⟩

def isSpace (c : Char) : Bool := (9 ≤ c.toNat && c.toNat ≤ 13) || c = ' '

def isWord (c : Char) : Bool := c.isAlphanum || c = '_'

def isGraph (c : Char) : Bool := 0x21 ≤ c.toNat && c.toNat ≤ 0x7E

def ofShort : ShortClass → CharSet
  | .digit => ⟨Char.isDigit, 7000⟩
  | .space => ⟨isSpace, 600⟩
  | .word => ⟨fun c => isWord c || c = longS || c = kelvin, 48000⟩

def ofShortAscii : ShortClass → CharSet
  | .digit => digit
  | .space => ⟨isSpace, 0⟩
  | .word => ⟨isWord, 0⟩

def ofAsciiName (name : String) : CharSet :=
  match name with
  | "alnum" => ⟨Char.isAlphanum, 0⟩
  | "alpha" => ⟨Char.isAlpha, 0⟩
  | "ascii" => ⟨fun c => c.toNat < 0x80, 0⟩
  | "blank" => ⟨fun c => c = '\t' || c = ' ', 0⟩
  | "cntrl" => ⟨fun c => c.toNat < 0x20 || c.toNat = 0x7F, 0⟩
  | "digit" => digit
  | "graph" => ⟨isGraph, 0⟩
  | "lower" => ⟨Char.isLower, 0⟩
  | "print" => ⟨fun c => isGraph c || c = ' ', 0⟩
  | "punct" => ⟨fun c => isGraph c && !c.isAlphanum, 0⟩
  | "space" => ⟨isSpace, 0⟩
  | "upper" => ⟨Char.isUpper, 0⟩
  | "word" => ⟨isWord, 0⟩
  | "xdigit" =>
    ⟨fun c => c.isDigit || ('a' ≤ c && c ≤ 'f') || ('A' ≤ c && c ≤ 'F'), 0⟩
  | _ => empty

def ofProperty? (name : String) (value : Option String) : Option CharSet :=
  (Property.find? name value).map fun p =>
    let s := ofRanges p.members 0
    { s with wide := if s.has longS || s.has kelvin then 45000 else 3000 }

def asciiRuns (s : CharSet) : Nat :=
  ((List.range 0x80).filter fun n =>
    s.has (Char.ofNat n) && (n == 0 || !s.has (Char.ofNat (n - 1)))).length

end CharSet

end ReplicaPlacement.Pattern
