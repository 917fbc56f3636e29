/-!
# Places in a YAML text

Where a reader stands: the characters left, and how many came before, in all and on the line.
-/

namespace ReplicaPlacement.Yaml

def isBreak (c : Char) : Bool :=
  c = '\n' || c = '\r' || c = '\u0085' || c = '\u2028' || c = '\u2029'

def isBlank (c : Char) : Bool := c = ' ' || c = '\t'

def byteOrderMark : Char := '\ufeff'

def isWordChar (c : Char) : Bool := c.isAlphanum || c = '_' || c = '-'

def isAllowed (c : Char) : Bool :=
  let n := c.toNat
  n == 9 || n == 10 || n == 13 || (0x20 ≤ n && n ≤ 0x7E) || n == 0x85 || (0xA0 ≤ n && n ≤ 0xD7FF)
    || (0xE000 ≤ n && n ≤ 0xFFFD) || 0x10000 ≤ n

def endsWord : List Char → Bool
  | [] => true
  | c :: _ => isBlank c || isBreak c

def endsLine : List Char → Bool
  | [] => true
  | c :: _ => isBreak c

def startsDocumentMark : List Char → Bool
  | '-' :: '-' :: '-' :: cs => endsWord cs
  | '.' :: '.' :: '.' :: cs => endsWord cs
  | _ => false

/-- A position: characters before it, lines before it, and characters before it on its line. -/
structure Position where
  index : Nat := 0
  line : Nat := 0
  column : Nat := 0
  deriving DecidableEq, Repr

namespace Position

def advance (p : Position) (n : Nat) : Position :=
  { p with index := p.index + n, column := p.column + n }

def newLine (p : Position) (n : Nat) : Position := ⟨p.index + n, p.line + 1, 0⟩

end Position

structure Place where
  position : Position
  rest : List Char

namespace Place

def skip (p : Place) (n : Nat) : Place := ⟨p.position.advance n, p.rest.drop n⟩

def skipWhile (p : Place) (test : Char → Bool) : Place :=
  p.skip (p.rest.takeWhile test).length

def skipBreak (p : Place) : Place :=
  match p.rest with
  | '\r' :: '\n' :: cs => ⟨p.position.newLine 2, cs⟩
  | c :: cs => if isBreak c then ⟨p.position.newLine 1, cs⟩ else p
  | [] => p

def skipComment (p : Place) : Place :=
  let p := p.skipWhile isBlank
  match p.rest with
  | '#' :: _ => p.skipWhile (!isBreak ·)
  | _ => p

def skipLineEnd? (p : Place) : Option Place :=
  let p := p.skipComment
  if endsLine p.rest then some p.skipBreak else none

end Place

def breakText (c : Char) : Char := if c = '\u2028' || c = '\u2029' then c else '\n'

end ReplicaPlacement.Yaml
