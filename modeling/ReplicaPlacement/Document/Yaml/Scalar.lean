import ReplicaPlacement.Document.Yaml.Place
import ReplicaPlacement.Text.Numeral

/-!
# Scalars of YAML

Texts are written plainly, in quotes, or as blocks of lines. A single break within a plain or quoted
text counts as a space.
-/

namespace ReplicaPlacement.Yaml

open Text

inductive Style where
  | plain
  | singleQuoted
  | doubleQuoted
  | literal
  | folded
  deriving DecidableEq, Repr

structure Gap where
  /-- Blanks before the first break, newest first. -/
  blanks : List Char := []
  broken : Bool := false
  /-- The first break, unless it is escaped. -/
  first : Option Char := none
  more : List Char := []

namespace Gap

def isEmpty (g : Gap) : Bool := g.blanks.isEmpty && !g.broken

def addBlank (g : Gap) (c : Char) : Gap := if g.broken then g else { g with blanks := c :: g.blanks }

def addBreak (g : Gap) (c : Char) : Gap :=
  if g.broken then { g with more := breakText c :: g.more }
  else { broken := true, first := some (breakText c) }

/-- The gap as part of a text, newest character first. -/
def fold (g : Gap) : List Char :=
  if !g.broken then g.blanks
  else
    match g.first with
    | some '\n' => if g.more.isEmpty then [' '] else g.more
    | some c => g.more ++ [c]
    | none => g.more

end Gap

structure Scanned where
  text : List Char
  place : Place
  /-- A break was read after the last part of the text. -/
  broken : Bool := false

/-! ## Plain scalars -/

structure PlainContext where
  inFlow : Bool
  /-- Lines after the first have at least so many characters in front. -/
  indent : Int

def isFlowIndicator (c : Char) : Bool :=
  c = ',' || c = '[' || c = ']' || c = '\x7b' || c = '\x7d'

/-- Inside brackets a colon may not stand directly before one of these. -/
def refusesColon : List Char → Bool
  | [] => false
  | c :: _ => isFlowIndicator c || c = '?'

/-- The text up to where the scalar ends. `acc` is the text so far and `gap` what came after it. -/
def takePlain (ctx : PlainContext) (acc : List Char) (gap : Gap) (pos : Position) :
    List Char → Option Scanned
  | [] => some ⟨acc.reverse, ⟨pos, []⟩, gap.broken⟩
  | '\r' :: '\n' :: cs => takePlain ctx acc (gap.addBreak '\n') (pos.newLine 2) cs
  | c :: cs =>
    if isBreak c then takePlain ctx acc (gap.addBreak c) (pos.newLine 1) cs
    else if isBlank c then
      if gap.broken && pos.column < ctx.indent && c = '\t' then none
      else takePlain ctx acc (gap.addBlank c) (pos.advance 1) cs
    else
      let stop := some ⟨acc.reverse, ⟨pos, c :: cs⟩, gap.broken⟩
      if !gap.isEmpty && !ctx.inFlow && pos.column < ctx.indent then stop
      else if pos.column = 0 && startsDocumentMark (c :: cs) then stop
      else if !gap.isEmpty && c = '#' then stop
      else if ctx.inFlow && c = ':' && refusesColon cs then none
      else if (c = ':' && endsWord cs) || (ctx.inFlow && isFlowIndicator c) then stop
      else takePlain ctx (c :: (gap.fold ++ acc)) {} (pos.advance 1) cs

/-! ## Quoted scalars -/

def takeSingleQuoted (acc : List Char) (gap : Gap) (pos : Position) : List Char → Option Scanned
  | [] => none
  | '\r' :: '\n' :: cs => takeSingleQuoted acc (gap.addBreak '\n') (pos.newLine 2) cs
  | '\'' :: '\'' :: cs => takeSingleQuoted ('\'' :: (gap.fold ++ acc)) {} (pos.advance 2) cs
  | c :: cs =>
    if isBreak c then takeSingleQuoted acc (gap.addBreak c) (pos.newLine 1) cs
    else if isBlank c then takeSingleQuoted acc (gap.addBlank c) (pos.advance 1) cs
    else if pos.column = 0 && startsDocumentMark (c :: cs) then none
    else if c = '\'' then some ⟨(gap.fold ++ acc).reverse, ⟨pos.advance 1, cs⟩, false⟩
    else takeSingleQuoted (c :: (gap.fold ++ acc)) {} (pos.advance 1) cs

def simpleEscape? : Char → Option Char
  | '0' => some '\x00'
  | 'a' => some '\x07'
  | 'b' => some '\x08'
  | 't' => some '\t'
  | '\t' => some '\t'
  | 'n' => some '\n'
  | 'v' => some '\x0b'
  | 'f' => some '\x0c'
  | 'r' => some '\r'
  | 'e' => some '\x1b'
  | ' ' => some ' '
  | '"' => some '"'
  | '/' => some '/'
  | '\\' => some '\\'
  | 'N' => some '\u0085'
  | '_' => some '\u00a0'
  | 'L' => some '\u2028'
  | 'P' => some '\u2029'
  | _ => none

def numberedChar? (digits : List Char) : Option Char :=
  (readDigits? 16 digits).bind fun n => if h : n.isValidChar then some (Char.ofNatAux n h) else none

def takeDoubleQuoted (acc : List Char) (gap : Gap) (pos : Position) : List Char → Option Scanned
  | [] => none
  | '\r' :: '\n' :: cs => takeDoubleQuoted acc (gap.addBreak '\n') (pos.newLine 2) cs
  | '\\' :: '\r' :: '\n' :: cs =>
    takeDoubleQuoted (gap.fold ++ acc) { broken := true } ((pos.advance 1).newLine 2) cs
  | '\\' :: 'x' :: a :: b :: cs =>
    (numberedChar? [a, b]).bind fun c =>
      takeDoubleQuoted (c :: (gap.fold ++ acc)) {} (pos.advance 4) cs
  | '\\' :: 'u' :: a :: b :: c :: d :: cs =>
    (numberedChar? [a, b, c, d]).bind fun c =>
      takeDoubleQuoted (c :: (gap.fold ++ acc)) {} (pos.advance 6) cs
  | '\\' :: 'U' :: a :: b :: c :: d :: e :: f :: g :: h :: cs =>
    (numberedChar? [a, b, c, d, e, f, g, h]).bind fun c =>
      takeDoubleQuoted (c :: (gap.fold ++ acc)) {} (pos.advance 10) cs
  | '\\' :: c :: cs =>
    if isBreak c then
      takeDoubleQuoted (gap.fold ++ acc) { broken := true } ((pos.advance 1).newLine 1) cs
    else
      (simpleEscape? c).bind fun e =>
        takeDoubleQuoted (e :: (gap.fold ++ acc)) {} (pos.advance 2) cs
  | c :: cs =>
    if isBreak c then takeDoubleQuoted acc (gap.addBreak c) (pos.newLine 1) cs
    else if isBlank c then takeDoubleQuoted acc (gap.addBlank c) (pos.advance 1) cs
    else if pos.column = 0 && startsDocumentMark (c :: cs) then none
    else if c = '"' then some ⟨(gap.fold ++ acc).reverse, ⟨pos.advance 1, cs⟩, false⟩
    else takeDoubleQuoted (c :: (gap.fold ++ acc)) {} (pos.advance 1) cs

/-! ## Block scalars -/

inductive Chomping where
  | clip
  | strip
  | keep
  deriving DecidableEq, Repr

structure BlockHeader where
  chomping : Chomping := .clip
  extra : Option Nat := none

def chompingOf? : Char → Option Chomping
  | '+' => some .keep
  | '-' => some .strip
  | _ => none

def extraOf? (c : Char) : Option Nat :=
  if '1' ≤ c ∧ c ≤ '9' then some (c.toNat - '0'.toNat) else none

def takeHeader (p : Place) : Option (BlockHeader × Place) :=
  match p.rest with
  | c :: cs =>
    match chompingOf? c with
    | some chomping =>
      match cs with
      | d :: _ =>
        if d = '0' then none
        else
          match extraOf? d with
          | some n => some (⟨chomping, some n⟩, p.skip 2)
          | none => some (⟨chomping, none⟩, p.skip 1)
      | [] => some (⟨chomping, none⟩, p.skip 1)
    | none =>
      if c = '0' then none
      else
        match extraOf? c with
        | none => some ({}, p)
        | some n =>
          match cs.head?.bind chompingOf? with
          | some chomping => some (⟨chomping, some n⟩, p.skip 2)
          | none => some (⟨.clip, some n⟩, p.skip 1)
  | [] => some ({}, p)

structure Leading where
  place : Place
  /-- The breaks, newest first. -/
  breaks : List Char
  widest : Nat

/-- Skips indentation and empty lines. Indentation goes up to a limit, if one is known. A tab may
not stand in it. -/
def takeLeading (limit : Option Nat) (breaks : List Char) (widest : Nat) (pos : Position) :
    List Char → Option Leading
  | [] => some ⟨⟨pos, []⟩, breaks, max widest pos.column⟩
  | '\r' :: '\n' :: cs => takeLeading limit ('\n' :: breaks) (max widest pos.column) (pos.newLine 2) cs
  | c :: cs =>
    let inIndent := limit.all fun n => pos.column < n
    if c = ' ' && inIndent then takeLeading limit breaks widest (pos.advance 1) cs
    else if c = '\t' && inIndent then none
    else if isBreak c then
      takeLeading limit (breakText c :: breaks) (max widest pos.column) (pos.newLine 1) cs
    else some ⟨⟨pos, c :: cs⟩, breaks, max widest pos.column⟩

structure Lines where
  text : List Char := []
  lastBreak : Option Char := none
  lastBlank : Bool := false

/-- A further line. In a folded block a break between two lines without blanks in front counts as a
space, unless empty lines follow it. -/
def Lines.add (ls : Lines) (folded : Bool) (breaks : List Char) (line : List Char)
    (next : Option Char) : Lines :=
  let startsBlank := line.head?.any isBlank
  let joint :=
    if folded && ls.lastBreak == some '\n' && !ls.lastBlank && !startsBlank then
      if breaks.isEmpty then [' '] else breaks
    else breaks ++ ls.lastBreak.toList
  ⟨line.reverse ++ (joint ++ ls.text), next, startsBlank⟩

def breakAt? (p : Place) : Option Char := p.rest.head?.map breakText

/-- The lines of a block with the given indentation. Every line has a character, so the length of
the rest is fuel enough. -/
def takeLines (fuel : Nat) (folded : Bool) (indent : Nat) (ls : Lines) (l : Leading) :
    Option (Lines × Leading) :=
  match fuel with
  | 0 => none
  | fuel + 1 =>
    if l.place.position.column ≠ indent || l.place.rest.isEmpty then some (ls, l)
    else
      let line := l.place.rest.takeWhile (!isBreak ·)
      let lineEnd := l.place.skip line.length
      let next := lineEnd.skipBreak
      (takeLeading (some indent) [] 0 next.position next.rest).bind fun l' =>
        takeLines fuel folded indent (ls.add folded l.breaks line (breakAt? lineEnd)) l'

/-- A block after its indicator. The indentation of the parent is negative at the top. -/
def takeBlock (folded : Bool) (parent : Int) (p : Place) : Option Scanned := do
  let (header, p) ← takeHeader p
  let p ← p.skipLineEnd?
  let limit := header.extra.map fun n => parent.toNat + n
  let leading ← takeLeading limit [] 0 p.position p.rest
  let indent := limit.getD (max leading.widest (max (parent + 1).toNat 1))
  let (ls, leading) ← takeLines (p.rest.length + 1) folded indent {} leading
  let tail :=
    match header.chomping with
    | .strip => []
    | .clip => ls.lastBreak.toList
    | .keep => leading.breaks ++ ls.lastBreak.toList
  pure ⟨(tail ++ ls.text).reverse, leading.place, false⟩

end ReplicaPlacement.Yaml
