import ReplicaPlacement.Document.Yaml.Token

/-!
# Division of YAML into tokens

Indentation and simple keys decide where collections start and end. A simple key is recognised by
the colon after it, so the tokens for it are put in front of it afterwards. It lies on one line, and
the colon follows within 1024 characters.
-/

namespace ReplicaPlacement.Yaml

structure SimpleKey where
  number : Nat
  position : Position
  /-- Nothing else can stand there, so there must be a colon. -/
  required : Bool

def maxKeyLength : Nat := 1024

structure Lexer where
  place : Place
  tokens : List Token := []
  /-- The column of the innermost block collection, or -1 outside of all. -/
  indent : Int := -1
  outer : List Int := []
  /-- For each level of brackets and braces, and the level outside, the key that may have started
  there, innermost first. -/
  keys : List (Option SimpleKey) := [none]
  keyAllowed : Bool := true

namespace Lexer

def flowDepth (l : Lexer) : Nat := l.keys.length - 1

def inFlow (l : Lexer) : Bool := 0 < l.flowDepth

def column (l : Lexer) : Int := l.place.position.column

def push (l : Lexer) (t : Token) : Lexer := { l with tokens := t :: l.tokens }

def insertAt (l : Lexer) (number : Nat) (t : Token) : Lexer :=
  let later := l.tokens.length - number
  { l with tokens := l.tokens.take later ++ t :: l.tokens.drop later }

def skip (l : Lexer) (n : Nat) : Lexer := { l with place := l.place.skip n }

/-! ## Simple keys -/

def dropKey? : Option SimpleKey → Option (Option SimpleKey)
  | none => some none
  | some k => if k.required then none else some none

def removeKey (l : Lexer) : Option Lexer :=
  match l.keys with
  | [] => some l
  | k :: ks => (dropKey? k).map fun k => { l with keys := k :: ks }

def refreshKey (p : Position) : Option SimpleKey → Option (Option SimpleKey)
  | none => some none
  | some k =>
    if k.position.line < p.line || k.position.index + maxKeyLength < p.index then dropKey? (some k)
    else some (some k)

def refreshKeys (l : Lexer) : Option Lexer :=
  (l.keys.mapM (refreshKey l.place.position)).map fun ks => { l with keys := ks }

def saveKey (l : Lexer) : Option Lexer :=
  if !l.keyAllowed then some l
  else
    let required := !l.inFlow && l.indent == l.column
    l.removeKey.map fun l =>
      { l with keys := some ⟨l.tokens.length, l.place.position, required⟩ :: l.keys.tail }

/-! ## Indentation -/

def roll (l : Lexer) (column : Int) (number : Nat) (t : Token) : Lexer :=
  if l.inFlow || column ≤ l.indent then l
  else { l.insertAt number t with indent := column, outer := l.indent :: l.outer }

def unrollTo (column : Int) (tokens : List Token) (indent : Int) :
    List Int → List Token × Int × List Int
  | [] => (tokens, indent, [])
  | i :: is =>
    if column < indent then unrollTo column (.blockEnd :: tokens) i is
    else (tokens, indent, i :: is)

def unroll (l : Lexer) (column : Int) : Lexer :=
  if l.inFlow then l
  else
    let (tokens, indent, outer) := unrollTo column l.tokens l.indent l.outer
    { l with tokens, indent, outer }

/-! ## Between tokens -/

/-- Blanks, comments and breaks before the next token. In block context a key may start on each new
line, and no tab may stand where one may start. -/
def takeGap (inFlow allowed inComment : Bool) (pos : Position) : List Char → Bool × Place
  | [] => (allowed, ⟨pos, []⟩)
  | '\r' :: '\n' :: cs => takeGap inFlow (allowed || !inFlow) false (pos.newLine 2) cs
  | c :: cs =>
    if isBreak c then takeGap inFlow (allowed || !inFlow) false (pos.newLine 1) cs
    else if inComment || c = ' ' || c = '#' || (c = '\t' && (inFlow || !allowed))
        || (c = byteOrderMark && pos.column = 0) then
      takeGap inFlow allowed (inComment || c = '#') (pos.advance 1) cs
    else (allowed, ⟨pos, c :: cs⟩)

def skipGap (l : Lexer) : Lexer :=
  let (keyAllowed, place) := takeGap l.inFlow l.keyAllowed false l.place.position l.place.rest
  { l with keyAllowed, place }

/-! ## Single tokens -/

def endBlocks (l : Lexer) : Option Lexer :=
  (l.unroll (-1)).removeKey.map fun l => { l with keyAllowed := false }

def readDirective (l : Lexer) : Option Lexer := do
  let l ← l.endBlocks
  let (t, place) ← takeDirective l.place
  pure ({ l with place }.push t)

def readDocumentMark (l : Lexer) (t : Token) : Option Lexer :=
  l.endBlocks.map fun l => (l.push t).skip 3

def readFlowStart (l : Lexer) (t : Token) : Option Lexer :=
  l.saveKey.map fun l => { (l.push t).skip 1 with keys := none :: l.keys, keyAllowed := true }

def readFlowEnd (l : Lexer) (t : Token) : Option Lexer :=
  l.removeKey.map fun l =>
    { (l.push t).skip 1 with
      keys := if l.inFlow then l.keys.tail else l.keys
      keyAllowed := false }

def readFlowEntry (l : Lexer) : Option Lexer :=
  l.removeKey.map fun l => { (l.push .flowEntry).skip 1 with keyAllowed := true }

def readBlockEntry (l : Lexer) : Option Lexer := do
  if !l.inFlow && !l.keyAllowed then none
  let l ← (l.roll l.column l.tokens.length .blockSequenceStart).removeKey
  pure { (l.push .blockEntry).skip 1 with keyAllowed := true }

def readKey (l : Lexer) : Option Lexer := do
  if !l.inFlow && !l.keyAllowed then none
  let l ← (l.roll l.column l.tokens.length .blockMappingStart).removeKey
  pure { (l.push .key).skip 1 with keyAllowed := !l.inFlow }

/-- The colon after a simple key: the mark of the key goes in front of it. -/
def readSimpleValue (l : Lexer) (k : SimpleKey) : Lexer :=
  let l := (l.insertAt k.number .key).roll k.position.column k.number .blockMappingStart
  { (l.push .value).skip 1 with keys := none :: l.keys.tail, keyAllowed := false }

def readOtherValue (l : Lexer) : Option Lexer :=
  if !l.inFlow && !l.keyAllowed then none
  else
    let l := l.roll l.column l.tokens.length .blockMappingStart
    some { (l.push .value).skip 1 with keyAllowed := !l.inFlow }

def readValue (l : Lexer) : Option Lexer :=
  match l.keys with
  | some k :: _ => some (l.readSimpleValue k)
  | _ => l.readOtherValue

def readProperty (l : Lexer) (take : Place → Option (Token × Place)) : Option Lexer := do
  let l ← l.saveKey
  let (t, place) ← take l.place
  pure { l.push t with place, keyAllowed := false }

def takeAnchor (p : Place) : Option (Token × Place) :=
  (takeName (p.skip 1)).map fun (name, p) => (.anchor name, p)

def takeAlias (p : Place) : Option (Token × Place) :=
  (takeName (p.skip 1)).map fun (name, p) => (.alias name, p)

def pushScalar (l : Lexer) (s : Scanned) (style : Style) (keyAllowed : Bool) : Lexer :=
  { l.push (.scalar (String.ofList s.text) style) with place := s.place, keyAllowed }

def readBlock (l : Lexer) (style : Style) : Option Lexer := do
  let l ← l.removeKey
  let s ← takeBlock (style == .folded) l.indent (l.place.skip 1)
  pure (l.pushScalar s style true)

def readSingleQuoted (l : Lexer) : Option Lexer := do
  let l ← l.saveKey
  let s ← takeSingleQuoted [] {} (l.place.position.advance 1) l.place.rest.tail
  pure (l.pushScalar s .singleQuoted false)

def readDoubleQuoted (l : Lexer) : Option Lexer := do
  let l ← l.saveKey
  let s ← takeDoubleQuoted [] {} (l.place.position.advance 1) l.place.rest.tail
  pure (l.pushScalar s .doubleQuoted false)

def readPlain (l : Lexer) : Option Lexer := do
  let l ← l.saveKey
  let s ← takePlain ⟨l.inFlow, l.indent + 1⟩ [] {} l.place.position l.place.rest
  pure (l.pushScalar s .plain s.broken)

def isIndicator (c : Char) : Bool :=
  ("-?:,[]\x7b\x7d#&*!|>'\"%@\x60".toList).contains c

def startsPlain (inFlow : Bool) : List Char → Bool
  | [] => false
  | c :: cs =>
    (!isBlank c && !isBreak c && !isIndicator c)
      || (c = '-' && !cs.head?.any isBlank)
      || (!inFlow && (c = '?' || c = ':') && !endsWord cs)

def readToken (l : Lexer) (c : Char) (cs : List Char) : Option Lexer :=
  let inFlow := l.inFlow
  let word := endsWord cs
  if l.place.position.column = 0 && c = '%' then l.readDirective
  else if l.place.position.column = 0 && startsDocumentMark (c :: cs) then
    l.readDocumentMark (if c = '-' then .documentStart else .documentEnd)
  else if c = '[' then l.readFlowStart .flowSequenceStart
  else if c = '\x7b' then l.readFlowStart .flowMappingStart
  else if c = ']' then l.readFlowEnd .flowSequenceEnd
  else if c = '\x7d' then l.readFlowEnd .flowMappingEnd
  else if c = ',' then l.readFlowEntry
  else if c = '-' && word then l.readBlockEntry
  else if c = '?' && (inFlow || word) then l.readKey
  else if c = ':' && (inFlow || word) then l.readValue
  else if c = '*' then l.readProperty takeAlias
  else if c = '&' then l.readProperty takeAnchor
  else if c = '!' then l.readProperty (takeTag inFlow)
  else if c = '|' && !inFlow then l.readBlock .literal
  else if c = '>' && !inFlow then l.readBlock .folded
  else if c = '\'' then l.readSingleQuoted
  else if c = '"' then l.readDoubleQuoted
  else if startsPlain inFlow (c :: cs) then l.readPlain
  else none

def finish (l : Lexer) : Option Lexer := (l.unroll (-1)).removeKey

/-- Reads tokens up to the end. Each one consumes a character, so the length of the rest is fuel
enough. -/
def run (fuel : Nat) (l : Lexer) : Option Lexer :=
  match fuel with
  | 0 => none
  | fuel + 1 => do
    let l ← l.skipGap.refreshKeys
    let l := l.unroll l.column
    match l.place.rest with
    | [] => l.finish
    | c :: cs => do
      let l ← l.readToken c cs
      run fuel l

end Lexer

def tokens? (s : String) : Option (List Token) :=
  let cs :=
    match s.toList with
    | c :: cs => if c = byteOrderMark then cs else c :: cs
    | [] => []
  if cs.all isAllowed then
    (Lexer.run (cs.length + 1) { place := ⟨{}, cs⟩ }).map fun l => l.tokens.reverse
  else none

end ReplicaPlacement.Yaml
