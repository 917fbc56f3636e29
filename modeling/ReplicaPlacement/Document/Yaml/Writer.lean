import ReplicaPlacement.Decimal.Layout
import ReplicaPlacement.Document.Value
import ReplicaPlacement.Document.Yaml.Reader

/-!
# Writing YAML

Collections are written as blocks, empty ones in brackets or braces. A text is written plainly if
that reads back as the same text, else in the simplest way that does: as a block if it has line
feeds, else in single quotes, else in double quotes.
-/

namespace ReplicaPlacement.Yaml

open Text Decimal

def numbers : ExponentStyle := ⟨false, ".nan", ".inf"⟩

/-! ## Texts -/

def basedBelow? (limit : Nat) (cs : List Char) : Bool :=
  match cs with
  | '0' :: 'x' :: ds => (readDigits? 16 ds).any (· < limit)
  | '0' :: 'o' :: ds => (readDigits? 8 ds).any (· < limit)
  | '0' :: 'b' :: ds => (readDigits? 2 ds).any (· < limit)
  | _ => false

/-- Written plainly the text could be taken for a number. Integers have up to 128 bits. -/
def looksNumeric (s : String) : Bool :=
  (real? s).isSome ||
    match s.toList with
    | '-' :: cs => basedBelow? (UInt64.size * UInt64.size / 2 + 1) cs
    | '+' :: cs => basedBelow? (UInt64.size * UInt64.size) cs
    | cs => basedBelow? (UInt64.size * UInt64.size) cs

def looksSpecial (s : String) : Bool :=
  s.isEmpty || isNullWord s || (truth? s).isSome || looksNumeric s

def isPrintable (c : Char) : Bool :=
  let n := c.toNat
  n == 10 || (0x20 ≤ n && n ≤ 0x7E) || (0xA0 ≤ n && n ≤ 0xD7FF)
    || (0xE000 ≤ n && n ≤ 0xFFFD && n != 0xFEFF)

def startsSpecial (c : Char) : Bool := ("#,[]\x7b\x7d&*!|>'\"%@\x60".toList).contains c

def hasInnerMark : List Char → Bool
  | [] => false
  | c :: cs =>
    (c = ':' && endsWord cs)
      || ((isBlank c || isBreak c) && cs.head? == some '#')
      || hasInnerMark cs

def hasIndicator (cs : List Char) : Bool :=
  ("---".toList).isPrefixOf cs || ("...".toList).isPrefixOf cs || hasInnerMark cs ||
    match cs with
    | [] => false
    | c :: cs => startsSpecial c || ((c = '?' || c = '-') && endsWord cs)

def hasPair (first second : Char → Bool) : List Char → Bool
  | a :: b :: cs => (first a && second b) || hasPair first second (b :: cs)
  | _ => false

structure Shape where
  multiline : Bool
  plain : Bool
  singleQuoted : Bool
  block : Bool

def isSpace (c : Char) : Bool := c = ' '

/-- A space before a break, and characters that must be escaped, leave double quotes only. -/
def shapeOf (cs : List Char) : Shape :=
  let multiline := cs.any isBreak
  let edge (test : Char → Bool) : Bool := cs.head?.any test || cs.getLast?.any test
  let escaped := hasPair isSpace isBreak cs || !cs.all isPrintable
  let spaceAfterBreak := hasPair isBreak isSpace cs
  { multiline
    plain := !edge isSpace && !multiline && !escaped && !hasIndicator cs
    singleQuoted := !spaceAfterBreak && !escaped
    block := !cs.isEmpty && !cs.getLast?.any isSpace && !escaped }

structure Line where
  text : List Char
  ending : Char := '\n'

namespace Line

def ofString (s : String) : Line := { text := s.toList }

def after (start : String) (l : Line) : Line := { l with text := start.toList ++ l.text }

def indent (l : Line) : Line := if l.text.isEmpty then l else l.after "  "

def toString (l : Line) : String := String.ofList (l.text ++ [l.ending])

end Line

def linesOf : List Char → List Line
  | [] => []
  | c :: cs =>
    if isBreak c then { text := [], ending := c } :: linesOf cs
    else
      match linesOf cs with
      | [] => [{ text := [c] }]
      | l :: ls => { l with text := c :: l.text } :: ls

def doubled (c : Char) : List Char := if c = '\'' then ['\'', '\''] else [c]

def singleQuoted (cs : List Char) : List Line :=
  linesOf ('\'' :: cs.flatMap doubled ++ ['\''])

def capitalHex (width n : Nat) : List Char := (hexDigits width n).map Char.toUpper

def escapeChar (c : Char) : List Char :=
  match c with
  | '\x00' => ['\\', '0']
  | '\x07' => ['\\', 'a']
  | '\x08' => ['\\', 'b']
  | '\t' => ['\\', 't']
  | '\n' => ['\\', 'n']
  | '\x0b' => ['\\', 'v']
  | '\x0c' => ['\\', 'f']
  | '\r' => ['\\', 'r']
  | '\x1b' => ['\\', 'e']
  | '"' => ['\\', '"']
  | '\\' => ['\\', '\\']
  | '\u0085' => ['\\', 'N']
  | '\u2028' => ['\\', 'L']
  | '\u2029' => ['\\', 'P']
  | c =>
    if isPrintable c then [c]
    else if c.toNat ≤ 0xFF then ['\\', 'x'] ++ capitalHex 2 c.toNat
    else if c.toNat ≤ 0xFFFF then ['\\', 'u'] ++ capitalHex 4 c.toNat
    else ['\\', 'U'] ++ capitalHex 8 c.toNat

def doubleQuoted (cs : List Char) : List Line :=
  [{ text := '"' :: cs.flatMap escapeChar ++ ['"'] }]

def chompMark (cs : List Char) : String :=
  match cs.reverse with
  | [] => "-"
  | [c] => if isBreak c then "+" else "-"
  | c :: d :: _ => if !isBreak c then "-" else if isBreak d then "+" else ""

/-- A block: its marks, then its lines. Indentation is given if it could not be told. -/
def literalBlock (cs : List Char) : List Line :=
  let indentMark := if cs.head?.any fun c => isSpace c || isBreak c then "2" else ""
  .ofString ("|" ++ indentMark ++ chompMark cs) :: linesOf cs

def textLines (s : String) : List Line :=
  let cs := s.toList
  let shape := shapeOf cs
  if cs.contains '\n' then if shape.block then literalBlock cs else doubleQuoted cs
  else if shape.plain && !looksSpecial s && !isZeroLed (cs.dropWhile fun c => c = '+' || c = '-') then
    [.ofString s]
  else if shape.singleQuoted then singleQuoted cs
  else doubleQuoted cs

/-! ## Values -/

def hang (mark : String) : List Line → List Line
  | [] => [.ofString mark]
  | l :: ls => l.after mark :: ls.map Line.indent

/-- Longer keys do not stand before their colon on one line. -/
def maxSimpleKey : Nat := 128

def isSimpleKey (k : String) : Bool := !k.toList.any isBreak && k.utf8ByteSize ≤ maxSimpleKey

inductive Layout where
  | inline (lines : List Line)
  | sequence (lines : List Line)
  | mapping (lines : List Line)

def Layout.lines : Layout → List Line
  | inline ls => ls
  | sequence ls => ls
  | mapping ls => ls

def Layout.word (s : String) : Layout := .inline [.ofString s]

/-- The key of an entry and its colon. A key that is a literal block does not get here. -/
def keyLine (k : String) : Line :=
  { text := (textLines k).flatMap (·.text) ++ [':'] }

/-- An entry of a mapping. Sequences start at the column of their key. -/
def entryLines (k : String) (v : Layout) : List Line :=
  if isSimpleKey k then
    match v with
    | .inline [] => [keyLine k]
    | .inline (l :: ls) =>
      { l with text := (keyLine k).text ++ ' ' :: l.text } :: ls.map Line.indent
    | .sequence ls => keyLine k :: ls
    | .mapping ls => keyLine k :: ls.map Line.indent
  else hang "? " (textLines k) ++ hang ": " v.lines

mutual

def layout : Value → Layout
  | .null => .word "null"
  | .bool b => .word (if b then "true" else "false")
  | .nat n => .word (toString n)
  | .negative n => .word ("-" ++ toString n)
  | .real x => .word (numbers.render x)
  | .text s => .inline (textLines s)
  | .list [] => .word "[]"
  | .list (v :: vs) => .sequence (hang "- " (layout v).lines ++ itemLines vs)
  | .record [] => .word "\x7b\x7d"
  | .record (f :: fs) => .mapping (fieldLines f ++ fieldsLines fs)
  | .unreadable => .word "null"

def itemLines : List Value → List Line
  | [] => []
  | v :: vs => hang "- " (layout v).lines ++ itemLines vs

def fieldLines : String × Value → List Line
  | (k, v) => entryLines k (layout v)

def fieldsLines : List (String × Value) → List Line
  | [] => []
  | f :: fs => fieldLines f ++ fieldsLines fs

end

/-- The block keeps its final breaks, so its end has to be marked. -/
def isOpenEnded (cs : List Char) : Bool :=
  cs.contains '\n' && (shapeOf cs).block && chompMark cs == "+"

def endMark : Value → String
  | .text s => if isOpenEnded s.toList then "...\n" else ""
  | _ => ""

def write (v : Value) : String :=
  let lines :=
    match layout v with
    | .inline ls => hang "" ls
    | l => l.lines
  String.join (lines.map Line.toString) ++ endMark v

end ReplicaPlacement.Yaml
