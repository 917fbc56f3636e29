import ReplicaPlacement.Pattern.Matcher
import ReplicaPlacement.Pattern.Reader

/-!
# The pattern language

Regular expressions without conditions on the text around and without back-references. They ignore
case and match anywhere in a name, unless they say otherwise.

Without the flag for Unicode a pattern works on bytes. It must then not be able to match a part of a
character, so nothing may be negated and a dot may not stand.
-/

namespace ReplicaPlacement.Pattern

structure Mode where
  ignoreCase : Bool := true
  multiLine : Bool := false
  dotAll : Bool := true
  unicode : Bool := true
  crlf : Bool := false

namespace Mode

def apply (m : Mode) : Flag × Bool → Mode
  | (.ignoreCase, on) => { m with ignoreCase := on }
  | (.multiLine, on) => { m with multiLine := on }
  | (.dotAll, on) => { m with dotAll := on }
  | (.unicode, on) => { m with unicode := on }
  | (.crlf, on) => { m with crlf := on }
  | (.swapGreed, _) => m
  | (.ignoreBlanks, _) => m

def change (m : Mode) (changes : FlagChanges) : Mode := changes.foldl apply m

/-! ## Classes -/

def fold (m : Mode) (s : CharSet) : CharSet :=
  if !m.ignoreCase then s else if m.unicode then s.fold else s.foldAscii

/-- Case is ignored before a set is negated. -/
def foldAndNegate? (m : Mode) (negated : Bool) (s : CharSet) : Option CharSet :=
  if !negated then some (m.fold s)
  else if m.unicode then some (m.fold s).complement
  else none

def isAllowed (m : Mode) (l : Literal) : Bool := m.unicode || !l.byte || l.char.toNat < 0x80

def isAllowedInClass (m : Mode) (l : Literal) : Bool := m.unicode || l.char.toNat < 0x80

mutual

def charSet? (m : Mode) : ClassExpr → Option CharSet
  | .none => some .empty
  | .literal l => if m.isAllowedInClass l then some (.singleton l.char) else none
  | .range low high =>
    if m.isAllowedInClass low && m.isAllowedInClass high then some (.range low.char high.char)
    else none
  | .short c negated =>
    if m.unicode then
      some (if negated then (CharSet.ofShort c).complement else CharSet.ofShort c)
    else if negated then none
    else some (CharSet.ofShortAscii c)
  | .ascii name negated => m.foldAndNegate? negated (CharSet.ofAsciiName name)
  | .property name value negated =>
    if m.unicode then (CharSet.ofProperty? name value).bind (m.foldAndNegate? negated) else none
  | .bracketed negated inner => (m.charSet? inner).bind (m.foldAndNegate? negated)
  | .union items => (m.charSets? items).map CharSet.unionAll
  | .combine op left right => do
    let s ← m.charSet? left
    let t ← m.charSet? right
    pure ((m.fold s).combine (m.fold t) op)

def charSets? (m : Mode) : List ClassExpr → Option (List CharSet)
  | [] => some []
  | c :: cs => do
    let s ← m.charSet? c
    let ss ← m.charSets? cs
    pure (s :: ss)

end

/-! ## Single parts -/

def literal? (m : Mode) (l : Literal) : Option Matcher :=
  if m.isAllowed l then some (.set (m.fold (.singleton l.char))) else none

def dot? (m : Mode) : Option Matcher :=
  if !m.unicode then none
  else if m.dotAll then some (.set .any)
  else if m.crlf then some (.set ⟨fun c => c ≠ '\n' && c ≠ '\r', CharSet.wholeWidth⟩)
  else some (.set ⟨fun c => c ≠ '\n', CharSet.wholeWidth⟩)

def startsLine (m : Mode) (before after : Option Char) : Bool :=
  before.isNone || (m.multiLine
    && (before == some '\n' || (m.crlf && before == some '\r' && after != some '\n')))

def endsLine (m : Mode) (before after : Option Char) : Bool :=
  after.isNone || (m.multiLine
    && ((after == some '\n' && !(m.crlf && before == some '\r'))
      || (m.crlf && after == some '\r')))

def look (m : Mode) (l : Look) (before after : Option Char) : Bool :=
  let wordBefore := before.any CharSet.isWord
  let wordAfter := after.any CharSet.isWord
  match l with
  | .textStart => before.isNone
  | .textEnd => after.isNone
  | .lineStart => m.startsLine before after
  | .lineEnd => m.endsLine before after
  | .wordBoundary => wordBefore != wordAfter
  | .notWordBoundary => wordBefore == wordAfter
  | .wordStart => !wordBefore && wordAfter
  | .wordEnd => wordBefore && !wordAfter
  | .wordStartHalf => !wordBefore
  | .wordEndHalf => !wordAfter

end Mode

mutual

/-- Applies the flags in force, and gives those in force afterwards. -/
def Node.matcher? (m : Mode) : Node → Option (Matcher × Mode)
  | .empty => some (.empty, m)
  | .flags changes => some (.empty, m.change changes)
  | .literal l => (m.literal? l).map fun x => (x, m)
  | .dot => m.dot?.map fun x => (x, m)
  | .look l => some (.look (m.look l), m)
  | .single c => (m.charSet? c).map fun s => (.set s, m)
  | .repeated inner least most =>
    (inner.matcher? m).map fun (x, m) => (.repeated x least most, m)
  | .group changes inner =>
    (inner.matcher? (m.change changes)).map fun (x, _) => (.group x, m)
  | .alternation branches =>
    (matchersOf? m branches).map fun (xs, m) =>
      match xs.reverse with
      | [] => (.empty, m)
      | last :: rest => (rest.foldl (fun acc x => .either x acc) last, m)
  | .sequence items =>
    (matchersOf? m items).map fun (xs, m) => (xs.foldr .sequence .empty, m)

def matchersOf? (m : Mode) : List Node → Option (List Matcher × Mode)
  | [] => some ([], m)
  | n :: ns => do
    let (x, m) ← n.matcher? m
    let (xs, m) ← matchersOf? m ns
    pure (x :: xs, m)

end

def Matcher.ofString? (s : String) : Option Matcher := do
  let n ← Node.ofString? s
  let (m, _) ← n.matcher? {}
  if m.size ≤ Matcher.maxSize then some m else none

def language (s : String) : Option (String → Bool) := (Matcher.ofString? s).map Matcher.matchesIn

end ReplicaPlacement.Pattern
