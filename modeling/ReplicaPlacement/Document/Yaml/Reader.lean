import ReplicaPlacement.Decimal.Written
import ReplicaPlacement.Document.Readable
import ReplicaPlacement.Document.Yaml.Node

/-!
# Reading YAML

How nodes answer the questions of typed data. A scalar is a text whatever it looks like; only plain
ones are also numbers, truth values or null, if they look like it. A block with the matching tag
counts as plain.
-/

namespace ReplicaPlacement.Yaml

open Text Decimal

structure Ref where
  anchors : Anchors
  node : Node

namespace Ref

def target (r : Ref) : Node :=
  match r.node with
  | .alias number => (r.anchors.node? number).getD .absent
  | n => n

def child (r : Ref) (n : Node) : Ref := ⟨r.anchors, n⟩

end Ref

/-! ## Plain texts -/

def isNullWord (s : String) : Bool := ["null", "Null", "NULL", "~"].contains s

def truth? (s : String) : Option Bool :=
  if ["true", "True", "TRUE"].contains s then some true
  else if ["false", "False", "FALSE"].contains s then some false
  else none

/-- Digits that are no number, because the first of several is a zero. -/
def isZeroLed : List Char → Bool
  | '0' :: c :: cs => (c :: cs).all Char.isDigit
  | _ => false

def unsigned? : List Char → Option Nat
  | '0' :: 'x' :: cs => readDigits? 16 cs
  | '0' :: 'o' :: cs => readDigits? 8 cs
  | '0' :: 'b' :: cs => readDigits? 2 cs
  | cs => if isZeroLed cs then none else readDigits? 10 cs

def natural? (s : String) : Option Nat :=
  match s.toList with
  | '+' :: cs => unsigned? cs
  | cs => unsigned? cs

def numeral? (cs : List Char) : Option Written :=
  let whole := cs.takeWhile Char.isDigit
  let (fraction, rest) :=
    match cs.dropWhile Char.isDigit with
    | '.' :: cs => (some (cs.takeWhile Char.isDigit), cs.dropWhile Char.isDigit)
    | cs => (none, cs)
  if whole.isEmpty && (fraction.getD []).isEmpty then none
  else
    match takeExponent rest with
    | some (some (e, [])) => some ⟨whole, fraction, some e⟩
    | none => if rest.isEmpty then some ⟨whole, fraction, none⟩ else none
    | _ => none

def finite? (cs : List Char) : Option Float :=
  (numeral? cs).bind fun w => if w.nearest.isFinite then some w.nearest else none

def infinityWords : List String := [".inf", ".Inf", ".INF"]

def real? (s : String) : Option Float :=
  if [".nan", ".NaN", ".NAN"].contains s then some (0.0 / 0.0)
  else
    let (negative, digits) :=
      match s.toList with
      | '+' :: cs => (false, cs)
      | '-' :: cs => (true, cs)
      | cs => (false, cs)
    let magnitude :=
      if infinityWords.contains (String.ofList digits) then some (1.0 / 0.0) else finite? digits
    magnitude.map fun x => if negative then -x else x

/-! ## Nodes -/

def plain? (tagName : String) : Node → Option String
  | .scalar text .plain _ => some text
  | .scalar text .literal tag =>
    if tag == some ("tag:yaml.org,2002:" ++ tagName) then some text else none
  | _ => none

/-- Holds nothing, so it reads as an empty collection. -/
def isVoid : Node → Bool
  | .absent => true
  | .scalar "" .plain _ => true
  | _ => false

/-- The member is left out. Null must look like it, also if a tag says so. -/
def isLeftOut? : Node → Option Bool
  | .absent => some true
  | .scalar text .plain none => some (text.isEmpty || isNullWord text)
  | .scalar text .plain (some tag) =>
    if tag ≠ "tag:yaml.org,2002:null" then some false
    else if isNullWord text then some true
    else none
  | _ => some false

def text? : Node → Option String
  | .scalar text _ _ => some text
  | _ => none

def ownTag? : Option String → Option String
  | none => none
  | some tag =>
    match tag.toList with
    | '!' :: c :: cs => some (String.ofList (c :: cs))
    | _ => none

/-- The alternative that a scalar names, or that its own tag names if nothing else is there. -/
def variant? : Node → Option String
  | .scalar text style tag =>
    match ownTag? tag with
    | none => some text
    | some name => if style == .plain && (text.isEmpty || isNullWord text) then some name else none
  | _ => none

def items? : Node → Option (List Node)
  | .sequence items _ => some items
  | n => if isVoid n then some [] else none

def entries? (r : Ref) : Option (List (String × Ref)) :=
  match r.target with
  | .mapping entries _ =>
    entries.mapM fun (k, v) => (text? (r.child k).target).map fun k => (k, r.child v)
  | n => if isVoid n then some [] else none

instance : Readable Ref where
  text? r := text? r.target
  bool? r := (plain? "bool" r.target).bind truth?
  nat? r := (plain? "int" r.target).bind natural?
  real? r := (plain? "float" r.target).bind real?
  optional? r := (isLeftOut? r.target).map fun leftOut => if leftOut then none else some r
  items? r := (items? r.target).map fun items => items.map r.child
  entries? := entries?
  positional? _ := none
  variant? r := variant? r.target

def read? {α : Type} [FromDocument α] (s : String) : Option α :=
  (parse? s).bind fun d => FromDocument.read? (⟨d.anchors, d.root⟩ : Ref)

end ReplicaPlacement.Yaml
