import ReplicaPlacement.Document.Yaml.Lexer

/-!
# Nodes of YAML

The tree that the tokens of a document describe. Aliases stay in the tree and are looked up when they
are read.
-/

namespace ReplicaPlacement.Yaml

inductive Node where
  | scalar (text : String) (style : Style) (tag : Option String)
  | sequence (items : List Node) (tag : Option String)
  | mapping (entries : List (Node × Node)) (tag : Option String)
  | alias (number : Nat)
  | absent
  deriving Inhabited

namespace Node

def empty : Node := .scalar "" .plain none

end Node

/-- A node with an anchor. A serial number tells in which order such nodes begin. -/
structure Anchored where
  number : Nat
  serial : Nat
  node : Node

structure Anchors where
  numbers : List (String × Nat) := []
  names : Nat := 0
  serial : Nat := 0
  nodes : List Anchored := []

namespace Anchors

/-- Gives an anchor its number: that of names before it. A name that is used again takes the number
that the next new name will have. -/
def declare (a : Anchors) (name : String) : Anchors :=
  { a with
    numbers := (name, a.names) :: a.numbers
    names := if (a.numbers.lookup name).isSome then a.names else a.names + 1
    serial := a.serial + 1 }

/-- Of all anchors with a number the one that begins last counts. -/
def node? (a : Anchors) (number : Nat) : Option Node :=
  let newest : Option Anchored → Anchored → Option Anchored := fun best x =>
    if x.number = number && best.all fun b => b.serial < x.serial then some x else best
  (a.nodes.foldl newest none).map (·.node)

end Anchors

structure Reader where
  tokens : List Token
  handles : List (String × String) := []
  anchors : Anchors := {}

namespace Reader

def advance (r : Reader) : Reader := { r with tokens := r.tokens.tail }

def head? (r : Reader) : Option Token := r.tokens.head?

/-! ## Directives -/

def defaultHandles : List (String × String) := [("!", "!"), ("!!", "tag:yaml.org,2002:")]

/-- The directives of a document. There may be one version, which is 1.1 or 1.2, and one declaration
of each handle. -/
def takeDirectives (versioned : Bool) (handles : List (String × String)) :
    List Token → Option (List (String × String) × List Token)
  | .version major minor :: ts =>
    if versioned || major ≠ 1 || (minor ≠ 1 && minor ≠ 2) then none
    else takeDirectives true handles ts
  | .tagHandle handle start :: ts =>
    if (handles.lookup handle).isSome then none
    else takeDirectives versioned ((handle, start) :: handles) ts
  | ts => some (handles ++ defaultHandles, ts)

/-! ## Node properties -/

structure Properties where
  anchor : Option String := none
  tag : Option String := none

def resolveTag? (r : Reader) (handle rest : String) : Option String :=
  if handle.isEmpty then some rest else (r.handles.lookup handle).map (· ++ rest)

def takeProperties (r : Reader) : Option (Properties × Reader) :=
  match r.tokens with
  | .anchor a :: .tag h t :: _ =>
    (r.resolveTag? h t).map fun tag => (⟨some a, some tag⟩, r.advance.advance)
  | .tag h t :: .anchor a :: _ =>
    (r.resolveTag? h t).map fun tag => (⟨some a, some tag⟩, r.advance.advance)
  | .anchor a :: _ => some (⟨some a, none⟩, r.advance)
  | .tag h t :: _ => (r.resolveTag? h t).map fun tag => (⟨none, some tag⟩, r.advance)
  | _ => some ({}, r)

def declare (r : Reader) (p : Properties) : Reader :=
  match p.anchor with
  | none => r
  | some name => { r with anchors := r.anchors.declare name }

def keep (r : Reader) (p : Properties) (before : Anchors) (n : Node) : Reader :=
  match p.anchor with
  | none => r
  | some _ =>
    { r with anchors :=
      { r.anchors with nodes := ⟨before.names, before.serial, n⟩ :: r.anchors.nodes } }

/-! ## Collections -/

def atAny (r : Reader) (ts : List Token) : Bool := r.head?.any ts.contains

mutual

/-- A node. Block collections are allowed in block context only, and sequences without indentation
only as values of a block mapping. All these functions share one fuel, and between two calls that
consume nothing there is one that consumes a token. -/
def takeNode (fuel : Nat) (block indentless : Bool) (r : Reader) : Option (Node × Reader) :=
  match fuel with
  | 0 => none
  | fuel + 1 =>
    match r.head? with
    | some (.alias name) =>
      (r.anchors.numbers.lookup name).map fun number => (.alias number, r.advance)
    | _ => do
      let (p, r) ← r.takeProperties
      let before := r.anchors
      let (n, r) ← takeContent fuel block indentless p (r.declare p)
      pure (n, r.keep p before n)

def takeContent (fuel : Nat) (block indentless : Bool) (p : Properties) (r : Reader) :
    Option (Node × Reader) :=
  match fuel with
  | 0 => none
  | fuel + 1 =>
    match r.head? with
    | some (.scalar text style) =>
      let tag := if p.tag == some "!" then none else p.tag
      some (.scalar text style tag, r.advance)
    | some .flowSequenceStart =>
      (takeFlowItems fuel true [] r.advance).map fun (items, r) => (.sequence items p.tag, r)
    | some .flowMappingStart =>
      (takeFlowEntries fuel true [] r.advance).map fun (es, r) => (.mapping es p.tag, r)
    | t =>
      if indentless && t == some .blockEntry then
        (takeIndentlessItems fuel [] r).map fun (items, r) => (.sequence items p.tag, r)
      else if block && t == some .blockSequenceStart then
        (takeBlockItems fuel [] r.advance).map fun (items, r) => (.sequence items p.tag, r)
      else if block && t == some .blockMappingStart then
        (takeBlockEntries fuel [] r.advance).map fun (es, r) => (.mapping es p.tag, r)
      else if p.anchor.isSome || p.tag.isSome then some (.scalar "" .plain p.tag, r)
      else none

def takeOptional (fuel : Nat) (block indentless : Bool) (stops : List Token) (r : Reader) :
    Option (Node × Reader) :=
  match fuel with
  | 0 => none
  | fuel + 1 => if r.atAny stops then some (.empty, r) else takeNode fuel block indentless r

def takeBlockItems (fuel : Nat) (items : List Node) (r : Reader) : Option (List Node × Reader) :=
  match fuel with
  | 0 => none
  | fuel + 1 =>
    match r.head? with
    | some .blockEntry => do
      let (n, r) ← takeOptional fuel true false [.blockEntry, .blockEnd] r.advance
      takeBlockItems fuel (n :: items) r
    | some .blockEnd => some (items.reverse, r.advance)
    | _ => none

def takeIndentlessItems (fuel : Nat) (items : List Node) (r : Reader) :
    Option (List Node × Reader) :=
  match fuel with
  | 0 => none
  | fuel + 1 =>
    match r.head? with
    | some .blockEntry => do
      let (n, r) ← takeOptional fuel true false [.blockEntry, .key, .value, .blockEnd] r.advance
      takeIndentlessItems fuel (n :: items) r
    | _ => some (items.reverse, r)

def takeValue (fuel : Nat) (block : Bool) (stops : List Token) (r : Reader) :
    Option (Node × Reader) :=
  match fuel with
  | 0 => none
  | fuel + 1 =>
    if r.head? == some .value then takeOptional fuel block block stops r.advance
    else some (.empty, r)

def takeBlockEntries (fuel : Nat) (entries : List (Node × Node)) (r : Reader) :
    Option (List (Node × Node) × Reader) :=
  match fuel with
  | 0 => none
  | fuel + 1 =>
    match r.head? with
    | some .key => do
      let stops := [Token.key, .value, .blockEnd]
      let (k, r) ← takeOptional fuel true true stops r.advance
      let (v, r) ← takeValue fuel true stops r
      takeBlockEntries fuel ((k, v) :: entries) r
    | some .blockEnd => some (entries.reverse, r.advance)
    | _ => none

def takeComma (first : Bool) (r : Reader) : Option Reader :=
  if first then some r else if r.head? == some .flowEntry then some r.advance else none

/-- A single pair in brackets. A missing key takes the token after it with it. -/
def takePair (fuel : Nat) (r : Reader) : Option (Node × Reader) :=
  match fuel with
  | 0 => none
  | fuel + 1 => do
    let (k, r) ←
      if r.atAny [.value, .flowEntry, .flowSequenceEnd] then some (Node.empty, r.advance)
      else takeNode fuel false false r
    let (v, r) ← takeValue fuel false [.flowEntry, .flowSequenceEnd] r
    pure (.mapping [(k, v)] none, r)

def takeFlowItems (fuel : Nat) (first : Bool) (items : List Node) (r : Reader) :
    Option (List Node × Reader) :=
  match fuel with
  | 0 => none
  | fuel + 1 =>
    if r.head? == some .flowSequenceEnd then some (items.reverse, r.advance)
    else do
      let r ← takeComma first r
      if r.head? == some .flowSequenceEnd then pure (items.reverse, r.advance)
      else
        let (n, r) ←
          if r.head? == some .key then takePair fuel r.advance
          else takeNode fuel false false r
        takeFlowItems fuel false (n :: items) r

def takeFlowEntries (fuel : Nat) (first : Bool) (entries : List (Node × Node)) (r : Reader) :
    Option (List (Node × Node) × Reader) :=
  match fuel with
  | 0 => none
  | fuel + 1 =>
    if r.head? == some .flowMappingEnd then some (entries.reverse, r.advance)
    else do
      let r ← takeComma first r
      if r.head? == some .flowMappingEnd then pure (entries.reverse, r.advance)
      else if r.head? == some .key then
        let stops := [Token.value, .flowEntry, .flowMappingEnd]
        let (k, r) ← takeOptional fuel false false stops r.advance
        let (v, r) ← takeValue fuel false [.flowEntry, .flowMappingEnd] r
        takeFlowEntries fuel false ((k, v) :: entries) r
      else
        let (k, r) ← takeNode fuel false false r
        takeFlowEntries fuel false ((k, .empty) :: entries) r

end

/-! ## Documents -/

def isFinished (r : Reader) : Bool := r.tokens.all (· == .documentEnd)

def takeExplicit (fuel : Nat) (r : Reader) : Option (Node × Reader) :=
  match r.head? with
  | none => some (.empty, r)
  | some (.version ..) | some (.tagHandle ..) | some .documentStart | some .documentEnd =>
    some (.empty, r)
  | _ => takeNode fuel true false r

def takeDocument (fuel : Nat) (r : Reader) : Option (Node × Reader) := do
  match r.head? with
  | none => pure (.absent, r)
  | some (.version ..) | some (.tagHandle ..) | some .documentStart => do
    let (handles, ts) ← takeDirectives false [] r.tokens
    match ts with
    | .documentStart :: ts => takeExplicit fuel { r with handles, tokens := ts }
    | _ => none
  | some _ => takeNode fuel true false { r with handles := defaultHandles }

end Reader

structure Document where
  root : Node
  anchors : Anchors

def Document.ofTokens? (ts : List Token) : Option Document := do
  let (root, r) ← Reader.takeDocument (4 * ts.length + 4) { tokens := ts }
  if r.isFinished then some ⟨root, r.anchors⟩ else none

def parse? (s : String) : Option Document := (tokens? s).bind Document.ofTokens?

end ReplicaPlacement.Yaml
