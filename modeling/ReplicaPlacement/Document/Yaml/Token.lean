import ReplicaPlacement.Document.Yaml.Scalar
import ReplicaPlacement.Text.Utf8

/-!
# Tokens of YAML

The units of a text: structure marks, properties of nodes, and scalars. This module reads those that
do not depend on the structure around them.
-/

namespace ReplicaPlacement.Yaml

inductive Token where
  | version (major minor : Nat)
  | tagHandle (handle start : String)
  | documentStart
  | documentEnd
  | blockSequenceStart
  | blockMappingStart
  | blockEnd
  | flowSequenceStart
  | flowSequenceEnd
  | flowMappingStart
  | flowMappingEnd
  | blockEntry
  | flowEntry
  | key
  | value
  | alias (name : String)
  | anchor (name : String)
  /-- A tag that is not yet resolved. Without handle the rest is the whole tag. -/
  | tag (handle rest : String)
  | scalar (text : String) (style : Style)
  deriving DecidableEq, Repr

/-! ## Anchors and aliases -/

def endsName (cs : List Char) : Bool :=
  endsWord cs || (cs.head?.any fun c => ['?', ':', ',', ']', '\x7d', '%', '@', '\x60'].contains c)

def takeName (p : Place) : Option (String × Place) :=
  let name := p.rest.takeWhile isWordChar
  let after := p.skip name.length
  if name.isEmpty || !endsName after.rest then none else some (String.ofList name, after)

/-! ## Tags -/

def isTagChar (angled : Bool) (c : Char) : Bool :=
  isWordChar c || (";/?:@&=+$.%!~*'()".toList).contains c || (angled && (",[]".toList).contains c)

def takeEscapedBytes : Nat → List Char → Option (Bytes × List Char)
  | 0, cs => some ([], cs)
  | n + 1, '%' :: a :: b :: cs =>
    (Text.readDigits? 16 [a, b]).bind fun v =>
      (takeEscapedBytes n cs).map fun (bs, rest) => (UInt8.ofNat v :: bs, rest)
  | _, _ => none

def escapedLength? : List Char → Option Nat
  | '%' :: a :: b :: _ =>
    (Text.readDigits? 16 [a, b]).bind fun v =>
      if v < 0x80 then some 1
      else if 0xC0 ≤ v && v < 0xE0 then some 2
      else if 0xE0 ≤ v && v < 0xF0 then some 3
      else if 0xF0 ≤ v && v < 0xF8 then some 4
      else none
  | _ => none

/-- The characters of a tag with escapes resolved. Each call consumes a character, so the length of
the rest is fuel enough. -/
def takeTagChars (fuel : Nat) (angled : Bool) (cs : List Char) : Option (List Char × List Char) :=
  match fuel with
  | 0 => none
  | fuel + 1 =>
    match cs with
    | [] => some ([], [])
    | c :: rest =>
      if !isTagChar angled c then some ([], cs)
      else if c = '%' then do
        let n ← escapedLength? cs
        let (bytes, rest) ← takeEscapedBytes n cs
        let decoded ← Utf8.text? bytes
        let (more, rest) ← takeTagChars fuel angled rest
        pure (decoded.toList ++ more, rest)
      else (takeTagChars fuel angled rest).map fun (more, rest) => (c :: more, rest)

def Place.moveTo (p : Place) (rest : List Char) : Place :=
  ⟨p.position.advance (p.rest.length - rest.length), rest⟩

def takeTagText (angled : Bool) (p : Place) : Option (List Char × Place) :=
  (takeTagChars (p.rest.length + 1) angled p.rest).map fun (cs, rest) => (cs, p.moveTo rest)

def takeHandle (p : Place) : List Char × Place :=
  let word := (p.rest.drop 1).takeWhile isWordChar
  match p.rest.drop (word.length + 1) with
  | '!' :: _ => ('!' :: word ++ ['!'], p.skip (word.length + 2))
  | _ => ('!' :: word, p.skip (word.length + 1))

def isHandle (cs : List Char) : Bool := cs.length ≠ 1 && cs.getLast? == some '!'

def takeAngledTag (p : Place) : Option (Token × Place) := do
  let (text, p) ← takeTagText true p
  match text, p.rest with
  | _ :: _, '>' :: _ => pure (.tag "" (String.ofList text), p.skip 1)
  | _, _ => none

/-- A tag with a handle, or of its own. A lone exclamation mark is a whole tag. -/
def takeHandledTag (p : Place) : Option (Token × Place) := do
  let (start, p) := takeHandle p
  let (text, p) ← takeTagText false p
  if isHandle start then
    if text.isEmpty then none
    else pure (.tag (String.ofList start) (String.ofList text), p)
  else
    let own := start.drop 1 ++ text
    if own.isEmpty then pure (.tag "" "!", p) else pure (.tag "!" (String.ofList own), p)

def takeTag (inFlow : Bool) (p : Place) : Option (Token × Place) := do
  let (token, after) ←
    match p.rest with
    | '!' :: '<' :: _ => takeAngledTag (p.skip 2)
    | _ => takeHandledTag p
  if endsWord after.rest || (inFlow && after.rest.head? == some ',') then pure (token, after)
  else none

/-! ## Directives -/

def takeVersionPart (p : Place) : Option (Nat × Place) :=
  let digits := p.rest.takeWhile Char.isDigit
  if 9 < digits.length then none
  else (Text.readDigits? 10 digits).map fun n => (n, p.skip digits.length)

def takeVersion (p : Place) : Option (Token × Place) := do
  let (major, p) ← takeVersionPart (p.skipWhile isBlank)
  match p.rest with
  | '.' :: _ => do
    let (minor, p) ← takeVersionPart (p.skip 1)
    pure (.version major minor, p)
  | _ => none

def takeTagHandle (p : Place) : Option (Token × Place) := do
  let p := p.skipWhile isBlank
  if p.rest.head? != some '!' then none
  let (handle, p) := takeHandle p
  if handle.length ≠ 1 && !isHandle handle then none
  if !p.rest.head?.any isBlank then none
  let (start, p) ← takeTagText true (p.skipWhile isBlank)
  if start.isEmpty || !endsWord p.rest then none
  pure (.tagHandle (String.ofList handle) (String.ofList start), p)

def takeDirective (p : Place) : Option (Token × Place) := do
  let p := p.skip 1
  let name := p.rest.takeWhile isWordChar
  let p := p.skip name.length
  if !endsWord p.rest then none
  let (token, p) ←
    match String.ofList name with
    | "YAML" => takeVersion p
    | "TAG" => takeTagHandle p
    | _ => none
  let p ← p.skipLineEnd?
  pure (token, p)

end ReplicaPlacement.Yaml
