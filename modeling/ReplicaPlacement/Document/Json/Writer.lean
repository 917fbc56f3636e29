import ReplicaPlacement.Document.Value
import ReplicaPlacement.Decimal.Layout
import ReplicaPlacement.Text.Numeral

/-!
# Writing JSON

A compact form on one line, and an indented form. Texts escape only what JSON requires.
-/

namespace ReplicaPlacement.Json

open Text Decimal

def numbers : ExponentStyle := ⟨true, "null", "null"⟩

def writeNumber (x : Float) : String := if x.isFinite then numbers.render x else "null"

def escapeChar (c : Char) : List Char :=
  match c with
  | '"' => ['\\', '"']
  | '\\' => ['\\', '\\']
  | '\x08' => ['\\', 'b']
  | '\x0c' => ['\\', 'f']
  | '\n' => ['\\', 'n']
  | '\r' => ['\\', 'r']
  | '\t' => ['\\', 't']
  | c => if c.toNat < 0x20 then ['\\', 'u'] ++ hexDigits 4 c.toNat else [c]

def quote (s : String) : String :=
  "\"" ++ String.ofList (s.toList.flatMap escapeChar) ++ "\""

def commaSeparated (parts : List String) : String := ",".intercalate parts

mutual

def compact : Value → String
  | .null => "null"
  | .bool b => if b then "true" else "false"
  | .nat n => toString n
  | .negative n => "-" ++ toString n
  | .real x => writeNumber x
  | .text s => quote s
  | .list items => "[" ++ commaSeparated (compactItems items) ++ "]"
  | .record fields => "\x7b" ++ commaSeparated (compactFields fields) ++ "\x7d"
  | .unreadable => "null"

def compactItems : List Value → List String
  | [] => []
  | v :: vs => compact v :: compactItems vs

def compactFields : List (String × Value) → List String
  | [] => []
  | f :: fs => compactField f :: compactFields fs

def compactField : String × Value → String
  | (k, v) => quote k ++ ":" ++ compact v

end

def indentation (depth : Nat) : String := String.ofList (List.replicate (2 * depth) ' ')

def block (depth : Nat) (opening closing : String) (parts : List String) : String :=
  if parts.isEmpty then opening ++ closing
  else
    let lines := parts.map fun p => "\n" ++ indentation (depth + 1) ++ p
    opening ++ commaSeparated lines ++ "\n" ++ indentation depth ++ closing

mutual

def prettyAt : Value → Nat → String
  | .list items, depth => block depth "[" "]" (prettyItems items (depth + 1))
  | .record fields, depth => block depth "\x7b" "\x7d" (prettyFields fields (depth + 1))
  | .null, _ => "null"
  | .bool b, _ => if b then "true" else "false"
  | .nat n, _ => toString n
  | .negative n, _ => "-" ++ toString n
  | .real x, _ => writeNumber x
  | .text s, _ => quote s
  | .unreadable, _ => "null"

def prettyItems : List Value → Nat → List String
  | [], _ => []
  | v :: vs, depth => prettyAt v depth :: prettyItems vs depth

def prettyFields : List (String × Value) → Nat → List String
  | [], _ => []
  | f :: fs, depth => prettyField f depth :: prettyFields fs depth

def prettyField : String × Value → Nat → String
  | (k, v), depth => quote k ++ ": " ++ prettyAt v depth

end

def pretty (v : Value) : String := prettyAt v 0

end ReplicaPlacement.Json
