import ReplicaPlacement.Text.Hidden
import ReplicaPlacement.Text.Numeral

/-!
# Quoted texts in log lines

Log lines show some texts between double quotes. What would not show, or would attach to the
character before it, is written as an escape.
-/

namespace ReplicaPlacement.Text

def quotedChar (c : Char) : List Char :=
  match c with
  | '\x00' => ['\\', '0']
  | '\t' => ['\\', 't']
  | '\r' => ['\\', 'r']
  | '\n' => ['\\', 'n']
  | '"' => ['\\', '"']
  | '\\' => ['\\', '\\']
  | c =>
    if isHidden c then ['\\', 'u', '\x7b'] ++ hex c.toNat ++ ['\x7d'] else [c]

def quoted (s : String) : String := "\"" ++ String.ofList (s.toList.flatMap quotedChar) ++ "\""

def quotedOption : Option String → String
  | none => "None"
  | some s => "Some(" ++ quoted s ++ ")"

end ReplicaPlacement.Text
