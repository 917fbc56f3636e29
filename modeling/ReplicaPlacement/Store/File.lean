import ReplicaPlacement.Store.Basic
import ReplicaPlacement.Text.Numeral
import ReplicaPlacement.Text.Segments

/-!
# Store files

A store file begins with a mark. Every entry follows on a line of its own, key and value in
hexadecimal digits with a colon between them. No text begins like the mark, so a store file is never
taken for a document.
-/

namespace ReplicaPlacement.Store

/-- The start of every store file. Its first byte begins no UTF-8 character. -/
def mark : Bytes := 0xFF :: Utf8.encode "store\n"

def hexText (bs : Bytes) : List Char := bs.flatMap fun b => Text.hexDigits 2 b.toNat

def readHex? : List Char → Option Bytes
  | [] => some []
  | [_] => none
  | a :: b :: cs =>
    (Text.readDigits? 16 [a, b]).bind fun n => (readHex? cs).map (UInt8.ofNat n :: ·)

def line (e : Entry) : List Char := hexText e.key ++ ':' :: hexText e.value ++ ['\n']

def toFile (c : Content) : Bytes := mark ++ Utf8.encode (String.ofList (c.flatMap line))

def readLine? (cs : List Char) : Option Entry :=
  match Text.segments ':' cs with
  | [key, value] => do pure ⟨← readHex? key, ← readHex? value⟩
  | _ => none

def ofFile? (bs : Bytes) : Option Content :=
  if mark.isPrefixOf bs then
    (Utf8.text? (bs.drop mark.length)).bind fun s =>
      match (Text.segments '\n' s.toList).reverse with
      | [] :: lines => lines.reverse.mapM readLine?
      | _ => none
  else none

end ReplicaPlacement.Store
