import ReplicaPlacement.Text.Blank
import ReplicaPlacement.Text.Numeral

/-!
# Volume sizes

A size is a number of KiB, written plainly or with a binary suffix. Sizes fit 64 bits: a text whose
product does not fit is no size.
-/

namespace ReplicaPlacement.Size

open Text

structure Suffix where
  letters : List Char
  factor : Nat
  deriving DecidableEq, Repr

def suffixes : List Suffix :=
  [⟨['K', 'i'], 1⟩, ⟨['M', 'i'], 1024⟩, ⟨['G', 'i'], 1024 * 1024⟩,
    ⟨['T', 'i'], 1024 * 1024 * 1024⟩]

def noSuffix : Suffix := ⟨[], 1⟩

def suffixOf (t : List Char) : Suffix :=
  (suffixes.find? fun s => s.letters.isSuffixOf t).getD noSuffix

def numberPart (t : List Char) : List Char :=
  t.take (t.length - (suffixOf t).letters.length)

def readTrimmed? (t : List Char) : Option UInt64 :=
  (readNat? (trim (numberPart t))).bind fun n =>
    let kib := n * (suffixOf t).factor
    if kib < UInt64.size then some (UInt64.ofNat kib) else none

def trimmed (s : String) : String := String.ofList (trim s.toList)

def read? (s : String) : Option UInt64 := readTrimmed? (trim s.toList)

end ReplicaPlacement.Size
