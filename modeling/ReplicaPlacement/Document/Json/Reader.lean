import ReplicaPlacement.Document.Readable
import ReplicaPlacement.Decimal.Written

/-!
# Reading JSON

One value with blanks around it, to any depth. Numbers are scaled from a 64-bit significand. A
number out of range and half a surrogate pair are well-formed text without a value, so they may
stand in a part of the document that nothing reads.
-/

namespace ReplicaPlacement.Json

open Text Decimal

def isBlank (c : Char) : Bool := c == ' ' || c == '\n' || c == '\t' || c == '\r'

def skipBlanks (cs : List Char) : List Char := cs.dropWhile isBlank

def readUnit? (a b c d : Char) : Option Nat := readDigits? 16 [a, b, c, d]

def isHighSurrogate (u : Nat) : Bool := 0xD800 ≤ u && u < 0xDC00

def isLowSurrogate (u : Nat) : Bool := 0xDC00 ≤ u && u < 0xE000

def simpleEscape? : Char → Option Char
  | '"' => some '"'
  | '\\' => some '\\'
  | '/' => some '/'
  | 'b' => some '\x08'
  | 'f' => some '\x0c'
  | 'n' => some '\n'
  | 'r' => some '\r'
  | 't' => some '\t'
  | _ => none

inductive Piece where
  | char (c : Char)
  | half (codeUnit : Nat)

def takePieces : List Char → Option (List Piece × List Char)
  | [] => none
  | '"' :: cs => some ([], cs)
  | '\\' :: 'u' :: a :: b :: c :: d :: cs =>
    (readUnit? a b c d).bind fun u =>
      let piece :=
        if isHighSurrogate u || isLowSurrogate u then Piece.half u else .char (Char.ofNat u)
      (takePieces cs).map fun (ps, rest) => (piece :: ps, rest)
  | '\\' :: c :: cs =>
    (simpleEscape? c).bind fun e =>
      (takePieces cs).map fun (ps, rest) => (.char e :: ps, rest)
  | c :: cs =>
    if c.toNat < 0x20 then none
    else (takePieces cs).map fun (ps, rest) => (.char c :: ps, rest)

/-- Joins each high half with the low half after it. `none` if a half is left over. -/
def joinPieces? : List Piece → Option (List Char)
  | [] => some []
  | .char c :: ps => (joinPieces? ps).map (c :: ·)
  | .half u :: .half v :: ps =>
    if isHighSurrogate u && isLowSurrogate v then
      (joinPieces? ps).map (Char.ofNat (0x10000 + (u - 0xD800) * 0x400 + (v - 0xDC00)) :: ·)
    else none
  | .half _ :: _ => none

/-- A text after its opening quote. The text is `none` if it denotes nothing. -/
def takeText (cs : List Char) : Option (Option String × List Char) :=
  (takePieces cs).map fun (ps, rest) => ((joinPieces? ps).map String.ofList, rest)

def takeNumeral (cs : List Char) : Option (Written × List Char) :=
  let whole := cs.takeWhile Char.isDigit
  let cs := cs.dropWhile Char.isDigit
  if whole.isEmpty || (whole.head? == some '0' && whole.length != 1) then none
  else
    let fraction : Option (Option (List Char) × List Char) :=
      match cs with
      | '.' :: cs =>
        let digits := cs.takeWhile Char.isDigit
        if digits.isEmpty then none else some (some digits, cs.dropWhile Char.isDigit)
      | cs => some (none, cs)
    fraction.bind fun (digits, cs) =>
      match takeExponent cs with
      | none => some (⟨whole, digits, none⟩, cs)
      | some none => none
      | some (some (e, cs)) => some (⟨whole, digits, some e⟩, cs)

/-- The value of a numeral. Integers that fit 64 bits stay integers, but for minus zero. -/
def numberValue (negative : Bool) (w : Written) : Value :=
  let n := digitsValue w.whole
  let limit := if negative then UInt64.size / 2 else UInt64.size - 1
  if w.fraction.isNone && w.exponent.isNone && n ≤ limit && !(negative && n == 0) then
    if negative then .negative n else .nat n
  else
    match w.scaled? with
    | none => .unreadable
    | some x => .real (if negative then -x else x)

def takeNumber : List Char → Option (Value × List Char)
  | '-' :: cs => (takeNumeral cs).map fun (w, rest) => (numberValue true w, rest)
  | cs => (takeNumeral cs).map fun (w, rest) => (numberValue false w, rest)

def after? (word : String) (cs : List Char) : Option (List Char) :=
  if word.toList.isPrefixOf cs then some (cs.drop word.length) else none

/-- A record with a key that denotes no text denotes nothing itself. -/
def recordOf (fields : List (Option String × Value)) : Value :=
  match fields.mapM fun (k, v) => k.map fun k => (k, v) with
  | some fields => .record fields
  | none => .unreadable

mutual

/-- A value, and what follows it. The fuel bounds the number of nested calls. -/
def takeValue (fuel : Nat) (cs : List Char) : Option (Value × List Char) :=
  match fuel with
  | 0 => none
  | fuel + 1 =>
    match skipBlanks cs with
    | '"' :: cs => (takeText cs).map fun (s, rest) => (s.elim .unreadable .text, rest)
    | '[' :: cs =>
      match skipBlanks cs with
      | ']' :: rest => some (.list [], rest)
      | cs => (takeItems fuel cs).map fun (items, rest) => (.list items, rest)
    | '{' :: cs =>
      match skipBlanks cs with
      | '}' :: rest => some (.record [], rest)
      | cs => (takeFields fuel cs).map fun (fields, rest) => (recordOf fields, rest)
    | 'n' :: cs => (after? "ull" cs).map fun rest => (.null, rest)
    | 't' :: cs => (after? "rue" cs).map fun rest => (.bool true, rest)
    | 'f' :: cs => (after? "alse" cs).map fun rest => (.bool false, rest)
    | cs => takeNumber cs

def takeItems (fuel : Nat) (cs : List Char) : Option (List Value × List Char) :=
  match fuel with
  | 0 => none
  | fuel + 1 =>
    (takeValue fuel cs).bind fun (v, rest) =>
      match skipBlanks rest with
      | ',' :: rest => (takeItems fuel rest).map fun (vs, rest) => (v :: vs, rest)
      | ']' :: rest => some ([v], rest)
      | _ => none

def takeFields (fuel : Nat) (cs : List Char) : Option (List (Option String × Value) × List Char) :=
  match fuel with
  | 0 => none
  | fuel + 1 =>
    match skipBlanks cs with
    | '"' :: cs =>
      (takeText cs).bind fun (k, rest) =>
        match skipBlanks rest with
        | ':' :: rest =>
          (takeValue fuel rest).bind fun (v, rest) =>
            match skipBlanks rest with
            | ',' :: rest => (takeFields fuel rest).map fun (fs, rest) => ((k, v) :: fs, rest)
            | '\x7d' :: rest => some ([(k, v)], rest)
            | _ => none
        | _ => none
    | _ => none

end

/-- A whole document. Every nested call consumes a character or ends, so the fuel suffices. -/
def parse? (s : String) : Option Value :=
  let cs := s.toList
  (takeValue (2 * cs.length + 2) cs).bind fun (v, rest) =>
    if (skipBlanks rest).isEmpty then some v else none

def read? {α : Type} [FromDocument α] (s : String) : Option α := (parse? s).bind FromDocument.read?

end ReplicaPlacement.Json
