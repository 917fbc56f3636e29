import ReplicaPlacement.Pattern.Syntax
import ReplicaPlacement.Text.Blank
import ReplicaPlacement.Text.Numeral

/-!
# Reading patterns

A pattern is read from left to right. Blanks and comments may stand between its parts once the flag
for that is set.
-/

namespace ReplicaPlacement.Pattern

open Text

abbrev Rest := List Char

def skipBlanks (inComment : Bool) : Rest → Rest
  | [] => []
  | c :: cs =>
    if inComment then skipBlanks (c ≠ '\n') cs
    else if isBlank c then skipBlanks false cs
    else if c = '#' then skipBlanks true cs
    else c :: cs

def skip (blanks : Bool) (cs : Rest) : Rest := if blanks then skipBlanks false cs else cs

theorem length_skipBlanks_le (inComment : Bool) (cs : Rest) :
    (skipBlanks inComment cs).length ≤ cs.length := by
  induction cs generalizing inComment with
  | nil => simp [skipBlanks]
  | cons c cs ih =>
    unfold skipBlanks
    split
    · exact Nat.le_succ_of_le (ih _)
    · split
      · exact Nat.le_succ_of_le (ih _)
      · split
        · exact Nat.le_succ_of_le (ih _)
        · simp

theorem length_skip_le (blanks : Bool) (cs : Rest) : (skip blanks cs).length ≤ cs.length := by
  unfold skip
  split
  · exact length_skipBlanks_le _ _
  · exact Nat.le_refl _

def takeRun (blanks : Bool) (test : Char → Bool) (cs : Rest) : List Char × Rest :=
  match cs with
  | [] => ([], [])
  | c :: cs =>
    if test c then
      let (run, rest) := takeRun blanks test (skip blanks cs)
      (c :: run, rest)
    else ([], c :: cs)
termination_by cs.length
decreasing_by
  have := length_skip_le blanks cs
  simp only [List.length_cons]
  omega

/-! ## Escapes -/

inductive Escape where
  | literal (l : Literal)
  | look (l : Look)
  | single (c : ClassExpr)

def isMeta (c : Char) : Bool := ("\\.+*?()|[]\x7b\x7d^$#&-~".toList).contains c

def isEscapable (c : Char) : Bool :=
  isMeta c || (c.toNat < 0x80 && !c.isAlphanum && c ≠ '<' && c ≠ '>')

def isHex (c : Char) : Bool := (digitInBase? 16 c).isSome

def charOf? (digits : List Char) : Option Char :=
  (readDigits? 16 digits).bind fun n => if h : n.isValidChar then some (Char.ofNatAux n h) else none

def takeHexDigits (blanks : Bool) : Nat → Rest → Option (List Char × Rest)
  | 0, cs => some ([], cs)
  | _ + 1, [] => none
  | n + 1, c :: cs =>
    if isHex c then
      (takeHexDigits blanks n (skip blanks cs)).map fun (ds, rest) => (c :: ds, rest)
    else none

def takeNumbered (blanks : Bool) (letter : Char) (cs : Rest) : Option (Escape × Rest) :=
  match skip blanks cs with
  | '\x7b' :: cs =>
    match takeRun blanks isHex (skip blanks cs) with
    | (digits, '\x7d' :: rest) =>
      (charOf? digits).map fun c => (.literal ⟨c, false⟩, skip blanks rest)
    | _ => none
  | cs =>
    let count := if letter = 'x' then 2 else if letter = 'u' then 4 else 8
    (takeHexDigits blanks count cs).bind fun (digits, rest) =>
      (charOf? digits).map fun c => (.literal ⟨c, letter = 'x'⟩, rest)

def splitAtMark? (mark : List Char) : List Char → Option (List Char × List Char)
  | [] => none
  | c :: cs =>
    if mark.isPrefixOf (c :: cs) then some ([], (c :: cs).drop mark.length)
    else (splitAtMark? mark cs).map fun (before, after) => (c :: before, after)

def propertyOf (text : List Char) (negated : Bool) : ClassExpr :=
  let split :=
    splitAtMark? ['!', '='] text <|> splitAtMark? [':'] text <|> splitAtMark? ['='] text
  match split with
  | some (name, value) => .property (String.ofList name) (some (String.ofList value)) negated
  | none => .property (String.ofList text) none negated

def takeProperty (blanks negated : Bool) (cs : Rest) : Option (Escape × Rest) :=
  match skip blanks cs with
  | [] => none
  | '\x7b' :: cs =>
    match takeRun blanks (· ≠ '\x7d') (skip blanks cs) with
    | (text, _ :: rest) => some (.single (propertyOf text negated), rest)
    | (_, []) => none
  | '\\' :: _ => none
  | c :: cs => some (.single (.property (toString c) none negated), skip blanks cs)

def specialBoundary? : String → Option Look
  | "start" => some .wordStart
  | "end" => some .wordEnd
  | "start-half" => some .wordStartHalf
  | "end-half" => some .wordEndHalf
  | _ => none

/-- A word boundary, which may be of a special kind named between braces. Braces that begin with
something else belong to what follows. -/
def takeBoundary (blanks : Bool) (cs : Rest) : Option (Escape × Rest) :=
  let isNameChar : Char → Bool := fun c => c.isAlpha || c = '-'
  match cs with
  | '\x7b' :: inner =>
    match skip blanks inner with
    | [] => none
    | c :: inner =>
      if !isNameChar c then some (.look .wordBoundary, cs)
      else
        match takeRun blanks isNameChar (c :: inner) with
        | (name, '\x7d' :: rest) =>
          (specialBoundary? (String.ofList name)).map fun l => (.look l, rest)
        | _ => none
  | cs => some (.look .wordBoundary, cs)

def takeEscape (blanks : Bool) : Rest → Option (Escape × Rest)
  | [] => none
  | c :: cs =>
    match c with
    | 'x' | 'u' | 'U' => takeNumbered blanks c cs
    | 'p' => takeProperty blanks false cs
    | 'P' => takeProperty blanks true cs
    | 'd' => some (.single (.short .digit false), cs)
    | 'D' => some (.single (.short .digit true), cs)
    | 's' => some (.single (.short .space false), cs)
    | 'S' => some (.single (.short .space true), cs)
    | 'w' => some (.single (.short .word false), cs)
    | 'W' => some (.single (.short .word true), cs)
    | 'a' => some (.literal ⟨'\x07', false⟩, cs)
    | 'f' => some (.literal ⟨'\x0c', false⟩, cs)
    | 't' => some (.literal ⟨'\t', false⟩, cs)
    | 'n' => some (.literal ⟨'\n', false⟩, cs)
    | 'r' => some (.literal ⟨'\r', false⟩, cs)
    | 'v' => some (.literal ⟨'\x0b', false⟩, cs)
    | 'A' => some (.look .textStart, cs)
    | 'z' => some (.look .textEnd, cs)
    | 'b' => takeBoundary blanks cs
    | 'B' => some (.look .notWordBoundary, cs)
    | '<' => some (.look .wordStart, cs)
    | '>' => some (.look .wordEnd, cs)
    | c => if isEscapable c then some (.literal ⟨c, false⟩, cs) else none

/-! ## Classes in brackets -/

def asciiClassNames : List String :=
  ["alnum", "alpha", "ascii", "blank", "cntrl", "digit", "graph", "lower", "print", "punct",
    "space", "upper", "word", "xdigit"]

def takeAsciiClass? : Rest → Option (ClassExpr × Rest)
  | ':' :: cs =>
    let (negated, cs) :=
      match cs with
      | '^' :: cs => (true, cs)
      | cs => (false, cs)
    let name := String.ofList (cs.takeWhile (· ≠ ':'))
    match cs.dropWhile (· ≠ ':') with
    | ':' :: ']' :: rest =>
      if asciiClassNames.contains name then some (.ascii name negated, rest) else none
    | _ => none
  | _ => none

def takeClassItem (blanks : Bool) : Rest → Option (ClassExpr × Rest)
  | [] => none
  | '\\' :: cs =>
    match takeEscape blanks cs with
    | some (.literal l, rest) => some (.literal l, rest)
    | some (.single c, rest) => some (c, rest)
    | _ => none
  | c :: cs => some (.literal ⟨c, false⟩, cs)

/-- The next character that is no blank. In a comment only its mark is skipped. -/
def peek? (blanks : Bool) (cs : Rest) : Option Char :=
  if !blanks then cs.head?
  else
    match cs.dropWhile isBlank with
    | '#' :: cs => (cs.dropWhile isBlank).head?
    | cs => cs.head?

/-- A range, or one item. A hyphen before a closing bracket or another hyphen makes no range. -/
def takeRange (blanks : Bool) (cs : Rest) : Option (ClassExpr × Rest) :=
  (takeClassItem blanks cs).bind fun (low, rest) =>
    match skip blanks rest with
    | [] => none
    | '-' :: after =>
      if peek? blanks after == some ']' || peek? blanks after == some '-' then
        some (low, '-' :: after)
      else
        (takeClassItem blanks (skip blanks after)).bind fun (high, rest) =>
          match low, high with
          | .literal a, .literal b => if a.char ≤ b.char then some (.range a b, rest) else none
          | _, _ => none
    | rest => some (low, rest)

abbrev Pending := Option (SetOperator × ClassExpr)

def Pending.close (p : Pending) (items : List ClassExpr) : ClassExpr :=
  let right := ClassExpr.ofItems items.reverse
  match p with
  | none => right
  | some (op, left) => .combine op left right

def takeHyphens (blanks : Bool) (cs : Rest) : List ClassExpr × Rest :=
  let (run, rest) := takeRun blanks (· = '-') cs
  (run.map fun c => .literal ⟨c, false⟩, rest)

/-- What stands at the start of a class: the mark of negation, then hyphens or one closing bracket
that stand for themselves. -/
def takeClassStart (blanks : Bool) (cs : Rest) : Bool × List ClassExpr × Rest :=
  let (negated, cs) :=
    match skip blanks cs with
    | '^' :: cs => (true, skip blanks cs)
    | cs => (false, cs)
  match takeHyphens blanks cs with
  | ([], ']' :: cs) => (negated, [.literal ⟨']', false⟩], skip blanks cs)
  | (hyphens, cs) => (negated, hyphens, cs)

/-- A class up to its closing bracket, given what was read before. Every call consumes a character,
so the length of the pattern is fuel enough. -/
def takeClassBody (fuel : Nat) (blanks : Bool) (pending : Pending) (items : List ClassExpr)
    (cs : Rest) : Option (ClassExpr × Rest) :=
  match fuel with
  | 0 => none
  | fuel + 1 =>
    match skip blanks cs with
    | [] => none
    | '[' :: cs =>
      match takeAsciiClass? cs with
      | some (c, rest) => takeClassBody fuel blanks pending (c :: items) rest
      | none =>
        let (negated, start, cs) := takeClassStart blanks cs
        (takeClassBody fuel blanks none start.reverse cs).bind fun (inner, rest) =>
          takeClassBody fuel blanks pending (.bracketed negated inner :: items) rest
    | ']' :: rest => some (pending.close items, rest)
    | '&' :: '&' :: rest =>
      takeClassBody fuel blanks (some (.intersection, pending.close items)) [] rest
    | '-' :: '-' :: rest =>
      takeClassBody fuel blanks (some (.difference, pending.close items)) [] rest
    | '~' :: '~' :: rest =>
      takeClassBody fuel blanks (some (.symmetricDifference, pending.close items)) [] rest
    | cs =>
      (takeRange blanks cs).bind fun (c, rest) =>
        takeClassBody fuel blanks pending (c :: items) rest

def takeClass (blanks : Bool) (cs : Rest) : Option (ClassExpr × Rest) :=
  let (negated, start, rest) := takeClassStart blanks cs
  (takeClassBody (cs.length + 1) blanks none start.reverse rest).map fun (inner, rest) =>
    (.bracketed negated inner, rest)

/-! ## Repetition -/

def takeCount (blanks : Bool) (cs : Rest) : Option Nat × Rest :=
  let (digits, rest) := takeRun blanks Char.isDigit (cs.dropWhile isBlank)
  let (_, rest) := takeRun blanks isBlank rest
  ((readDigits? 10 digits).bind fun n => if n < UInt32.size then some n else none, rest)

def takeBounds (blanks : Bool) (cs : Rest) : Option ((Nat × Option Nat) × Rest) :=
  match takeCount blanks (skip blanks cs) with
  | (some least, ',' :: rest) =>
    match skip blanks rest with
    | '\x7d' :: rest => some ((least, none), skip blanks rest)
    | rest =>
      match takeCount blanks rest with
      | (some most, '\x7d' :: rest) =>
        if least ≤ most then some ((least, some most), skip blanks rest) else none
      | _ => none
  | (some least, '\x7d' :: rest) => some ((least, some least), skip blanks rest)
  | _ => none

/-- Drops the mark that makes a repetition lazy. It does not change what a pattern matches. -/
def dropLazy : Rest → Rest
  | '?' :: cs => cs
  | cs => cs

/-- Repeats the newest part. Nothing and a change of flags cannot be repeated. -/
def repeatLast (least : Nat) (most : Option Nat) : List Node → Option (List Node)
  | [] => none
  | .flags _ :: _ => none
  | n :: ns => some (.repeated n least most :: ns)

/-! ## Groups -/

def takeFlags (on : Bool) (afterMinus : Bool) (changes : FlagChanges) :
    Rest → Option (FlagChanges × Rest)
  | [] => none
  | c :: cs =>
    if c = ':' ∨ c = ')' then if afterMinus then none else some (changes.reverse, c :: cs)
    else if c = '-' then if on then takeFlags false true changes cs else none
    else
      (Flag.ofChar? c).bind fun flag =>
        if changes.any (·.1 = flag) then none
        else takeFlags on false ((flag, on) :: changes) cs

def changeOf (changes : FlagChanges) (flag : Flag) : Option Bool := changes.lookup flag

def isLetter (c : Char) : Bool := c.isAlpha || 0x80 ≤ c.toNat

def isGroupName : List Char → Bool
  | [] => false
  | c :: cs =>
    (isLetter c || c = '_')
      && cs.all fun c => isLetter c || c.isDigit || c = '_' || c = '.' || c = '[' || c = ']'

inductive Opening where
  | flags (changes : FlagChanges)
  | group (changes : FlagChanges)
  | named (name : String)

def takeGroupName (cs : Rest) : Option (Opening × Rest) :=
  let name := cs.takeWhile (· ≠ '>')
  match cs.dropWhile (· ≠ '>') with
  | _ :: rest => if isGroupName name then some (.named (String.ofList name), rest) else none
  | [] => none

def takeOpening (cs : Rest) : Option (Opening × Rest) :=
  match cs with
  | '?' :: '=' :: _ => none
  | '?' :: '!' :: _ => none
  | '?' :: '<' :: '=' :: _ => none
  | '?' :: '<' :: '!' :: _ => none
  | '?' :: 'P' :: '<' :: cs => takeGroupName cs
  | '?' :: '<' :: cs => takeGroupName cs
  | '?' :: cs =>
    match takeFlags true false [] cs with
    | some (changes, ')' :: rest) => if changes.isEmpty then none else some (.flags changes, rest)
    | some (changes, _ :: rest) => some (.group changes, rest)
    | _ => none
  | cs => some (.group [], cs)

structure ReaderState where
  blanks : Bool := false
  names : List String := []

namespace ReaderState

def change (st : ReaderState) (changes : FlagChanges) : ReaderState :=
  { st with blanks := (changeOf changes .ignoreBlanks).getD st.blanks }

def enter? (st : ReaderState) : Opening → Option (FlagChanges × ReaderState)
  | .flags _ => none
  | .group changes => some (changes, st.change changes)
  | .named name =>
    if st.names.contains name then none else some ([], { st with names := name :: st.names })

end ReaderState

def alternatives (branches items : List Node) : Node :=
  Node.ofBranches ((Node.ofItems items.reverse :: branches).reverse)

/-- A pattern up to its end or to a closing parenthesis, given what was read before. Every call
consumes a character, so the length of the pattern is fuel enough. -/
def takeBody (fuel : Nat) (st : ReaderState) (branches items : List Node) (cs : Rest) :
    Option (Node × ReaderState × Rest) :=
  match fuel with
  | 0 => none
  | fuel + 1 =>
    match skip st.blanks cs with
    | [] => some (alternatives branches items, st, [])
    | ')' :: rest => some (alternatives branches items, st, ')' :: rest)
    | '|' :: rest => takeBody fuel st (Node.ofItems items.reverse :: branches) [] rest
    | '(' :: rest =>
      match takeOpening (skip st.blanks rest) with
      | none => none
      | some (.flags changes, rest) =>
        takeBody fuel (st.change changes) branches (.flags changes :: items) rest
      | some (opening, rest) =>
        match st.enter? opening with
        | none => none
        | some (changes, inside) =>
          match takeBody fuel inside [] [] rest with
          | some (inner, after, ')' :: rest) =>
            takeBody fuel { after with blanks := st.blanks } branches
              (.group changes inner :: items) rest
          | _ => none
    | '[' :: rest =>
      (takeClass st.blanks rest).bind fun (c, rest) =>
        takeBody fuel st branches (.single c :: items) rest
    | '?' :: rest =>
      (repeatLast 0 (some 1) items).bind fun items => takeBody fuel st branches items (dropLazy rest)
    | '*' :: rest =>
      (repeatLast 0 none items).bind fun items => takeBody fuel st branches items (dropLazy rest)
    | '+' :: rest =>
      (repeatLast 1 none items).bind fun items => takeBody fuel st branches items (dropLazy rest)
    | '\x7b' :: rest =>
      (takeBounds st.blanks rest).bind fun ((least, most), rest) =>
        (repeatLast least most items).bind fun items =>
          takeBody fuel st branches items (dropLazy rest)
    | '\\' :: rest =>
      (takeEscape st.blanks rest).bind fun (e, rest) =>
        let n : Node :=
          match e with
          | .literal l => .literal l
          | .look l => .look l
          | .single c => .single c
        takeBody fuel st branches (n :: items) rest
    | '.' :: rest => takeBody fuel st branches (.dot :: items) rest
    | '^' :: rest => takeBody fuel st branches (.look .lineStart :: items) rest
    | '$' :: rest => takeBody fuel st branches (.look .lineEnd :: items) rest
    | c :: rest => takeBody fuel st branches (.literal ⟨c, false⟩ :: items) rest

def maxDepth : Nat := 250

def Node.ofString? (s : String) : Option Node :=
  match takeBody (s.toList.length + 1) {} [] [] s.toList with
  | some (n, _, []) => if n.depth ≤ maxDepth then some n else none
  | _ => none

end ReplicaPlacement.Pattern
