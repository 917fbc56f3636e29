/-!
# Command line grammar

Options start with two hyphens. Their value follows as the next word, or after `=` in the same word.
A value is checked only when the next option or positional argument comes, or the line ends, so of
two faults the one that is noticed first counts.
-/

namespace ReplicaPlacement.Command

inductive UsageError where
  | help
  | emptyLine
  | missingSubcommand
  | unknownSubcommand
  | unknownArgument
  | missingArgument
  | conflict
  | invalidValue
  | refusedValue
  | surplusValue
  deriving DecidableEq, Repr

namespace UsageError

def message : UsageError → String
  | help => "help is asked for"
  | emptyLine => "no command is given"
  | missingSubcommand => "a subcommand is missing"
  | unknownSubcommand => "the subcommand is not known"
  | unknownArgument => "an argument is not known"
  | missingArgument => "a required argument is missing"
  | conflict => "two arguments cannot be used together"
  | invalidValue => "a value is missing or not among those allowed"
  | refusedValue => "a value cannot be read"
  | surplusValue => "an option takes no value"

end UsageError

inductive Arity where
  | flag
  | once
  | repeatable
  deriving DecidableEq, Repr

structure Argument where
  name : String
  arity : Arity := .once
  check : String → Option UsageError := fun _ => none

structure Grammar where
  options : List Argument
  positional : Option Argument := none
  required : List String := []
  /-- Exactly one of these must be given, if there are any. -/
  alternatives : List String := []

structure Given where
  /-- Newest first. -/
  values : List (String × String) := []

namespace Given

def has (g : Given) (name : String) : Bool := g.values.any (·.1 == name)

def all (g : Given) (name : String) : List String :=
  (g.values.reverse.filter (·.1 == name)).map (·.2)

def value? (g : Given) (name : String) : Option String := g.values.lookup name

def add (g : Given) (a : Argument) (value : String) : Except UsageError Given :=
  if a.arity ≠ .repeatable && g.has a.name then .error .conflict
  else
    match a.check value with
    | some e => .error e
    | none => .ok ⟨(a.name, value) :: g.values⟩

end Given

structure Scan where
  given : Given := {}
  /-- An argument that is not settled yet, with its value if that has come. -/
  pending : Option (Argument × Option String) := none
  trailing : Bool := false
  positionalSeen : Bool := false

namespace Scan

def settle (s : Scan) : Except UsageError Scan :=
  match s.pending with
  | none => .ok s
  | some (_, none) => .error .invalidValue
  | some (a, some value) => (s.given.add a value).map fun given => { s with given, pending := none }

def awaitsValue (s : Scan) : Bool :=
  match s.pending with
  | some (_, none) => true
  | _ => false

def readOption (g : Grammar) (s : Scan) (name : String) (attached : Option String) :
    Except UsageError Scan :=
  if name = "help" then
    if attached.isSome then .error .surplusValue else s.settle.bind fun _ => .error .help
  else
    match g.options.find? (·.name == name) with
    | none => .error .unknownArgument
    | some a =>
      match a.arity, attached with
      | .flag, some _ => .error .surplusValue
      | _, some value => do
        let s ← s.settle
        let given ← s.given.add a value
        pure { s with given }
      | .flag, none => do
        let s ← s.settle
        let given ← s.given.add a ""
        pure { s with given }
      | _, none => s.settle.map fun s => { s with pending := some (a, none) }

def readPositional (g : Grammar) (s : Scan) (word : String) : Except UsageError Scan :=
  match g.positional with
  | some a =>
    if s.positionalSeen then .error .unknownArgument
    else s.settle.map fun s => { s with pending := some (a, some word), positionalSeen := true }
  | none => .error .unknownArgument

def splitOption (cs : List Char) : String × Option String :=
  match cs.dropWhile (· ≠ '=') with
  | [] => (String.ofList cs, none)
  | _ :: value => (String.ofList (cs.takeWhile (· ≠ '=')), some (String.ofList value))

def readWord (g : Grammar) (s : Scan) (word : String) : Except UsageError Scan :=
  if s.trailing then readPositional g s word
  else
    match word.toList with
    | ['-', '-'] => .ok { s with trailing := true }
    | '-' :: '-' :: cs => readOption g s (splitOption cs).1 (splitOption cs).2
    | '-' :: 'h' :: _ => s.settle.bind fun _ => .error .help
    | '-' :: _ :: _ => .error .unknownArgument
    | _ =>
      match s.pending with
      | some (a, none) => .ok { s with pending := some (a, some word) }
      | _ => readPositional g s word

def finish (g : Grammar) (s : Scan) : Except UsageError Given := do
  let given := (← s.settle).given
  let chosen := g.alternatives.filter given.has
  if 1 < chosen.length then throw .conflict
  if chosen.isEmpty && !g.alternatives.isEmpty then throw .missingArgument
  if g.required.any (!given.has ·) then throw .missingArgument
  pure given

end Scan

def Grammar.read (g : Grammar) (words : List String) : Except UsageError Given := do
  (← words.foldlM (Scan.readWord g) {}).finish g

end ReplicaPlacement.Command
