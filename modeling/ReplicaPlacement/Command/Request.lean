import ReplicaPlacement.Command.Grammar
import ReplicaPlacement.Score
import ReplicaPlacement.Access.Policy
import ReplicaPlacement.Size

/-!
# Commands

What the program can be asked to do: store a cluster description, place one resource, or place a
list of resources.
-/

namespace ReplicaPlacement.Command

inductive OutputFormat where
  | yaml
  | json
  deriving DecidableEq, Repr

inductive Source where
  | registry (path : String)
  | file (path : String)
  deriving DecidableEq, Repr

structure PlacerOptions where
  config : Option String
  strategy : Option ScoreStrategy
  logCandidates : Bool
  accessList : Option String
  subject : Subject

structure ConstraintOptions where
  replicas : UInt64
  pool : Option String
  replicasOnSame : List String
  replicasOnDifferent : List String
  notPlaceWith : List String
  notPlaceWithPattern : Option String
  skipAlreadyPlaced : Bool
  size : UInt64

inductive Job where
  | store (path file : String)
  | place (source : Source) (placer : PlacerOptions) (resource : String)
      (constraints : ConstraintOptions) (output : OutputFormat)
  | batch (source : Source) (placer : PlacerOptions) (requests : String) (output : OutputFormat)

/-! ## Values -/

def checkPath (s : String) : Option UsageError := if s.isEmpty then some .invalidValue else none

def checkAmong (words : List String) (s : String) : Option UsageError :=
  if words.contains s then none else some .invalidValue

def checkReads {α : Type} (read : String → Option α) (s : String) : Option UsageError :=
  if (read s).isSome then none else some .refusedValue

def readCount? (s : String) : Option UInt64 :=
  (Text.readNat? s.toList).bind fun n => if n < UInt64.size then some (UInt64.ofNat n) else none

def readStrategy? (s : String) : Option ScoreStrategy := (ScoreStrategy.parse s).toOption

/-! ## Grammars -/

def logFormat : Argument := { name := "log-format", check := checkAmong ["text", "json"] }

def dataDir : Argument := { name := "data-dir", check := checkPath }

def output : Argument := { name := "output", check := checkAmong ["yaml", "json"] }

def placerArguments : List Argument := [
  { name := "config", check := checkPath },
  { name := "strategy", check := checkReads readStrategy? },
  { name := "log-candidates", arity := .flag },
  { name := "acl", check := checkPath },
  { name := "subject" }]

def sourceArguments : List Argument := [dataDir, { name := "snapshot", check := checkPath }]

def constraintArguments : List Argument := [
  { name := "replicas", check := checkReads readCount? },
  { name := "storage-pool" },
  { name := "replicas-on-same", arity := .repeatable },
  { name := "replicas-on-different", arity := .repeatable },
  { name := "not-place-with", arity := .repeatable },
  { name := "not-place-with-regex" },
  { name := "skip-already-placed", arity := .flag },
  { name := "size-kib", check := checkReads Size.read? }]

def sourceNames : List String := sourceArguments.map (·.name)

def storeGrammar : Grammar where
  options := [dataDir, logFormat]
  positional := some { name := "FILE", check := checkPath }
  required := ["FILE"]

def placeGrammar : Grammar where
  options :=
    sourceArguments ++ placerArguments ++ [{ name := "resource" }] ++ constraintArguments
      ++ [output, logFormat]
  required := ["resource"]
  alternatives := sourceNames

def batchGrammar : Grammar where
  options := sourceArguments ++ placerArguments ++ [output, logFormat]
  positional := some { name := "REQUESTS", check := checkPath }
  required := ["REQUESTS"]
  alternatives := sourceNames

/-! ## Jobs from arguments -/

def defaultStore : String := "./storplace.redb"

def sourceOf (g : Given) : Source :=
  match g.value? "data-dir" with
  | some path => .registry path
  | none => .file ((g.value? "snapshot").getD "")

def placerOf (g : Given) : PlacerOptions where
  config := g.value? "config"
  strategy := (g.value? "strategy").bind readStrategy?
  logCandidates := g.has "log-candidates"
  accessList := g.value? "acl"
  subject := (g.value? "subject").getD systemSubject

def constraintsOf (g : Given) : ConstraintOptions where
  replicas := ((g.value? "replicas").bind readCount?).getD 2
  pool := g.value? "storage-pool"
  replicasOnSame := g.all "replicas-on-same"
  replicasOnDifferent := g.all "replicas-on-different"
  notPlaceWith := g.all "not-place-with"
  notPlaceWithPattern := g.value? "not-place-with-regex"
  skipAlreadyPlaced := g.has "skip-already-placed"
  size := ((g.value? "size-kib").bind Size.read?).getD 0

def outputOf (g : Given) : OutputFormat :=
  if g.value? "output" == some "json" then .json else .yaml

inductive Subcommand where
  | store
  | place
  | batch
  deriving DecidableEq, Repr

namespace Subcommand

def ofName? : String → Option Subcommand
  | "import" => some store
  | "place" => some place
  | "batch" => some batch
  | _ => none

def read (words : List String) : Subcommand → Except UsageError Job
  | store =>
    (storeGrammar.read words).map fun g =>
      .store ((g.value? "data-dir").getD defaultStore) ((g.value? "FILE").getD "")
  | place =>
    (placeGrammar.read words).map fun g =>
      .place (sourceOf g) (placerOf g) ((g.value? "resource").getD "") (constraintsOf g)
        (outputOf g)
  | batch =>
    (batchGrammar.read words).map fun g =>
      .batch (sourceOf g) (placerOf g) ((g.value? "REQUESTS").getD "") (outputOf g)

end Subcommand

def helpOn : List String → UsageError
  | [] => .help
  | [name] => if name = "help" || (Subcommand.ofName? name).isSome then .help else .unknownSubcommand
  | _ => .unknownSubcommand

def mainGrammar : Grammar := { options := [logFormat] }

def readNothing (s : Scan) : UsageError :=
  match s.finish mainGrammar with
  | .error e => e
  | .ok g => if g.values.isEmpty then .emptyLine else .missingSubcommand

def readFrom (s : Scan) : List String → Except UsageError Job
  | [] => .error (readNothing s)
  | word :: words =>
    let isName := word = "help" || (Subcommand.ofName? word).isSome
    if isName && !s.trailing && !s.awaitsValue then
      match Subcommand.ofName? word with
      | none => .error (helpOn words)
      | some c => do
        let job ← c.read words
        let _ ← s.settle
        pure job
    else
      match s.readWord mainGrammar word with
      | .ok s => readFrom s words
      | .error e =>
        let isOption := !s.trailing && word.toList.head? == some '-' && word.length ≠ 1
        .error (if e = .unknownArgument && !isOption && !isName then .unknownSubcommand else e)

def usage : String :=
  "usage:\n"
    ++ "  import [--data-dir STORE] FILE\n"
    ++ "  place (--data-dir STORE | --snapshot FILE) --resource NAME [OPTION]...\n"
    ++ "  batch (--data-dir STORE | --snapshot FILE) [OPTION]... REQUESTS\n"
    ++ "options of place and batch:\n"
    ++ "  --config FILE --strategy NAME --log-candidates --acl FILE --subject NAME\n"
    ++ "  --output yaml|json\n"
    ++ "options of place:\n"
    ++ "  --replicas COUNT --storage-pool NAME --replicas-on-same FILTER\n"
    ++ "  --replicas-on-different FILTER --not-place-with NAME\n"
    ++ "  --not-place-with-regex PATTERN --skip-already-placed --size-kib SIZE\n"

def Job.parse (words : List String) : Except UsageError Job := readFrom {} words

end ReplicaPlacement.Command
