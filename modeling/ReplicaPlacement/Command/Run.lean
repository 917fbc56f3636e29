import ReplicaPlacement.Access.Control
import ReplicaPlacement.Command.Request
import ReplicaPlacement.Document.Yaml.Writer
import ReplicaPlacement.Pattern.Language
import ReplicaPlacement.Placement.Autoplacer

/-!
# Carrying out commands

A command reads files and stores through an environment and answers with what is to be printed.
-/

namespace ReplicaPlacement.Command

structure Environment (m : Type → Type) where
  readText : String → m (Option String)
  /-- The content of a store file, which is made if there is none. `none` if the file is no store or
  cannot be made. -/
  openStore : String → m (Option Store.Content)
  saveStore : String → Store.Content → m Unit
  report : Event → m Unit

inductive Failure where
  | cluster (cause : ClusterError)
  | storage (cause : StorageError)
  | placement (cause : PlacementError)
  | other (message : String)
  deriving DecidableEq

namespace Failure

def message : Failure → String
  | cluster cause => cause.message
  | storage cause => cause.message
  | placement cause => cause.message
  | other message => message

def help : Failure → Option String
  | cluster cause => some cause.help
  | storage cause => some cause.help
  | placement cause => some cause.help
  | other _ => none

end Failure

/-- What is printed, and whether everything asked for was placed. -/
structure Outcome where
  output : String := ""
  errorOutput : String := ""
  complete : Bool := true
  deriving DecidableEq, Repr

section

variable {m : Type → Type} [Monad m] (env : Environment m)

abbrev Run (m : Type → Type) (α : Type) := ExceptT Failure m α

def info (render : Unit → String) : Run m Unit := ExceptT.lift (env.report ⟨.info, render⟩)

def attempt {ε α : Type} (f : ε → Failure) (x : Attempt ε α) : Run m α := do
  x.events.forM fun e => ExceptT.lift (env.report e)
  match x.result with
  | .ok a => pure a
  | .error e => throw (f e)

/-! ## Files -/

/-- The last part of the path ends in `.json`. A name that only consists of that has no ending. -/
def isJsonPath (path : String) : Bool :=
  let name := path.toList.reverse.takeWhile (· ≠ '/')
  (".json".toList.reverse).isPrefixOf name && name.length ≠ 5

def readDocument {α : Type} [FromDocument α] (path text : String) : Except ClusterError α :=
  if isJsonPath path then
    match Json.read? text with
    | some a => .ok a
    | none => .error .notJson
  else
    match Yaml.read? text with
    | some a => .ok a
    | none => .error .notYaml

def readFile {α : Type} [FromDocument α] (purpose path : String) (f : ClusterError → Failure) :
    Run m α := do
  match ← ExceptT.lift (env.readText path) with
  | none => throw (f (.io s!"Failed to read {purpose} '{path}'"))
  | some text =>
    match readDocument path text with
    | .ok a => pure a
    | .error e => throw (f e)

def readSnapshot (path : String) : Run m Snapshot := do
  let inventory : Inventory ← readFile env "snapshot" path .cluster
  attempt env .cluster inventory.build

def openRegistry (path : String) : Run m Store.Content := do
  ExceptT.lift (env.report (Store.openingEvent path))
  match ← ExceptT.lift (env.openStore path) with
  | some content => do
    ExceptT.lift (env.report Store.openedEvent)
    pure content
  | none => throw (.other s!"Failed to open registry at '{path}'")

def Source.load : Source → Run m Snapshot
  | .registry path => do
    let content ← openRegistry env path
    attempt env .storage (Registry.load .json content)
  | .file path => readSnapshot env path

/-! ## Options -/

def PlacerOptions.readConfig (o : PlacerOptions) : Run m AutoplacerConfig := do
  let config : AutoplacerConfig ←
    match o.config with
    | none => pure {}
    | some path => readFile env "config" path fun e => .placement (.cluster e)
  pure {
    strategy := o.strategy.getD config.strategy
    logCandidates := o.logCandidates || config.logCandidates }

def PlacerOptions.readPolicy (o : PlacerOptions) : Run m AccessPolicy :=
  match o.accessList with
  | none => pure .allowAll
  | some path => do
    info env fun _ => s!"Checking access against {path}"
    let list : AccessList ← readFile env "access control list" path .cluster
    let table ← attempt env .cluster (Attempt.ofExcept list.table)
    pure table.policy

def PlacerOptions.autoplacer (o : PlacerOptions) : Run m (Autoplacer Float) := do
  let policy ← o.readPolicy env
  let config ← o.readConfig env
  pure (.ofConfig policy config Pattern.language)

def ConstraintOptions.read (o : ConstraintOptions) : Except Failure ConstraintSet := do
  let forcedPool ←
    match o.pool with
    | none => pure none
    | some s => ((Name.parse .storagePool s).map some).mapError .cluster
  let replicasOnSame ← (o.replicasOnSame.mapM PropertyFilter.parse).mapError .placement
  let replicasOnDifferent ← (o.replicasOnDifferent.mapM PropertyFilter.parse).mapError .placement
  let notPlaceWith ← (o.notPlaceWith.mapM (Name.parse .resource)).mapError .cluster
  pure {
    replicaCount := o.replicas
    forcedPool, notPlaceWith
    notPlaceWithPattern := o.notPlaceWithPattern
    replicasOnSame, replicasOnDifferent
    skipAlreadyPlaced := o.skipAlreadyPlaced
    size := o.size }

/-! ## Commands -/

def asLine (s : String) : String :=
  String.ofList (s.toList.reverse.dropWhile Text.isBlank).reverse ++ "\n"

def render {α : Type} [ToValue α] (x : α) : OutputFormat → String
  | .yaml => asLine (Yaml.write (toValue x))
  | .json => asLine (Json.pretty (toValue x))

def runStore (path file : String) : Run m Outcome := do
  let s ← readSnapshot env file
  let content ← openRegistry env path
  let saved ← attempt (ε := StorageError) env .storage (Attempt.ofTraced (Registry.save .json s content))
  ExceptT.lift (env.saveStore path saved)
  info env fun _ => s!"Imported {s.nodes.length} nodes from '{file}' into '{path}'"
  pure {}

def runPlace (source : Source) (placer : PlacerOptions) (resource : String)
    (constraints : ConstraintOptions) (output : OutputFormat) : Run m Outcome := do
  let name ← attempt env .cluster (Attempt.ofExcept (Name.parse .resource resource))
  let c ← attempt env id (Attempt.ofExcept constraints.read)
  let a ← placer.autoplacer env
  let placement ←
    match source with
    | .registry path => do
      let content ← openRegistry env path
      attempt env .placement (a.placeFromRegistry .json content placer.subject name c)
    | .file path => do
      let s ← readSnapshot env path
      attempt env .placement (a.place s placer.subject name c)
  match placement with
  | some p => pure { output := render p output }
  | none =>
    pure {
      errorOutput :=
        s!"No feasible placement of {c.replicaCount} replicas for resource '{name}'\n"
      complete := false }

structure Request where
  resource : ResourceName
  constraints : ConstraintSet := {}

instance : FromDocument Request where
  read? v := do
    let fs ← Fields.of? ["resource", "constraints"] v
    let resource ← fs.required "resource"
    let constraints ← fs.defaulted "constraints" {}
    pure { resource, constraints }

inductive Answer where
  | placed (p : Placement Float)
  | infeasible
  | failed (e : PlacementError)

def Answer.isPlaced : Answer → Bool
  | placed _ => true
  | _ => false

instance : ToValue (ResourceName × Answer) where
  toValue := fun (resource, answer) =>
    .record (("resource", toValue resource) ::
      match answer with
      | .placed p => [("status", .text "placed"), ("placement", toValue p)]
      | .infeasible => [("status", .text "infeasible")]
      | .failed e => [("status", .text "failed"), ("error", .text e.message)])

/-- Carries out one request. An error is an answer and does not keep others from being placed. -/
def answer (a : Autoplacer Float) (s : Snapshot) (subject : Subject) (r : Request) :
    m (ResourceName × Answer) := do
  let x := a.place s subject r.resource r.constraints
  x.events.forM env.report
  match x.result with
  | .ok (some p) => pure (r.resource, .placed p)
  | .ok none => pure (r.resource, .infeasible)
  | .error e => do
    env.report ⟨.error, fun _ => s!"Placement of resource '{r.resource}' failed: {e.message}"⟩
    pure (r.resource, .failed e)

def runBatch (source : Source) (placer : PlacerOptions) (path : String) (output : OutputFormat) :
    Run m Outcome := do
  let text ←
    match ← ExceptT.lift (env.readText path) with
    | some text => pure text
    | none => throw (.other s!"Failed to read requests '{path}'")
  let requests : List Request ←
    match Yaml.read? text with
    | some rs => pure rs
    | none => throw (.cluster .notYaml)
  let s ← source.load env
  let a ← placer.autoplacer env
  info env fun _ => s!"Running {requests.length} placement requests"
  let answers ← ExceptT.lift (requests.mapM (answer env a s placer.subject))
  let missed := (answers.filter fun x => !x.2.isPlaced).length
  if missed ≠ 0 then
    ExceptT.lift (env.report
      ⟨.warn, fun _ => s!"{missed} of {answers.length} requests were not placed"⟩)
  pure { output := render answers output, complete := missed = 0 }

def Job.run : Job → Run m Outcome
  | .store path file => runStore env path file
  | .place source placer resource constraints output =>
    runPlace env source placer resource constraints output
  | .batch source placer requests output => runBatch env source placer requests output

end

end ReplicaPlacement.Command
