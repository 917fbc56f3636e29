import ReplicaPlacement.Name
import ReplicaPlacement.Size

/-!
# What can be wrong with a cluster description
-/

namespace ReplicaPlacement

inductive ClusterError where
  | invalidName (kind name : String)
  | nodeNotFound (node : String)
  | poolNotFound (node pool : String)
  | invalidSnapshot (reason suggestion : String)
  | invalidSize (value : String)
  | invalidAcl (subject reason : String)
  | serialization (message : String)
  | io (message : String)
  deriving DecidableEq, Repr

namespace ClusterError

def message : ClusterError → String
  | invalidName kind name => s!"Invalid {kind} name: '{name}'"
  | nodeNotFound node => s!"Node not found: {node}"
  | poolNotFound node pool => s!"Storage pool '{pool}' not found on node '{node}'"
  | invalidSnapshot reason _ => s!"Invalid cluster snapshot: {reason}"
  | invalidSize value => s!"Invalid size: '{value}'"
  | invalidAcl subject reason => s!"Invalid grant for subject '{subject}': {reason}"
  | serialization message => s!"Serialization error: {message}"
  | io message => s!"I/O error: {message}"

def code : ClusterError → String
  | invalidName .. => "storplace::invalid_name"
  | nodeNotFound .. => "storplace::node_not_found"
  | poolNotFound .. => "storplace::storage_pool_not_found"
  | invalidSnapshot .. => "storplace::invalid_snapshot"
  | invalidSize .. => "storplace::invalid_size"
  | invalidAcl .. => "storplace::invalid_acl"
  | serialization .. => "storplace::serialization_error"
  | io .. => "storplace::io_error"

def help : ClusterError → String
  | invalidName .. =>
    "Names must be 2-48 characters long, start with a letter and contain only letters, digits, '_' or '-'"
  | nodeNotFound .. => "Register the node in the cluster snapshot before referencing it"
  | poolNotFound .. => "Volumes can only reference storage pools of the node hosting the resource"
  | invalidSnapshot _ suggestion => suggestion
  | invalidSize .. => "Use a plain KiB number or a suffixed value such as 512Mi, 10Gi or 1Ti"
  | invalidAcl .. =>
    "Each grant names a node, a storage pool definition, or both for a single storage pool"
  | serialization .. => "Ensure the snapshot format is valid JSON or YAML"
  | io .. => "Check that the file exists and is readable"

def notJson : ClusterError := serialization "Failed to deserialize from JSON"

def notYaml : ClusterError := serialization "Failed to deserialize from YAML"

end ClusterError

def Name.parse (kind : NameKind) (s : String) : Except ClusterError (Name kind) :=
  match Name.ofString? kind s with
  | some n => .ok n
  | none => .error (.invalidName kind.text s)

def Size.parse (s : String) : Except ClusterError UInt64 :=
  match Size.read? s with
  | some kib => .ok kib
  | none => .error (.invalidSize (Size.trimmed s))

end ReplicaPlacement
