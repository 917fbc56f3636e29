import ReplicaPlacement.Access.Policy
import ReplicaPlacement.Cluster.Provider
import ReplicaPlacement.Registry.Error

/-!
# Why a placement cannot be decided

That no placement is feasible is an answer and no error.
-/

namespace ReplicaPlacement

inductive PlacementError where
  | accessDenied (action : String) (cause : AccessDenied)
  | invalidPattern (pattern : String)
  | invalidPropertyFilter (expression : String)
  | providerConflict (resource : String) (first second : ProviderKind)
  | storage (cause : StorageError)
  | cluster (cause : ClusterError)
  | internal (message : String)
  deriving DecidableEq

namespace PlacementError

def message : PlacementError → String
  | accessDenied action cause => s!"Access denied while trying to {action}: {cause.message}"
  | invalidPattern pattern => s!"Invalid resource name pattern '{pattern}'"
  | invalidPropertyFilter expression => s!"Invalid property filter '{expression}'"
  | providerConflict resource first second =>
    s!"Resource {resource} is deployed with provider kinds {first} and {second}"
  | storage cause => s!"Storage error: {cause.message}"
  | cluster cause => s!"Core error: {cause.message}"
  | internal message => s!"Internal error: {message}"

def code : PlacementError → String
  | accessDenied .. => "scheduler::access_denied"
  | invalidPattern .. => "scheduler::invalid_regex"
  | invalidPropertyFilter .. => "scheduler::invalid_property_filter"
  | providerConflict .. => "scheduler::provider_kind_conflict"
  | storage .. => "scheduler::storage_error"
  | cluster .. => "scheduler::core_error"
  | internal .. => "scheduler::internal_error"

def help : PlacementError → String
  | accessDenied .. =>
    "Grant the subject the required access or run the placement with a privileged context"
  | invalidPattern .. => "Fix the --not-place-with-regex pattern; it uses Rust regex syntax"
  | invalidPropertyFilter .. =>
    "Property filters have the form 'key' or 'key=value' with a non-empty key"
  | providerConflict .. =>
    "The registry is inconsistent; a resource's diskful volumes must share one provider kind"
  | storage .. => "Check the underlying storage system"
  | cluster .. => "Check the cluster snapshot and the supplied names"
  | internal .. => "This is likely a bug. Please report it"

def source : PlacementError → Option String
  | accessDenied _ cause => some cause.message
  | storage cause => some cause.message
  | cluster cause => some cause.message
  | _ => none

end PlacementError

end ReplicaPlacement
