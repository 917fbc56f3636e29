import ReplicaPlacement.Cluster.Error

/-!
# What can be wrong with a stored registry
-/

namespace ReplicaPlacement

inductive StorageError where
  | database (message : String)
  | transaction (message : String)
  | serialization (message : String)
  | invalidKey (key : String)
  | invalidRegistry (cause : ClusterError)
  deriving DecidableEq, Repr

namespace StorageError

def message : StorageError → String
  | database message => s!"Database error: {message}"
  | transaction message => s!"Transaction error: {message}"
  | serialization message => s!"Serialization error: {message}"
  | invalidKey key => s!"Invalid registry key: {key}"
  | invalidRegistry cause => s!"Registry content is invalid: {cause.message}"

def code : StorageError → String
  | database .. => "storage::database_error"
  | transaction .. => "storage::transaction_error"
  | serialization .. => "storage::serialization_error"
  | invalidKey .. => "storage::invalid_key"
  | invalidRegistry .. => "storage::invalid_registry"

def help : StorageError → String
  | database .. =>
    "Check database logs and ensure the data directory is accessible and not corrupted"
  | transaction .. => "Ensure the transaction is not already committed or aborted"
  | serialization .. => "Ensure the data is valid and can be serialized"
  | invalidKey .. =>
    "The database contains keys not written by storplace; re-import the snapshot"
  | invalidRegistry .. => "Re-import a valid cluster snapshot"

def source : StorageError → Option String
  | invalidRegistry cause => some cause.message
  | _ => none

end StorageError

end ReplicaPlacement
