import ReplicaPlacement.Cluster.Provider
import ReplicaPlacement.Name
import ReplicaPlacement.Text.Quoted

/-!
# Values in log lines

Log lines show names with their spelling and their identity, and sets between braces.
-/

namespace ReplicaPlacement

def NameKind.label : NameKind → String
  | .node => "NodeName"
  | .storagePool => "StorPoolName"
  | .resource => "ResourceName"

def Name.inspect {kind : NameKind} (n : Name kind) : String :=
  kind.label ++ " \x7b display: " ++ Text.quoted n.text ++ ", value: " ++ Text.quoted n.key ++ " \x7d"

def Name.inspectAll {kind : NameKind} (names : List (Name kind)) : String :=
  "\x7b" ++ ", ".intercalate (names.map inspect) ++ "\x7d"

def ProviderKind.inspect : Option ProviderKind → String
  | none => "None"
  | some kind => s!"Some({kind.label})"

end ReplicaPlacement
