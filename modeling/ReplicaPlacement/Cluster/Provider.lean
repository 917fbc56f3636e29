import ReplicaPlacement.Document.Readable

/-!
# Storage back ends
-/

namespace ReplicaPlacement

inductive ProviderKind where
  | diskless
  | lvm
  | lvmThin
  | zfs
  | zfsThin
  | file
  | fileThin
  | spdk
  | exos
  deriving DecidableEq, Repr

namespace ProviderKind

def all : List ProviderKind :=
  [diskless, lvm, lvmThin, zfs, zfsThin, file, fileThin, spdk, exos]

def text : ProviderKind → String
  | diskless => "DISKLESS"
  | lvm => "LVM"
  | lvmThin => "LVM_THIN"
  | zfs => "ZFS"
  | zfsThin => "ZFS_THIN"
  | file => "FILE"
  | fileThin => "FILE_THIN"
  | spdk => "SPDK"
  | exos => "EXOS"

def label : ProviderKind → String
  | diskless => "Diskless"
  | lvm => "Lvm"
  | lvmThin => "LvmThin"
  | zfs => "Zfs"
  | zfsThin => "ZfsThin"
  | file => "File"
  | fileThin => "FileThin"
  | spdk => "Spdk"
  | exos => "Exos"

/-- Volumes take space only as they fill. -/
def isThin : ProviderKind → Bool
  | lvmThin | zfsThin | fileThin => true
  | _ => false

def isDiskless (k : ProviderKind) : Bool := k == diskless

instance : ToString ProviderKind := ⟨text⟩

instance : ToValue ProviderKind := ⟨fun k => .text k.text⟩

instance : FromDocument ProviderKind := ⟨variantAmong? text all⟩

end ProviderKind

end ReplicaPlacement
