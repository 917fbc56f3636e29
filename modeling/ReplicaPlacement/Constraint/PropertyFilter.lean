import ReplicaPlacement.Placement.Error

/-!
# Property filters

A filter names a node property and may pin it to a value. Its text is `key` or `key=value`. A filter
can be put together from any key; only one whose key is not empty and holds no `=` is valid, and
those are the filters that their text gives back.
-/

namespace ReplicaPlacement

structure PropertyFilter where
  key : String
  pinned : Option String := none
  deriving DecidableEq, Repr

namespace PropertyFilter

def text (f : PropertyFilter) : String :=
  match f.pinned with
  | none => f.key
  | some value => f.key ++ "=" ++ value

def isValid (f : PropertyFilter) : Bool := !f.key.toList.isEmpty && !f.key.toList.contains '='

def validate (f : PropertyFilter) : Except PlacementError Unit :=
  if f.isValid then .ok () else .error (.invalidPropertyFilter f.text)

/-- The filter that a text stands for: the first `=` ends the key. -/
def ofText (s : String) : PropertyFilter :=
  let key := s.toList.takeWhile (· ≠ '=')
  match s.toList.dropWhile (· ≠ '=') with
  | [] => ⟨String.ofList key, none⟩
  | _ :: value => ⟨String.ofList key, some (String.ofList value)⟩

def parse (s : String) : Except PlacementError PropertyFilter := do
  let f := ofText s
  f.validate
  pure f

instance : ToString PropertyFilter := ⟨text⟩

instance : ToValue PropertyFilter := ⟨fun f => .text f.text⟩

instance : FromDocument PropertyFilter where
  read? v := (Readable.text? v).bind fun s => (parse s).toOption

end PropertyFilter

end ReplicaPlacement
