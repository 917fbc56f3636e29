import ReplicaPlacement.Access.Object

/-!
# Access policies

A policy says how much access a subject has on an object, and is asked with the object as it is spelled
where the question comes up. Checks compare the answer with what is asked for.
-/

namespace ReplicaPlacement

abbrev Subject := String

def systemSubject : Subject := "SYSTEM"

/-- The access each subject has on each object; `none` is no access at all. -/
structure AccessPolicy where
  granted : Subject → SecuredObject → Option AccessLevel

structure AccessDenied where
  subject : Subject
  object : String
  requested : AccessLevel
  granted : Option AccessLevel
  deriving DecidableEq

namespace AccessDenied

def message (e : AccessDenied) : String :=
  s!"Subject '{e.subject}' lacks {e.requested} access on {e.object}"

def code : String := "storplace::access_denied"

def help (e : AccessDenied) : String :=
  s!"Grant the subject at least {e.requested} access, or run the operation with a privileged context"

end AccessDenied

namespace AccessPolicy

def allowAll : AccessPolicy := ⟨fun _ _ => some .control⟩

variable (p : AccessPolicy) (subject : Subject) (object : SecuredObject)

def query : Option AccessLevel := p.granted subject object

def has (requested : AccessLevel) : Bool :=
  (p.query subject object).any fun granted => granted.covers requested

def require (requested : AccessLevel) : Except AccessDenied Unit :=
  let granted := p.query subject object
  if granted.any fun level => level.covers requested then .ok ()
  else .error ⟨subject, object.describe, requested, granted⟩

end AccessPolicy

end ReplicaPlacement
