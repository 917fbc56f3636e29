import ReplicaPlacement.Proofs.Access.Grants

/-!
# Policies and the spelling of names

Names in another letter case are the same name, so two objects of one key are one object. A policy
is asked with the object as it happens to be spelled and could answer for one spelling only. A policy
that goes by grants answers for all spellings alike.
-/

namespace ReplicaPlacement

namespace AccessPolicy

/-- What is granted on an object does not depend on how its names are spelled. The key is the identity
of an object, so this is to say that one object gets one answer. -/
def IgnoresSpelling (p : AccessPolicy) (subject : Subject) (object : SecuredObject) : Prop :=
  ∀ spelled : SecuredObject, spelled.key = object.key →
    p.granted subject spelled = p.granted subject object

/-- Those of the objects that are one object get one answer. -/
def IgnoresSpellingAmong (p : AccessPolicy) (subject : Subject) (objects : List SecuredObject) : Prop :=
  ∀ object ∈ objects, ∀ spelled ∈ objects, spelled.key = object.key →
    p.query subject spelled = p.query subject object

/-- The subject has this access in a spelling that is among these. -/
def HasInSomeSpelling (p : AccessPolicy) (subject : Subject) (objects : List SecuredObject)
    (object : SecuredObject) (level : AccessLevel) : Prop :=
  ∃ spelled ∈ objects, spelled.key = object.key ∧ p.has subject spelled level = true

variable {p : AccessPolicy} {subject : Subject} {objects : List SecuredObject}
  {object spelled : SecuredObject} {level : AccessLevel}

theorem IgnoresSpelling.query_eq (h : p.IgnoresSpelling subject object)
    (hkey : spelled.key = object.key) : p.query subject spelled = p.query subject object :=
  h spelled hkey

theorem IgnoresSpelling.has_eq (h : p.IgnoresSpelling subject object)
    (hkey : spelled.key = object.key) (level : AccessLevel) :
    p.has subject spelled level = p.has subject object level := by
  rw [has, has, h.query_eq hkey]

theorem hasInSomeSpelling_of_has (hobject : object ∈ objects) (h : p.has subject object level = true) :
    p.HasInSomeSpelling subject objects object level := ⟨object, hobject, rfl, h⟩

theorem hasInSomeSpelling_congr (hkey : spelled.key = object.key) :
    p.HasInSomeSpelling subject objects spelled level ↔
      p.HasInSomeSpelling subject objects object level := by
  rw [HasInSomeSpelling, HasInSomeSpelling, hkey]

theorem HasInSomeSpelling.has (h : p.HasInSomeSpelling subject objects object level)
    (hspelling : p.IgnoresSpellingAmong subject objects) (hobject : object ∈ objects) :
    p.has subject object level = true := by
  obtain ⟨spelled, hspelled, hkey, hhas⟩ := h
  rwa [AccessPolicy.has, hspelling object hobject spelled hspelled hkey] at hhas

end AccessPolicy

theorem GrantTable.ignoresSpelling_policy (t : GrantTable) (subject : Subject)
    (object : SecuredObject) : t.policy.IgnoresSpelling subject object := by
  intro spelled hkey
  simp only [policy, hkey]

end ReplicaPlacement
