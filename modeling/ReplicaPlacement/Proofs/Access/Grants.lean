import Mathlib.Data.List.Induction
import ReplicaPlacement.Access.Control
import ReplicaPlacement.Proofs.Outcome

/-!
# What a list of grants means

Of the grants for a subject and an object the last one counts, also where it takes access away.
Without one the default holds. The names a grant gives say which object it is for: a pool is another
object than its node or its definition.
-/

namespace ReplicaPlacement

/-! ## Levels asked for -/

namespace AccessPolicy

variable {p : AccessPolicy} {subject : Subject} {object : SecuredObject}
  {requested lower : AccessLevel}

theorem has_iff : p.has subject object requested = true ↔
    ∃ granted, p.query subject object = some granted ∧ requested.rank ≤ granted.rank := by
  unfold has
  cases p.query subject object <;> simp [AccessLevel.covers]

theorem has_lower (hlower : lower.rank ≤ requested.rank)
    (h : p.has subject object requested = true) : p.has subject object lower = true := by
  obtain ⟨granted, hgranted, hrequested⟩ := has_iff.1 h
  exact has_iff.2 ⟨granted, hgranted, Nat.le_trans hlower hrequested⟩

theorem require_eq : p.require subject object requested =
    if p.has subject object requested then .ok ()
    else .error ⟨subject, object.describe, requested, p.query subject object⟩ := rfl

theorem require_eq_ok_iff :
    p.require subject object requested = .ok () ↔ p.has subject object requested = true := by
  rw [require_eq]
  split <;> simp [*]

end AccessPolicy

/-! ## The object of a grant -/

namespace AccessGrant

def IsOn (g : AccessGrant) : SecuredObject → Prop
  | .poolDefinition name => g.node = none ∧ g.pool.map Name.key = some name.key
  | .node name => g.node.map Name.key = some name.key ∧ g.pool = none
  | .pool host name => g.node.map Name.key = some host.key ∧ g.pool.map Name.key = some name.key

def IsFor (g : AccessGrant) (subject : Subject) (object : SecuredObject) : Prop :=
  g.subject = subject ∧ g.IsOn object

def Nameless (g : AccessGrant) : Prop := g.node = none ∧ g.pool = none

instance (g : AccessGrant) : DecidablePred g.IsOn
  | .poolDefinition _ => inferInstanceAs (Decidable (_ ∧ _))
  | .node _ => inferInstanceAs (Decidable (_ ∧ _))
  | .pool _ _ => inferInstanceAs (Decidable (_ ∧ _))

instance (g : AccessGrant) (subject : Subject) (object : SecuredObject) :
    Decidable (g.IsFor subject object) :=
  inferInstanceAs (Decidable (g.subject = subject ∧ g.IsOn object))

instance : DecidablePred Nameless :=
  fun g => inferInstanceAs (Decidable (g.node = none ∧ g.pool = none))

variable {g : AccessGrant} {subject : Subject} {object : SecuredObject}

theorem ofNames?_eq_none_iff : SecuredObject.ofNames? g.node g.pool = none ↔ g.Nameless := by
  unfold Nameless
  cases g.node <;> cases g.pool <;> simp [SecuredObject.ofNames?]

theorem isOn_iff : g.IsOn object ↔
    ∃ named, SecuredObject.ofNames? g.node g.pool = some named ∧ named.key = object.key := by
  cases hnode : g.node <;> cases hpool : g.pool <;> cases object <;>
    simp [IsOn, SecuredObject.ofNames?, SecuredObject.key, hnode, hpool]

end AccessGrant

/-! ## The last grant counts -/

theorem GrantTable.lookup_grant (t : GrantTable) (subject : Subject) (object : SecuredObject)
    (access : Option AccessLevel) (subject' : Subject) (key : ObjectKey) :
    (t.grant subject object access).lookup subject' key =
      if subject = subject' ∧ object.key = key then access else t.lookup subject' key := by
  unfold lookup grant
  rw [List.lookup_cons]
  split
  case h_1 heq =>
    obtain ⟨rfl, rfl⟩ := Prod.mk.inj (eq_of_beq heq)
    simp
  case h_2 hne =>
    rw [if_neg]
    rintro ⟨rfl, rfl⟩
    simp at hne

namespace AccessList

def lastFor? (l : AccessList) (subject : Subject) (object : SecuredObject) : Option AccessGrant :=
  (l.grants.filter (·.IsFor subject object)).getLast?

/-- The access of the last grant for a subject and an object, else the default. -/
def accessOn (l : AccessList) (subject : Subject) (object : SecuredObject) : Option AccessLevel :=
  match l.lastFor? subject object with
  | some g => g.access
  | none => l.default

theorem lookup_of_addGrant {t t' : GrantTable} {g : AccessGrant} (h : addGrant t g = .ok t')
    (subject : Subject) (object : SecuredObject) :
    t'.lookup subject object.key =
      if g.IsFor subject object then g.access else t.lookup subject object.key := by
  unfold addGrant at h
  split at h
  case h_1 named hnamed =>
    cases h
    rw [GrantTable.lookup_grant]
    refine if_congr (and_congr_right fun _ => ?_) rfl rfl
    rw [AccessGrant.isOn_iff, hnamed]
    simp
  case h_2 => cases h

theorem foldl_grants_eq (default : Option AccessLevel) (gs : List AccessGrant) (subject : Subject)
    (object : SecuredObject) :
    gs.foldl (fun access g => if g.IsFor subject object then g.access else access) default =
      accessOn ⟨default, gs⟩ subject object := by
  -- The list grows at its end, where the grant that counts stands.
  induction gs using List.reverseRecOn with
  | nil => rfl
  | append_singleton gs g ih =>
    rw [List.foldl_append, List.foldl_cons, List.foldl_nil, ih]
    unfold accessOn lastFor?
    rw [List.filter_append]
    by_cases h : g.IsFor subject object <;> simp [h]

theorem lookup_table {l : AccessList} {t : GrantTable} (h : l.table = .ok t) (subject : Subject)
    (object : SecuredObject) : t.lookup subject object.key = l.accessOn subject object := by
  have hsteps : t.lookup subject object.key = l.grants.foldl
      (fun access g => if g.IsFor subject object then g.access else access) l.default :=
    Outcome.foldlM_tracks (fun t : GrantTable => t.lookup subject object.key)
      (fun _ _ _ _ hadd => lookup_of_addGrant hadd subject object) h
  rw [hsteps, foldl_grants_eq]

theorem query_table {l : AccessList} {t : GrantTable} (h : l.table = .ok t) (subject : Subject)
    (object : SecuredObject) : t.policy.query subject object =
      if subject = systemSubject then some .control else l.accessOn subject object := by
  rw [← lookup_table h]
  rfl

/-! ## Lists that make no table -/

theorem foldlM_addGrant_eq_error_iff {gs : List AccessGrant} {t : GrantTable} {e : ClusterError} :
    gs.foldlM addGrant t = .error e ↔ ∃ g, gs.find? (fun g => g.Nameless) = some g ∧
      e = .invalidAcl g.subject "the grant names no node and no storage pool" := by
  induction gs generalizing t with
  | nil => simp [pure, Except.pure]
  | cons g gs ih =>
    have hcons : (g :: gs).foldlM addGrant t = (addGrant t g).bind fun t => gs.foldlM addGrant t := rfl
    rw [hcons, List.find?_cons, addGrant]
    cases hnamed : SecuredObject.ofNames? g.node g.pool with
    | none =>
      have hnameless : g.Nameless := AccessGrant.ofNames?_eq_none_iff.1 hnamed
      simp [Except.bind, hnameless, eq_comm]
    | some named =>
      have hnameless : ¬ g.Nameless := by simp [← AccessGrant.ofNames?_eq_none_iff, hnamed]
      simp only [hnameless, decide_false]
      exact ih

theorem table_eq_error_iff {l : AccessList} {e : ClusterError} :
    l.table = .error e ↔ ∃ g, l.grants.find? (fun g => g.Nameless) = some g ∧
      e = .invalidAcl g.subject "the grant names no node and no storage pool" :=
  foldlM_addGrant_eq_error_iff

theorem exists_table_iff {l : AccessList} :
    (∃ t, l.table = .ok t) ↔ ∀ g ∈ l.grants, ¬ g.Nameless := by
  have hnone : (∀ g ∈ l.grants, ¬ g.Nameless) ↔ l.grants.find? (fun g => g.Nameless) = none := by
    simp
  rw [hnone]
  cases htable : l.table with
  | ok t =>
    refine iff_of_true ⟨t, rfl⟩ (Option.eq_none_iff_forall_not_mem.2 fun g hg => ?_)
    have herror := table_eq_error_iff.2 ⟨g, hg, rfl⟩
    cases htable.symm.trans herror
  | error e =>
    obtain ⟨g, hg, -⟩ := table_eq_error_iff.1 htable
    simp [hg]

/-! ## In another order, and without a grant -/

/-- A list of the same grants, those for one subject and one object in the same order. -/
structure Reordered (l l' : AccessList) : Prop where
  default_eq : l'.default = l.default
  perm : l'.grants.Perm l.grants
  in_order : ∀ subject object,
    l'.grants.filter (·.IsFor subject object) = l.grants.filter (·.IsFor subject object)

theorem reordered_swap {g g' : AccessGrant}
    (h : ∀ subject object, g.IsFor subject object → ¬ g'.IsFor subject object)
    (default : Option AccessLevel) (before after : List AccessGrant) :
    Reordered ⟨default, before ++ g :: g' :: after⟩ ⟨default, before ++ g' :: g :: after⟩ where
  default_eq := rfl
  perm := (List.Perm.swap g g' after).append_left before
  in_order subject object := by
    rw [List.filter_append, List.filter_append]
    congr 1
    by_cases hg : g.IsFor subject object
    · have hg' : ¬ g'.IsFor subject object := h subject object hg
      simp [hg, hg']
    · simp [List.filter_cons, hg]

section

variable {l l' : AccessList} {t t' : GrantTable} (ht : l.table = .ok t)

include ht

theorem query_congr (ht' : l'.table = .ok t') (hdefault : l'.default = l.default) {subject : Subject}
    {object : SecuredObject}
    (hsame : l'.grants.filter (·.IsFor subject object) = l.grants.filter (·.IsFor subject object)) :
    t'.policy.query subject object = t.policy.query subject object := by
  rw [query_table ht, query_table ht', accessOn, accessOn, lastFor?, lastFor?, hsame, hdefault]

theorem exists_table_of_subset (hsubset : l'.grants ⊆ l.grants) : ∃ t', l'.table = .ok t' :=
  exists_table_iff.2 fun g hg => exists_table_iff.1 ⟨t, ht⟩ g (hsubset hg)

theorem exists_table_of_reordered (h : l.Reordered l') : ∃ t', l'.table = .ok t' ∧
    ∀ subject object, t'.policy.query subject object = t.policy.query subject object := by
  obtain ⟨t', ht'⟩ := exists_table_of_subset ht h.perm.subset
  exact ⟨t', ht', fun subject object => query_congr ht ht' h.default_eq (h.in_order subject object)⟩

end

end AccessList

/-- A grant makes no difference but to its own subject and object. So one for a single pool makes
none to its node or its definition, and one for either of those makes none to a pool. -/
structure AccessGrant.Concerns (g : AccessGrant) (t t' : GrantTable) : Prop where
  elsewhere : ∀ subject object, ¬ g.IsFor subject object →
    t'.policy.query subject object = t.policy.query subject object
  pool : g.node = none ∨ g.pool = none → ∀ subject host name,
    t'.policy.query subject (.pool host name) = t.policy.query subject (.pool host name)
  node : g.pool ≠ none → ∀ subject name,
    t'.policy.query subject (.node name) = t.policy.query subject (.node name)
  definition : g.node ≠ none → ∀ subject name,
    t'.policy.query subject (.poolDefinition name) = t.policy.query subject (.poolDefinition name)

theorem AccessGrant.concerns_of_elsewhere {g : AccessGrant} {t t' : GrantTable}
    (h : ∀ subject object, ¬ g.IsFor subject object →
      t'.policy.query subject object = t.policy.query subject object) : g.Concerns t t' where
  elsewhere := h
  pool hnone subject host name := by
    refine h subject _ fun hfor => ?_
    obtain ⟨-, hnode, hpool⟩ := hfor
    rcases hnone with hnone | hnone
    · rw [hnone] at hnode
      cases hnode
    · rw [hnone] at hpool
      cases hpool
  node hsome subject name := h subject _ fun hfor => hsome hfor.2.2
  definition hsome subject name := h subject _ fun hfor => hsome hfor.2.1

namespace AccessList

theorem exists_table_without {l : AccessList} {t : GrantTable} (ht : l.table = .ok t)
    {before after : List AccessGrant} {g : AccessGrant} (hgrants : l.grants = before ++ g :: after) :
    ∃ t', table ⟨l.default, before ++ after⟩ = .ok t' ∧ g.Concerns t t' := by
  have hsubset : before ++ after ⊆ l.grants := by
    rw [hgrants]
    exact ((List.sublist_cons_self g after).append_left before).subset
  obtain ⟨t', ht'⟩ : ∃ t', table ⟨l.default, before ++ after⟩ = .ok t' :=
    exists_table_of_subset ht hsubset
  refine ⟨t', ht', AccessGrant.concerns_of_elsewhere fun subject object hother => ?_⟩
  refine query_congr ht ht' rfl ?_
  rw [hgrants, List.filter_append, List.filter_append, List.filter_cons_of_neg (by simpa using hother)]

end AccessList

/-! ## Grants made one by one -/

structure DirectGrant where
  subject : Subject
  object : SecuredObject
  access : Option AccessLevel

def GrantTable.granting (default : Option AccessLevel) (ds : List DirectGrant) : GrantTable :=
  ds.foldl (fun t d => t.grant d.subject d.object d.access) { default }

def AccessGrant.Spells (g : AccessGrant) (d : DirectGrant) : Prop :=
  g.IsFor d.subject d.object ∧ g.access = d.access

theorem AccessGrant.exists_spells {g : AccessGrant} (h : ¬ g.Nameless) : ∃ d, g.Spells d := by
  rw [← ofNames?_eq_none_iff, ← ne_eq, Option.ne_none_iff_exists'] at h
  obtain ⟨object, hobject⟩ := h
  exact ⟨⟨g.subject, object, g.access⟩, ⟨rfl, isOn_iff.2 ⟨object, hobject, rfl⟩⟩, rfl⟩

namespace AccessList

theorem addGrant_of_spells {g : AccessGrant} {d : DirectGrant} (h : g.Spells d) (t : GrantTable) :
    addGrant t g = .ok (t.grant d.subject d.object d.access) := by
  obtain ⟨⟨hsubject, hobject⟩, haccess⟩ := h
  obtain ⟨named, hnamed, hkey⟩ := AccessGrant.isOn_iff.1 hobject
  simp only [addGrant, hnamed, GrantTable.grant, hsubject, hkey, haccess]

theorem foldlM_addGrant_of_spells {gs : List AccessGrant} {ds : List DirectGrant}
    (h : List.Forall₂ AccessGrant.Spells gs ds) (t : GrantTable) : gs.foldlM addGrant t =
      .ok (ds.foldl (fun t d => t.grant d.subject d.object d.access) t) := by
  induction h generalizing t with
  | nil => rfl
  | cons h _ ih =>
    rw [List.foldlM_cons, addGrant_of_spells h]
    exact ih _

theorem table_of_spells {l : AccessList} {ds : List DirectGrant}
    (h : List.Forall₂ AccessGrant.Spells l.grants ds) :
    l.table = .ok (GrantTable.granting l.default ds) :=
  foldlM_addGrant_of_spells h _

theorem exists_spells {gs : List AccessGrant} (h : ∀ g ∈ gs, ¬ g.Nameless) :
    ∃ ds, List.Forall₂ AccessGrant.Spells gs ds := by
  induction gs with
  | nil => exact ⟨[], .nil⟩
  | cons g gs ih =>
    obtain ⟨hg, hgs⟩ := List.forall_mem_cons.1 h
    obtain ⟨d, hd⟩ := AccessGrant.exists_spells hg
    obtain ⟨ds, hds⟩ := ih hgs
    exact ⟨d :: ds, .cons hd hds⟩

/-! ## The meaning of a list -/

/-- A list fails for its first grant without a name, and for nothing else. Its table answers with the
last grant for a subject and an object, in whatever order other grants come, listed or made call by
call. Who has a level has the lower ones. -/
theorem last_grant_counts (l : AccessList) :
    (∀ e, l.table = .error e ↔ ∃ g, l.grants.find? (fun g => g.Nameless) = some g ∧
      e = .invalidAcl g.subject "the grant names no node and no storage pool") ∧
    ((∃ t, l.table = .ok t) ↔ ∀ g ∈ l.grants, ¬ (g.node = none ∧ g.pool = none)) ∧
    (∀ t, l.table = .ok t →
      (∀ subject object, t.policy.query subject object =
        if subject = systemSubject then some .control else l.accessOn subject object) ∧
      (∀ l', l.Reordered l' → ∃ t', l'.table = .ok t' ∧
        ∀ subject object, t'.policy.query subject object = t.policy.query subject object) ∧
      (∀ before g after, l.grants = before ++ g :: after →
        ∃ t', table ⟨l.default, before ++ after⟩ = .ok t' ∧ g.Concerns t t') ∧
      (∃ ds, List.Forall₂ AccessGrant.Spells l.grants ds) ∧
      ∀ ds, List.Forall₂ AccessGrant.Spells l.grants ds → ∀ subject object,
        (GrantTable.granting l.default ds).policy.query subject object =
          t.policy.query subject object) ∧
    ∀ (p : AccessPolicy) subject object requested,
      (p.has subject object requested = true ↔ p.require subject object requested = .ok ()) ∧
      ∀ lower : AccessLevel, lower.rank ≤ requested.rank →
        (p.has subject object requested = true → p.has subject object lower = true) ∧
        (p.require subject object requested = .ok () → p.require subject object lower = .ok ()) := by
  refine ⟨fun e => table_eq_error_iff, exists_table_iff, fun t ht => ?_, ?_⟩
  · refine ⟨query_table ht, fun l' => exists_table_of_reordered ht,
      fun _ _ _ => exists_table_without ht, exists_spells (exists_table_iff.1 ⟨t, ht⟩), ?_⟩
    intro ds hds subject object
    obtain rfl : GrantTable.granting l.default ds = t :=
      Except.ok.inj ((table_of_spells hds).symm.trans ht)
    rfl
  · intro p subject object requested
    simp only [AccessPolicy.require_eq_ok_iff, true_and]
    exact fun lower hlower => ⟨AccessPolicy.has_lower hlower, AccessPolicy.has_lower hlower⟩

/-! ## A guest on one node -/

def vault : NodeName := ⟨"vault", by decide⟩

def disks : PoolName := ⟨"disks", by decide⟩

def onNode : AccessGrant := { subject := "guest", node := some vault, access := some .use }

def onPool : AccessGrant := { onNode with pool := some disks, access := some .control }

def offNode : AccessGrant := { subject := "guest", node := some ⟨"VAULT", by decide⟩ }

def guests : AccessList := ⟨some .view, [onNode, onPool, offNode]⟩

def guestCalls : List DirectGrant :=
  [⟨"guest", .node vault, some .use⟩, ⟨"guest", .pool vault disks, some .control⟩,
    ⟨"guest", .node vault, none⟩]

theorem reordered_guests : guests.Reordered ⟨some .view, [onPool, onNode, offNode]⟩ := by
  refine reordered_swap (fun subject object hnode hpool => ?_) _ [] [offNode]
  cases object with
  | poolDefinition name => cases hnode.2.1
  | node name => cases hpool.2.2
  | pool host name => cases hnode.2.2

theorem spells_guestCalls : List.Forall₂ AccessGrant.Spells guests.grants guestCalls :=
  .cons ⟨by decide, rfl⟩ (.cons ⟨by decide, rfl⟩ (.cons ⟨by decide, rfl⟩ .nil))

theorem last_grant_counts_guests : ∃ t, guests.table = .ok t ∧
    t.policy.query "guest" (.node vault) = none ∧
    t.policy.query "guest" (.pool vault disks) = some .control ∧
    t.policy.query "guest" (.poolDefinition disks) = some .view ∧
    t.policy.query systemSubject (.node vault) = some .control ∧
    t.policy.has "guest" (.pool vault disks) .use = true ∧
    (∃ t', table ⟨some .view, [onPool, onNode, offNode]⟩ = .ok t' ∧
      t'.policy.query "guest" (.node vault) = none) ∧
    (∃ t', table ⟨some .view, [onNode, onPool]⟩ = .ok t' ∧ offNode.Concerns t t') ∧
    (GrantTable.granting (some .view) guestCalls).policy.query "guest" (.node vault) = none := by
  obtain ⟨-, htable, hmeaning, hlevels⟩ := last_grant_counts guests
  obtain ⟨t, ht⟩ := htable.2 (by decide)
  obtain ⟨hquery, hreordered, hwithout, -, hcalls⟩ := hmeaning t ht
  have hnode : t.policy.query "guest" (.node vault) = none := (hquery _ _).trans (by decide)
  have hpool : t.policy.query "guest" (.pool vault disks) = some .control :=
    (hquery _ _).trans (by decide)
  have hcontrol : t.policy.has "guest" (.pool vault disks) .control = true :=
    AccessPolicy.has_iff.2 ⟨.control, hpool, Nat.le_refl _⟩
  obtain ⟨t', ht', hsame⟩ := hreordered _ reordered_guests
  exact ⟨t, ht, hnode, hpool, (hquery _ _).trans (by decide), (hquery _ _).trans (by decide),
    ((hlevels t.policy _ _ .control).2 .use (by decide)).1 hcontrol,
    ⟨t', ht', (hsame _ _).trans hnode⟩, hwithout [onNode, onPool] offNode [] rfl,
    (hcalls guestCalls spells_guestCalls _ _).trans hnode⟩

end AccessList

end ReplicaPlacement
