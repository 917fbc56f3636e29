import ReplicaPlacement.Cluster.Inventory
import ReplicaPlacement.Proofs.Document.Json
import ReplicaPlacement.Proofs.Ordered

/-!
# Objects as documents

Every object of a cluster is written as a plain value, and is read back from it.
-/

namespace ReplicaPlacement

open FromDocument (read?)

/-! ## Members -/

@[simp] theorem read?_toValue_name {kind : NameKind} (n : Name kind) :
    read? (toValue n) = some n := by
  simp [read?, toValue, Readable.text?]

@[simp] theorem read?_toValue_bool (b : Bool) : read? (toValue b) = some b := rfl

@[simp] theorem read?_toValue_uint64 (n : UInt64) : read? (toValue n) = some n := by
  have hlt : n.toNat < UInt64.size := n.toNat_lt
  simp [read?, toValue, readBelow?, Readable.nat?, hlt]

@[simp] theorem read?_toValue_uint32 (n : UInt32) : read? (toValue n) = some n := by
  have hlt : n.toNat < UInt32.size := n.toNat_lt
  simp [read?, toValue, readBelow?, Readable.nat?, hlt]

@[simp] theorem read?_toValue_size (n : Option UInt64) : read? (toValue n) = some n := by
  cases n with
  | none => rfl
  | some n => exact congrArg (Option.map some) (read?_toValue_uint64 n)

@[simp] theorem read?_toValue_provider (k : ProviderKind) : read? (toValue k) = some k := by
  cases k <;> rfl

theorem read?_toValue_list {α : Type} [ToValue α] [FromDocument α] {xs : List α}
    (h : ∀ x ∈ xs, read? (toValue x) = some x) : read? (toValue xs) = some xs :=
  Outcome.mapM_map_eq_pure h

theorem Fields.of?_record {fields : List (String × Value)} {names : List String}
    (hnodup : names.Nodup) (hnames : fields.map Prod.fst = names) :
    Fields.of? names (Value.record fields) = some ⟨fields, false⟩ := by
  subst hnames
  have hknown : (fields.filter fun e => (fields.map Prod.fst).contains e.1) = fields :=
    List.filter_eq_self.2 fun e he => List.contains_iff_mem.2 (List.mem_map_of_mem he)
  have hentries : Readable.entries? (Value.record fields) = some fields := rfl
  unfold Fields.of?
  simp only [hentries]
  rw [hknown, if_pos hnodup]

/-! ## Objects -/

theorem read_fields {α : Type} {names : List String} {fields : List (String × Value)}
    {f : Fields Value → Option α} (hnodup : names.Nodup) (hnames : fields.map Prod.fst = names) :
    (Fields.of? names (Value.record fields) >>= f) = f ⟨fields, false⟩ := by
  rw [Fields.of?_record hnodup hnames]
  rfl

theorem read?_toValue_volume (v : Volume) : read? (toValue v) = some v := by
  have hnodup : Volume.fieldNames.Nodup := by decide
  refine (read_fields hnodup rfl).trans ?_
  simp [Fields.required, Fields.defaulted, Fields.find?, List.lookup_cons]

theorem read?_toValue_pool (p : Pool) : read? (toValue p) = some p := by
  have hnodup : Pool.fieldNames.Nodup := by decide
  refine (read_fields hnodup rfl).trans ?_
  simp [Fields.required, Fields.defaulted, Fields.find?, List.lookup_cons]

theorem read?_toValue_replica (r : Replica) : read? (toValue r) = some r := by
  have hnodup : Replica.fieldNames.Nodup := by decide
  have hvolumes : read? (toValue r.volumes) = some r.volumes :=
    read?_toValue_list fun v _ => read?_toValue_volume v
  refine (read_fields hnodup rfl).trans ?_
  simp [Fields.required, Fields.defaulted, Fields.find?, List.lookup_cons, hvolumes]

theorem readProps?_record {props : List Property} (h : Ordered.Sorted Prod.fst props) :
    Node.readProps? (Value.record (props.map fun e => (e.1, .text e.2))) = some props := by
  have htexts : (props.map fun e => (e.1, Value.text e.2)).mapM
      (fun e => (Readable.text? e.2).map fun s => (e.1, s)) = some props :=
    Outcome.mapM_map_eq_pure fun _ _ => rfl
  have hprops : Ordered.ofList Prod.fst props = props :=
    Ordered.ofList_eq_of_sorted h (List.Perm.refl _)
  change ((props.map fun e => (e.1, Value.text e.2)).mapM
    fun e => (Readable.text? e.2).map fun s => (e.1, s)).map (Ordered.ofList Prod.fst) = some props
  rw [htexts, Option.map_some, hprops]

/-- Properties are read as a map, so they come back in key order. -/
theorem read?_toValue_node {n : Node} (h : Ordered.Sorted Prod.fst n.props) :
    read? (toValue n) = some n := by
  have hnodup : Node.fieldNames.Nodup := by decide
  have hprops := readProps?_record h
  refine (read_fields hnodup rfl).trans ?_
  simp [Fields.required, Fields.defaulted, Fields.find?, List.lookup_cons, hprops]

theorem read?_toValue_inventory {i : Inventory}
    (h : ∀ n ∈ i.nodes, Ordered.Sorted Prod.fst n.props) : read? (toValue i) = some i := by
  have hnodup : Inventory.fieldNames.Nodup := by decide
  have hnodes : read? (toValue i.nodes) = some i.nodes :=
    read?_toValue_list fun n hn => read?_toValue_node (h n hn)
  have hpools : read? (toValue i.pools) = some i.pools :=
    read?_toValue_list fun p _ => read?_toValue_pool p
  have hreplicas : read? (toValue i.replicas) = some i.replicas :=
    read?_toValue_list fun r _ => read?_toValue_replica r
  have hresources : read? (toValue i.resources) = some i.resources :=
    read?_toValue_list fun n _ => read?_toValue_name n
  refine (read_fields hnodup rfl).trans ?_
  simp [Fields.defaulted, Fields.find?, List.lookup_cons, hnodes, hpools, hreplicas, hresources]

/-! ## Plain values -/

theorem plain_toValue_size (n : Option UInt64) : Json.Plain (toValue n) := by
  cases n with
  | none => exact .null
  | some n => exact .nat n.toNat_lt

theorem plain_toValue_list {α : Type} [ToValue α] {xs : List α}
    (h : ∀ x ∈ xs, Json.Plain (toValue x)) : Json.Plain (toValue xs) :=
  .list (List.forall_mem_map.2 h)

theorem plain_toValue_volume (v : Volume) : Json.Plain (toValue v) := by
  have hnumber : v.number.toNat < UInt64.size := v.number.toNat_lt.trans (by decide)
  refine .record ?_
  simp only [List.forall_mem_cons]
  exact ⟨.nat hnumber, .text _, .nat v.size.toNat_lt, by simp⟩

theorem plain_toValue_pool (p : Pool) : Json.Plain (toValue p) := by
  refine .record ?_
  simp only [List.forall_mem_cons]
  exact ⟨.text _, .text _, .text _, plain_toValue_size _, plain_toValue_size _, by simp⟩

theorem plain_toValue_replica (r : Replica) : Json.Plain (toValue r) := by
  have hvolumes : Json.Plain (toValue r.volumes) :=
    plain_toValue_list fun v _ => plain_toValue_volume v
  refine .record ?_
  simp only [List.forall_mem_cons]
  exact ⟨.text _, .text _, .bool _, hvolumes, by simp⟩

theorem plain_toValue_node (n : Node) : Json.Plain (toValue n) := by
  have hprops : Json.Plain (.record (n.props.map fun e => (e.1, .text e.2))) :=
    .record (List.forall_mem_map.2 fun e _ => .text e.2)
  refine .record ?_
  simp only [List.forall_mem_cons]
  exact ⟨.text _, hprops, .bool _, by simp⟩

theorem plain_toValue_inventory (i : Inventory) : Json.Plain (toValue i) := by
  refine .record ?_
  simp only [List.forall_mem_cons]
  exact ⟨plain_toValue_list fun n _ => plain_toValue_node n,
    plain_toValue_list fun p _ => plain_toValue_pool p,
    plain_toValue_list fun r _ => plain_toValue_replica r,
    plain_toValue_list fun n _ => .text n.text, by simp⟩

end ReplicaPlacement
