import Mathlib.Data.List.Perm.Basic
import ReplicaPlacement.Proofs.Cluster.Document
import ReplicaPlacement.Proofs.Registry.Replace

/-!
# Loading what was saved

Each scan of the registry finds the entries of one kind, and each of them reads back as its object.
They come in the order of their keys, in which `-` stands before the separator of names, so not in the
order of the snapshot; but a snapshot does not depend on the order that its objects are listed in.
-/

namespace ReplicaPlacement

def Codec.Lawful (codec : Codec) : Prop :=
  ∀ v, Json.Plain v → codec.read? (codec.write v) = some v

theorem Codec.lawful_json : Codec.json.Lawful := by
  intro v hv
  have hread : Codec.json.read? (Codec.json.write v) =
      (Utf8.text? (Utf8.encode (Json.compact v))).bind Json.parse? := rfl
  rw [hread, Utf8.text?_encode, Option.bind_some, Json.parse?_compact hv]

theorem Inventory.result_build (i : Inventory) : i.build.result = Snapshot.ofInventory i := by
  unfold build
  rw [Attempt.result_bind]
  cases Snapshot.ofInventory i <;> rfl

namespace Registry

open Store (Content Entry)

variable {codec : Codec} {c : Content} {s : Snapshot} {start : String}

/-! ## One kind of objects -/

section Kind

variable {α : Type} [ToValue α] {keyOf : α → RegistryKey} {xs : List α}

theorem filter_entries (hstart : ∀ x, (keyOf x).start = start) {p : String}
    (hp : p ∈ RegistryKey.prefixes) :
    (xs.map (entryOf codec keyOf)).filter (fun e => (Utf8.encode p).isPrefixOf e.key) =
      if p = start then xs.map (entryOf codec keyOf) else [] := by
  have hentry (x : α) : (Utf8.encode p).isPrefixOf (entryOf codec keyOf x).key = true ↔ p = start := by
    rw [← hstart x]
    exact RegistryKey.isPrefixOf_bytes hp
  split_ifs with h
  · exact List.filter_eq_self.2 (List.forall_mem_map.2 fun x _ => (hentry x).2 h)
  · exact List.filter_eq_nil_iff.2 (List.forall_mem_map.2 fun x _ => fun hx => h ((hentry x).1 hx))

variable [FromDocument α]

theorem readEntry_entryOf (hcodec : codec.Lawful) {x : α} (hplain : Json.Plain (toValue x))
    (hread : FromDocument.read? (toValue x) = some x) :
    readEntry codec keyOf (entryOf codec keyOf x) = .ok x := by
  have hvalue : (codec.read? (codec.write (toValue x))).bind FromDocument.read? = some x := by
    rw [hcodec _ hplain, Option.bind_some, hread]
  simp only [readEntry, entryOf, Utf8.lossy_encode, hvalue, RegistryKey.parse_encode]
  exact if_pos (RegistryKey.same_canonical _)

theorem loadKind_of_scan
    (hfound : Store.scan (Utf8.encode start) c = xs.map (entryOf codec keyOf))
    (hread : ∀ x ∈ xs, readEntry codec keyOf (entryOf codec keyOf x) = .ok x) :
    (loadKind codec start keyOf c).result = .ok xs := by
  have hresult : (loadKind codec start keyOf c).result =
      (Store.scan (Utf8.encode start) c).mapM (readEntry codec keyOf) := rfl
  rw [hresult, hfound]
  exact Outcome.mapM_map_eq_pure hread

theorem loadKind_of_perm
    (hfound : (Store.scan (Utf8.encode start) c).Perm (xs.map (entryOf codec keyOf)))
    (hread : ∀ x ∈ xs, readEntry codec keyOf (entryOf codec keyOf x) = .ok x) :
    ∃ ys, (loadKind codec start keyOf c).result = .ok ys ∧ ys.Perm xs := by
  obtain ⟨ys, hys, hperm⟩ := (List.eq_map_comp_perm (entryOf codec keyOf)).ge _ _ hfound
  exact ⟨ys, loadKind_of_scan hys fun y hy => hread y (hperm.mem_iff.1 hy), hperm⟩

end Kind

/-! ## The whole registry -/

theorem Holds.scan_perm (h : Holds codec c s) (hstart : start ∈ RegistryKey.prefixes) :
    (Store.scan (Utf8.encode start) c).Perm
      ((entries codec s.toInventory).filter fun e => (Utf8.encode start).isPrefixOf e.key) := by
  have howns (e : Entry) (he : (Utf8.encode start).isPrefixOf e.key = true) : owns e = true :=
    List.any_eq_true.2 ⟨start, hstart, he⟩
  have hscan : Store.scan (Utf8.encode start) c =
      (c.filter owns).filter fun e => (Utf8.encode start).isPrefixOf e.key := by
    rw [Store.scan_eq_filter h.sorted, List.filter_filter]
    refine List.filter_congr fun e _ => ?_
    cases he : (Utf8.encode start).isPrefixOf e.key with
    | true => rw [howns e he, Bool.and_self]
    | false => rw [Bool.false_and]
  rw [hscan]
  exact h.owned.filter _

theorem filter_all_entries {i : Inventory} (hstart : start ∈ RegistryKey.prefixes) :
    (entries codec i).filter (fun e => (Utf8.encode start).isPrefixOf e.key) =
      (if start = RegistryKey.nodePrefix then i.nodes.map (entryOf codec nodeKey) else []) ++
      (if start = RegistryKey.poolPrefix then i.pools.map (entryOf codec poolKey) else []) ++
      (if start = RegistryKey.replicaPrefix then i.replicas.map (entryOf codec replicaKey) else []) ++
      (if start = RegistryKey.resourcePrefix then i.resources.map (entryOf codec resourceKey) else []) := by
  have hnodes (n : Node) : (nodeKey n).start = RegistryKey.nodePrefix := rfl
  have hpools (p : Pool) : (poolKey p).start = RegistryKey.poolPrefix := rfl
  have hreplicas (r : Replica) : (replicaKey r).start = RegistryKey.replicaPrefix := rfl
  have hresources (name : ResourceName) : (resourceKey name).start = RegistryKey.resourcePrefix := rfl
  simp only [entries, List.filter_append, filter_entries hnodes hstart, filter_entries hpools hstart,
    filter_entries hreplicas hstart, filter_entries hresources hstart]

theorem Holds.scans (h : Holds codec c s) :
    (Store.scan (Utf8.encode RegistryKey.nodePrefix) c).Perm
        (s.toInventory.nodes.map (entryOf codec nodeKey)) ∧
      (Store.scan (Utf8.encode RegistryKey.poolPrefix) c).Perm
        (s.toInventory.pools.map (entryOf codec poolKey)) ∧
      (Store.scan (Utf8.encode RegistryKey.replicaPrefix) c).Perm
        (s.toInventory.replicas.map (entryOf codec replicaKey)) ∧
      (Store.scan (Utf8.encode RegistryKey.resourcePrefix) c).Perm
        (s.toInventory.resources.map (entryOf codec resourceKey)) := by
  refine ⟨?node, ?pool, ?replica, ?resource⟩
  all_goals
    refine (h.scan_perm (by decide)).trans (List.Perm.of_eq ?_)
    rw [filter_all_entries (by decide)]
    simp [RegistryKey.nodePrefix, RegistryKey.poolPrefix, RegistryKey.replicaPrefix,
      RegistryKey.resourcePrefix]

theorem Holds.loadInventory (h : Holds codec c s) (hcodec : codec.Lawful) (hs : s.Built) :
    ∃ i, (loadInventory codec c).result = .ok i ∧ i.nodes.Perm s.nodes ∧
      i.pools.Perm s.toInventory.pools ∧ i.replicas.Perm s.toInventory.replicas ∧
      i.resources.Perm s.resources := by
  obtain ⟨hnode, hpool, hreplica, hresource⟩ := h.scans
  obtain ⟨nodes, hnodes, hnodes'⟩ := loadKind_of_perm hnode fun n hn =>
    readEntry_entryOf hcodec (plain_toValue_node n) (read?_toValue_node (hs.props_sorted n hn))
  obtain ⟨pools, hpools, hpools'⟩ := loadKind_of_perm hpool fun p _ =>
    readEntry_entryOf hcodec (plain_toValue_pool p) (read?_toValue_pool p)
  obtain ⟨replicas, hreplicas, hreplicas'⟩ := loadKind_of_perm hreplica fun r _ =>
    readEntry_entryOf hcodec (plain_toValue_replica r) (read?_toValue_replica r)
  obtain ⟨resources, hresources, hresources'⟩ := loadKind_of_perm hresource fun name _ =>
    readEntry_entryOf hcodec (.text name.text) (read?_toValue_name name)
  refine ⟨⟨nodes, pools, replicas, resources⟩, ?_, hnodes', hpools', hreplicas', hresources'⟩
  simp only [Registry.loadInventory, Attempt.bind_eq_ok]
  exact ⟨nodes, hnodes, pools, hpools, replicas, hreplicas, resources, hresources, rfl⟩

theorem Holds.load (h : Holds codec c s) (hcodec : codec.Lawful) (hs : s.Built) :
    ∃ s', (load codec c).result = .ok s' ∧ s'.toInventory = s.toInventory := by
  obtain ⟨i, hi, hnodes, hpools, hreplicas, hresources⟩ := h.loadInventory hcodec hs
  obtain ⟨s', hs', heq⟩ := hs.wellFormed.rebuild hnodes hpools hreplicas hresources
  refine ⟨s', ?_, heq⟩
  simp only [Registry.load, Attempt.bind_eq_ok]
  refine ⟨i, hi, (), rfl, ?_⟩
  rw [Attempt.result_mapError, Inventory.result_build, hs']
  rfl

end Registry

end ReplicaPlacement
