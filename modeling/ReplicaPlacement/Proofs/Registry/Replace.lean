import ReplicaPlacement.Proofs.Cluster.Build
import ReplicaPlacement.Proofs.Registry.Key
import ReplicaPlacement.Proofs.Store.Scan
import ReplicaPlacement.Registry.Basic

/-!
# What a save leaves in a store

The keys with one of the four words at their start belong to the registry. A save leaves exactly one
entry per object of the snapshot there, and every other key as it was.
-/

namespace ReplicaPlacement.Registry

open Store (Content Entry)

variable {codec : Codec} {c : Content} {s : Snapshot}

def owns (e : Entry) : Bool :=
  RegistryKey.prefixes.any fun start => (Utf8.encode start).isPrefixOf e.key

/-! ## Clearing -/

theorem foldl_deletePrefix (starts : List String) (h : Ordered.Sorted Entry.key c) :
    starts.foldl (fun c start => (Store.deletePrefix (Utf8.encode start) c).1) c =
      c.filter fun e => !starts.any fun start => (Utf8.encode start).isPrefixOf e.key := by
  induction starts generalizing c with
  | nil => simp
  | cons start starts ih =>
    rw [List.foldl_cons, Store.deletePrefix_eq_filter h, ih (h.filter _), List.filter_filter]
    refine List.filter_congr fun e _ => ?_
    rw [List.any_cons, Bool.not_or, Bool.and_comm]

theorem clear_eq_foldl (c : Content) : (clear c).1 = RegistryKey.prefixes.foldl
    (fun c start => (Store.deletePrefix (Utf8.encode start) c).1) c := rfl

theorem clear_eq_filter (h : Ordered.Sorted Entry.key c) : (clear c).1 = c.filter fun e => !owns e := by
  rw [clear_eq_foldl, foldl_deletePrefix _ h]
  rfl

/-! ## The keys of a cluster -/

def keys (i : Inventory) : List RegistryKey :=
  i.nodes.map nodeKey ++ i.pools.map poolKey ++ i.replicas.map replicaKey ++ i.resources.map resourceKey

theorem map_key_entries (codec : Codec) (i : Inventory) :
    (entries codec i).map Entry.key = (keys i).map fun k => Utf8.encode k.encode := by
  simp [entries, keys, entryOf, Function.comp_def]

theorem keys_distinct (hs : s.WellFormed) :
    (keys s.toInventory).Pairwise fun k k' => k.same k' = false := by
  have hconsistent := hs.consistent
  have hnodes : s.toInventory.nodes.Pairwise fun m n => (nodeKey m).same (nodeKey n) = false :=
    hconsistent.nodes_distinct.imp fun hne => by simpa [nodeKey, RegistryKey.same, Name.same] using hne
  have hpools : s.toInventory.pools.Pairwise fun p q => (poolKey p).same (poolKey q) = false :=
    hconsistent.pools_distinct.imp fun hne => by
      simpa [poolKey, RegistryKey.same, Name.same, Pool.identity, not_and, imp_not_comm] using hne
  have hreplicas : s.toInventory.replicas.Pairwise fun r q =>
      (replicaKey r).same (replicaKey q) = false :=
    hconsistent.replicas_distinct.imp fun hne => by
      simpa [replicaKey, RegistryKey.same, Name.same, Replica.identity] using hne
  have hresources : s.toInventory.resources.Pairwise fun a b =>
      (resourceKey a).same (resourceKey b) = false :=
    hs.resources_sorted.imp fun hlt => by simpa [resourceKey, RegistryKey.same, Name.same] using hlt.ne
  simp only [keys, List.pairwise_append, List.pairwise_map]
  refine ⟨⟨⟨hnodes, hpools, ?_⟩, hreplicas, ?_⟩, hresources, ?_⟩ <;>
    simp +contextual [or_imp, forall_and, nodeKey, poolKey, replicaKey, resourceKey, RegistryKey.same]

theorem entries_distinct (codec : Codec) (hs : s.WellFormed) :
    (entries codec s.toInventory).Pairwise fun e e' => e.key ≠ e'.key := by
  rw [← List.pairwise_map, map_key_entries, List.pairwise_map]
  refine (keys_distinct hs).imp fun hsame hkey => ?_
  rw [RegistryKey.same_of_bytes_eq hkey] at hsame
  cases hsame

theorem owns_entries {i : Inventory} {e : Entry} (he : e ∈ entries codec i) : owns e = true := by
  have hkey : e.key ∈ (entries codec i).map Entry.key := List.mem_map_of_mem he
  rw [map_key_entries] at hkey
  obtain ⟨k, -, hk⟩ := List.mem_map.1 hkey
  rw [owns, ← hk, List.any_eq_true]
  exact ⟨k.start, k.start_mem, (RegistryKey.isPrefixOf_bytes k.start_mem).2 rfl⟩

/-! ## Saving -/

/-- The store holds exactly the entries of a snapshot in the registry. -/
structure Holds (codec : Codec) (c : Content) (s : Snapshot) : Prop where
  sorted : Ordered.Sorted Entry.key c
  owned : (c.filter owns).Perm (entries codec s.toInventory)

theorem replace_perm (codec : Codec) (hs : s.WellFormed) (hc : Ordered.Sorted Entry.key c) :
    Ordered.Sorted Entry.key (replace codec s c) ∧
      (replace codec s c).Perm (entries codec s.toInventory ++ c.filter fun e => !owns e) := by
  unfold replace
  rw [clear_eq_filter hc]
  refine Ordered.foldl_put (hc.filter _) (entries_distinct codec hs) fun e he e' he' hkey => ?_
  have howns : owns e' = owns e := by rw [owns, owns, hkey]
  have hforeign := (List.mem_filter.1 he').2
  rw [howns, owns_entries he] at hforeign
  cases hforeign

theorem holds_replace (codec : Codec) (hs : s.WellFormed) (hc : Ordered.Sorted Entry.key c) :
    Holds codec (replace codec s c) s where
  sorted := (replace_perm codec hs hc).1
  owned := by
    have hperm := (replace_perm codec hs hc).2.filter owns
    rw [List.filter_append, List.filter_filter, List.filter_eq_self.2 fun e he => owns_entries he] at hperm
    simpa using hperm

theorem foreign_replace (codec : Codec) (hs : s.WellFormed) (hc : Ordered.Sorted Entry.key c) :
    (replace codec s c).filter (fun e => !owns e) = c.filter fun e => !owns e := by
  obtain ⟨hsorted, hperm⟩ := replace_perm codec hs hc
  have hnone : (entries codec s.toInventory).filter (fun e => !owns e) = [] :=
    List.filter_eq_nil_iff.2 fun e he => by simp [owns_entries he]
  have hforeign := hperm.filter fun e => !owns e
  rw [List.filter_append, hnone, List.nil_append, List.filter_filter] at hforeign
  refine Ordered.Sorted.eq_of_mem_iff (hsorted.filter _) (hc.filter _) fun e => ?_
  simpa using hforeign.mem_iff (a := e)

end ReplicaPlacement.Registry
