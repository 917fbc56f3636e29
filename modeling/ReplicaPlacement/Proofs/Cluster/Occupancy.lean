import ReplicaPlacement.Proofs.Cluster.Indexes

/-!
# The indices of occupied nodes and pools

While the replicas of an inventory are added, their resources can be filed under the node and under
each pool that a volume lies in. In a snapshot that builds, these two indices hold what
`Snapshot.resourcesOn` and `Snapshot.resourcesIn` compute from the deployments.
-/

namespace ReplicaPlacement

abbrev ResourceIndex (κ : Type) := List (κ × List ResourceName)

namespace ResourceIndex

variable {κ : Type}

section

variable [LT κ] [DecidableLT κ] [DecidableEq κ]

def filed (index : ResourceIndex κ) (k : κ) : List ResourceName :=
  ((Ordered.find? Prod.fst k index).map Prod.snd).getD []

def file (index : ResourceIndex κ) (k : κ) (name : ResourceName) : ResourceIndex κ :=
  Ordered.alter Prod.fst k
    (fun entry => (k, Ordered.insert Name.key name ((entry.map Prod.snd).getD []))) index

def fileAll (index : ResourceIndex κ) (xs : List (κ × ResourceName)) : ResourceIndex κ :=
  xs.foldl (fun index x => index.file x.1 x.2) index

end

variable [LinearOrder κ] {index : ResourceIndex κ}

theorem sorted_file (h : Ordered.Sorted Prod.fst index) (k : κ) (name : ResourceName) :
    Ordered.Sorted Prod.fst (index.file k name) :=
  Ordered.sorted_alter h rfl

theorem filed_file (h : Ordered.Sorted Prod.fst index) (k k' : κ) (name : ResourceName) :
    (index.file k name).filed k' =
      if k = k' then Ordered.insert Name.key name (index.filed k') else index.filed k' := by
  have hsorted := sorted_file h k name
  have hmem := fun e => Ordered.mem_alter (k := k) (y := e)
    (f := fun entry => (k, Ordered.insert Name.key name ((entry.map Prod.snd).getD []))) h
  split_ifs with hk
  · subst hk
    have hfind := (Ordered.find?_eq_some_iff hsorted).2 ⟨(hmem _).2 (.inl rfl), rfl⟩
    rw [filed, hfind]
    rfl
  · -- An entry of another key is as it was.
    have hfind : Ordered.find? Prod.fst k' (index.file k name) = Ordered.find? Prod.fst k' index := by
      refine Option.ext fun e => ?_
      rw [Ordered.find?_eq_some_iff hsorted, Ordered.find?_eq_some_iff h, file, hmem]
      constructor
      · rintro ⟨rfl | ⟨he, -⟩, hk'⟩
        · exact absurd hk' hk
        · exact ⟨he, hk'⟩
      · rintro ⟨he, rfl⟩
        exact ⟨.inr ⟨he, Ne.symm hk⟩, rfl⟩
    rw [filed, hfind, filed]

/-- What a run of filings leaves under a key is what was filed there, in turn. -/
theorem filed_fileAll (h : Ordered.Sorted Prod.fst index) (xs : List (κ × ResourceName)) (k : κ) :
    (index.fileAll xs).filed k =
      ((xs.filter fun x => decide (x.1 = k)).map Prod.snd).foldl
        (fun names name => Ordered.insert Name.key name names) (index.filed k) := by
  induction xs generalizing index with
  | nil => rfl
  | cons x xs ih =>
    rw [fileAll, List.foldl_cons, ← fileAll, ih (sorted_file h x.1 x.2), filed_file h]
    by_cases hk : x.1 = k
    · rw [if_pos hk, List.filter_cons_of_pos (by simpa using hk), List.map_cons, List.foldl_cons]
    · rw [if_neg hk, List.filter_cons_of_neg (by simpa using hk)]

theorem filed_eq_of_mem_iff {xs : List (κ × ResourceName)} {k : κ} {names : List ResourceName}
    (hnames : Ordered.Sorted Name.key names) (h : ∀ name, (k, name) ∈ xs ↔ name ∈ names) :
    (fileAll [] xs).filed k = names := by
  rw [filed_fileAll (Ordered.sorted_nil _)]
  refine Ordered.foldl_insert_eq_of_mem_iff hnames fun name => ?_
  rw [← h name]
  simp

end ResourceIndex

/-- The two indices, as far as the replicas up to some point fill them. -/
structure Occupancy where
  onNodes : ResourceIndex String := []
  inPools : ResourceIndex (String ×ₗ String) := []

namespace Occupancy

def add (o : Occupancy) (r : Replica) : Occupancy where
  onNodes := o.onNodes.file r.node.key r.resource
  inPools := r.volumes.foldl
    (fun index v => index.file (toLex (r.node.key, v.pool.key)) r.resource) o.inPools

def ofReplicas (rs : List Replica) : Occupancy := rs.foldl add {}

def resourcesOn (o : Occupancy) (node : NodeName) : List ResourceName := o.onNodes.filed node.key

def resourcesIn (o : Occupancy) (node : NodeName) (pool : PoolName) : List ResourceName :=
  o.inPools.filed (toLex (node.key, pool.key))

theorem onNodes_foldl (rs : List Replica) (o : Occupancy) :
    (rs.foldl add o).onNodes = o.onNodes.fileAll (rs.map fun r => (r.node.key, r.resource)) := by
  induction rs generalizing o with
  | nil => rfl
  | cons r rs ih => exact ih (o.add r)

theorem inPools_foldl (rs : List Replica) (o : Occupancy) :
    (rs.foldl add o).inPools = o.inPools.fileAll
      (rs.flatMap fun r => r.volumes.map fun v => (toLex (r.node.key, v.pool.key), r.resource)) := by
  induction rs generalizing o with
  | nil => rfl
  | cons r rs ih =>
    rw [List.foldl_cons, ih, List.flatMap_cons]
    simp only [ResourceIndex.fileAll, List.foldl_append, List.foldl_map, add]

end Occupancy

namespace Snapshot

variable {i : Inventory} {s : Snapshot}

theorem resourcesOn_ofReplicas (h : ofInventory i = .ok s) (node : NodeName) :
    (Occupancy.ofReplicas i.replicas).resourcesOn node = s.resourcesOn node := by
  have hs := indexes_of_ofInventory h
  rw [Occupancy.resourcesOn, Occupancy.ofReplicas, Occupancy.onNodes_foldl]
  refine ResourceIndex.filed_eq_of_mem_iff (hs.resourcesOn_sorted node) fun name => ?_
  rw [hs.mem_resourcesOn_iff]
  simp

theorem resourcesIn_ofReplicas (h : ofInventory i = .ok s) (node : NodeName) (pool : PoolName) :
    (Occupancy.ofReplicas i.replicas).resourcesIn node pool = s.resourcesIn node pool := by
  have hs := indexes_of_ofInventory h
  rw [Occupancy.resourcesIn, Occupancy.ofReplicas, Occupancy.inPools_foldl]
  refine ResourceIndex.filed_eq_of_mem_iff (hs.resourcesIn_sorted node pool) fun name => ?_
  rw [hs.mem_resourcesIn_iff]
  simp only [List.mem_flatMap, List.mem_map, Prod.mk.injEq, EmbeddingLike.apply_eq_iff_eq]
  constructor
  · rintro ⟨r, hr, v, hv, ⟨hnode, hpool⟩, rfl⟩
    exact ⟨r, hr, hnode, ⟨v, hv, hpool⟩, rfl⟩
  · rintro ⟨r, hr, hnode, ⟨v, hv, hpool⟩, rfl⟩
    exact ⟨r, hr, v, hv, ⟨hnode, hpool⟩, rfl⟩

end Snapshot

end ReplicaPlacement
