import ReplicaPlacement.Proofs.Registry.Load

/-!
# Which stores load

A store may hold anything. Its registry loads exactly if every entry under one of the four words
describes an object of that kind under a key of its own, and the objects are a cluster. Otherwise
the first entry that does not fit decides the error. What was loaded can be saved and loaded again,
however the keys were spelled at first.
-/

namespace ReplicaPlacement

/-- Properties are read as a map in key order, whatever order they are written in. -/
theorem Node.props_sorted_of_read? {ν : Type} [Readable ν] {v : ν} {n : Node}
    (h : FromDocument.read? v = some n) : Ordered.Sorted Prod.fst n.props := by
  simp only [FromDocument.read?, Option.bind_eq_bind, Option.bind_eq_some_iff, Option.pure_def] at h
  obtain ⟨fs, -, name, -, h⟩ := h
  split at h
  · obtain ⟨props, hprops, h⟩ := Option.bind_eq_some_iff.1 h
    obtain ⟨connected, -, h⟩ := Option.bind_eq_some_iff.1 h
    cases hprops
    cases h
    exact Ordered.sorted_nil _
  · obtain ⟨props, hprops, h⟩ := Option.bind_eq_some_iff.1 h
    obtain ⟨connected, -, h⟩ := Option.bind_eq_some_iff.1 h
    obtain ⟨entries, -, hentries⟩ := Option.bind_eq_some_iff.1 hprops
    obtain ⟨read, -, rfl⟩ := Option.map_eq_some_iff.1 hentries
    cases h
    exact Ordered.sorted_ofList read

namespace Registry

open Store (Content Entry)

variable {codec : Codec} {view : Content} {start : String}

/-! ## One entry -/

/-- The key is one of this object, in some letter case. -/
def IsKeyOf (key : Bytes) (k : RegistryKey) : Prop :=
  ∃ k', RegistryKey.parse (Utf8.lossy key) = .ok k' ∧ k'.same k = true

instance (key : Bytes) (k : RegistryKey) : Decidable (IsKeyOf key k) :=
  match h : RegistryKey.parse (Utf8.lossy key) with
  | .ok k' => decidable_of_iff (k'.same k = true) (by simp [IsKeyOf, h])
  | .error _ => isFalse (by simp [IsKeyOf, h])

section Kind

variable {α : Type} [FromDocument α] {keyOf : α → RegistryKey} {e : Entry}

def object? (codec : Codec) (e : Entry) : Option α := (codec.read? e.value).bind FromDocument.read?

/-- A value that describes no such object counts before a key that is not the object's. -/
def entryFaults (codec : Codec) (keyOf : α → RegistryKey) (e : Entry) : List StorageError :=
  match object? codec e with
  | none => [.serialization s!"Failed to deserialize registry entry '{Utf8.lossy e.key}'"]
  | some x => if IsKeyOf e.key (keyOf x) then [] else [.invalidKey (Utf8.lossy e.key)]

def Fits (codec : Codec) (keyOf : α → RegistryKey) (e : Entry) : Prop :=
  ∃ x, object? codec e = some x ∧ IsKeyOf e.key (keyOf x)

theorem entryFaults_eq_nil_iff : entryFaults codec keyOf e = [] ↔ Fits codec keyOf e := by
  unfold entryFaults Fits
  cases object? (α := α) codec e with
  | none => simp
  | some x => simp

theorem readEntry_cases (codec : Codec) (keyOf : α → RegistryKey) (e : Entry) :
    (∃ x, object? codec e = some x ∧
        readEntry codec keyOf e = Outcome.failing (entryFaults codec keyOf e) x) ∨
      ∃ error errors, entryFaults codec keyOf e = error :: errors ∧
        readEntry codec keyOf e = .error error := by
  unfold entryFaults readEntry
  cases hobject : object? (α := α) codec e with
  | none =>
    right
    unfold object? at hobject
    simp only [hobject]
    exact ⟨_, _, rfl, rfl⟩
  | some x =>
    left
    refine ⟨x, rfl, ?_⟩
    unfold object? at hobject
    simp only [hobject]
    -- A key may be unreadable or that of another object, and either is a fault.
    by_cases hkey : IsKeyOf e.key (keyOf x)
    · obtain ⟨k, hparse, hsame⟩ := id hkey
      rw [if_pos hkey, hparse]
      exact if_pos hsame
    · rw [if_neg hkey]
      cases hread : RegistryKey.ofString? (Utf8.lossy e.key) with
      | none =>
        rw [RegistryKey.parse, hread]
        rfl
      | some k =>
        have hparse : RegistryKey.parse (Utf8.lossy e.key) = .ok k := by rw [RegistryKey.parse, hread]
        rw [hparse]
        exact if_neg fun hsame => hkey ⟨k, hparse, hsame⟩

/-! ## One kind of objects -/

def under (start : String) (view : Content) : List Entry :=
  view.filter fun e => (Utf8.encode start).isPrefixOf e.key

theorem loadKind_eq_failing (hview : Ordered.Sorted Entry.key view) :
    (loadKind codec start keyOf view).result = Outcome.failing
      ((under start view).flatMap (entryFaults codec keyOf))
      ((under start view).filterMap (object? codec)) := by
  have hresult : (loadKind codec start keyOf view).result =
      (Store.scan (Utf8.encode start) view).mapM (readEntry codec keyOf) := rfl
  rw [hresult, Store.scan_eq_filter hview]
  exact Outcome.mapM_eq_failing fun e _ => readEntry_cases codec keyOf e

end Kind

/-! ## The whole registry -/

def collected (codec : Codec) (view : Content) : Inventory where
  nodes := (under RegistryKey.nodePrefix view).filterMap (object? codec)
  pools := (under RegistryKey.poolPrefix view).filterMap (object? codec)
  replicas := (under RegistryKey.replicaPrefix view).filterMap (object? codec)
  resources := (under RegistryKey.resourcePrefix view).filterMap (object? codec)

def faults (codec : Codec) (view : Content) : List StorageError :=
  (under RegistryKey.nodePrefix view).flatMap (entryFaults codec nodeKey) ++
    (under RegistryKey.poolPrefix view).flatMap (entryFaults codec poolKey) ++
    (under RegistryKey.replicaPrefix view).flatMap (entryFaults codec replicaKey) ++
    (under RegistryKey.resourcePrefix view).flatMap (entryFaults codec resourceKey)

structure AllFit (codec : Codec) (view : Content) : Prop where
  nodes : ∀ e ∈ under RegistryKey.nodePrefix view, Fits codec nodeKey e
  pools : ∀ e ∈ under RegistryKey.poolPrefix view, Fits codec poolKey e
  replicas : ∀ e ∈ under RegistryKey.replicaPrefix view, Fits codec replicaKey e
  resources : ∀ e ∈ under RegistryKey.resourcePrefix view, Fits codec resourceKey e

theorem faults_eq_nil_iff : faults codec view = [] ↔ AllFit codec view := by
  unfold faults
  simp only [List.append_eq_nil_iff, List.flatMap_eq_nil_iff, entryFaults_eq_nil_iff]
  constructor
  · rintro ⟨⟨⟨hnodes, hpools⟩, hreplicas⟩, hresources⟩
    exact ⟨hnodes, hpools, hreplicas, hresources⟩
  · intro h
    exact ⟨⟨⟨h.nodes, h.pools⟩, h.replicas⟩, h.resources⟩

theorem loadInventory_eq_failing (hview : Ordered.Sorted Entry.key view) :
    (loadInventory codec view).result =
      Outcome.failing (faults codec view) (collected codec view) := by
  unfold loadInventory faults
  rw [Attempt.result_bind, loadKind_eq_failing hview, List.append_assoc, List.append_assoc]
  apply Outcome.failing_bind
  rw [Attempt.result_bind, loadKind_eq_failing hview]
  apply Outcome.failing_bind
  rw [Attempt.result_bind, loadKind_eq_failing hview]
  apply Outcome.failing_bind
  rw [Attempt.result_bind, loadKind_eq_failing hview]
  exact Outcome.failing_bind_ok rfl

theorem load_eq (hview : Ordered.Sorted Entry.key view) : (load codec view).result =
    (Outcome.failing (faults codec view) (collected codec view)).bind fun i =>
      (Snapshot.ofInventory i).mapError .invalidRegistry := by
  rw [← loadInventory_eq_failing hview, load, Attempt.result_bind]
  apply Outcome.bind_congr
  intro i _
  rw [Attempt.result_report_bind (Attempt.result_debug _), Attempt.result_mapError,
    Inventory.result_build]

theorem load_eq_ok_iff (hview : Ordered.Sorted Entry.key view) {s : Snapshot} :
    (load codec view).result = .ok s ↔
      AllFit codec view ∧ Snapshot.ofInventory (collected codec view) = .ok s := by
  rw [load_eq hview, ← faults_eq_nil_iff]
  cases faults codec view with
  | nil =>
    cases h : Snapshot.ofInventory (collected codec view) <;>
      simp [Outcome.failing, Except.bind, Except.mapError, h]
  | cons error errors => simp [Outcome.failing, Except.bind]

theorem load_eq_error_iff (hview : Ordered.Sorted Entry.key view) {error : StorageError} :
    (load codec view).result = .error error ↔ (faults codec view).head? = some error ∨
      AllFit codec view ∧ ∃ cause, Snapshot.ofInventory (collected codec view) = .error cause ∧
        error = .invalidRegistry cause := by
  rw [load_eq hview, ← faults_eq_nil_iff]
  cases faults codec view with
  | nil =>
    cases h : Snapshot.ofInventory (collected codec view) <;>
      simp [Outcome.failing, Except.bind, Except.mapError, h, eq_comm (b := error)]
  | cons error errors => simp [Outcome.failing, Except.bind]

theorem built_of_load (hview : Ordered.Sorted Entry.key view) {s : Snapshot}
    (h : (load codec view).result = .ok s) : s.Built := by
  refine ⟨collected codec view, fun n hn => ?_, ((load_eq_ok_iff hview).1 h).2⟩
  obtain ⟨e, -, hread⟩ := List.mem_filterMap.1 hn
  obtain ⟨v, -, hread⟩ := Option.bind_eq_some_iff.1 hread
  exact Node.props_sorted_of_read? hread

/-- What any store loads as, what else it fails with, and that a load can be saved and repeated. -/
theorem load_spec (hcodec : codec.Lawful) (hview : Ordered.Sorted Entry.key view) :
    (∀ s, (load codec view).result = .ok s ↔
      AllFit codec view ∧ Snapshot.ofInventory (collected codec view) = .ok s) ∧
    (∀ s, (load codec view).result = .ok s → s.Lists (collected codec view) ∧
      ∀ key, (∃ n ∈ s.resources, n.key = key) ↔ (∃ n ∈ (collected codec view).resources, n.key = key) ∨
        ∃ r ∈ (collected codec view).replicas, r.resource.key = key) ∧
    (∀ error, (load codec view).result = .error error ↔ (faults codec view).head? = some error ∨
      AllFit codec view ∧ ∃ cause, Snapshot.ofInventory (collected codec view) = .error cause ∧
        error = .invalidRegistry cause) ∧
    ∀ s c, (load codec view).result = .ok s → Ordered.Sorted Entry.key c →
      ∃ s', (load codec (replace codec s c)).result = .ok s' ∧ s'.toInventory = s.toInventory := by
  refine ⟨fun s => load_eq_ok_iff hview, fun s hs => ?_, fun error => load_eq_error_iff hview, ?_⟩
  · have hbuilt := ((load_eq_ok_iff hview).1 hs).2
    exact ⟨Snapshot.lists_of_ofInventory hbuilt, fun key => Snapshot.exists_resource_iff hbuilt⟩
  · intro s c hs hc
    have hbuilt := built_of_load hview hs
    exact (holds_replace codec hbuilt.wellFormed hc).load hcodec hbuilt

/-! ## A store written by hand -/

def handmade : Content :=
  [⟨Utf8.encode "node/alpha", Utf8.encode "\x7b\"name\":\"Alpha\"\x7d"⟩,
    ⟨Utf8.encode "rscdfn/Db", Utf8.encode "\"dB\""⟩]

def handmadeSnapshot : Snapshot where
  nodes := [{ name := ⟨"Alpha", by decide⟩ }]
  resources := [⟨"dB", by decide⟩]

theorem load_handmade : (load Codec.json handmade).result = .ok handmadeSnapshot ∧
    ∃ s', (load Codec.json (replace Codec.json handmadeSnapshot handmade)).result = .ok s' ∧
      s'.toInventory = handmadeSnapshot.toInventory := by
  have hsorted : Ordered.Sorted Entry.key handmade := by
    unfold Ordered.Sorted
    decide
  have hfaults : faults Codec.json handmade = [] := by decide +kernel
  have hbuild : Snapshot.ofInventory (collected Codec.json handmade) = .ok handmadeSnapshot := by
    decide +kernel
  have hload := ((load_spec Codec.lawful_json hsorted).1 handmadeSnapshot).2
    ⟨faults_eq_nil_iff.1 hfaults, hbuild⟩
  exact ⟨hload, (load_spec Codec.lawful_json hsorted).2.2.2 _ _ hload hsorted⟩

end Registry

end ReplicaPlacement
