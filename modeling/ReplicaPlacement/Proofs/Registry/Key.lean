import ReplicaPlacement.Proofs.Name
import ReplicaPlacement.Proofs.Text.Utf8
import ReplicaPlacement.Registry.Key

/-!
# Keys tell objects apart

Reading a key back gives the names in upper case, so it is the key of one object only, in any
spelling; and the fixed words at the start keep the four kinds of objects apart.
-/

namespace ReplicaPlacement

/-! ## Segments -/

namespace Text

theorem segments_eq_splitOn (mark : Char) (cs : List Char) : segments mark cs = cs.splitOn mark := by
  induction cs with
  | nil => rfl
  | cons c cs ih =>
    rw [segments, List.splitOn_cons_eq_if_modifyHead]
    simp only [beq_iff_eq]
    split
    · rw [ih]
    · rw [← ih]
      obtain ⟨s, rest, hcs⟩ := List.exists_cons_of_ne_nil (segments_ne_nil mark cs)
      rw [hcs, List.modifyHead_cons]

theorem eq_intercalate_of_segments {mark : Char} {s : String} {parts : List String}
    (h : (segments mark s.toList).map String.ofList = parts) :
    s = (String.singleton mark).intercalate parts := by
  have hparts : parts.map String.toList = s.toList.splitOn mark := by
    rw [← h, segments_eq_splitOn, List.map_map]
    simp [Function.comp_def]
  rw [← String.toList_inj, String.toList_intercalate, hparts, String.toList_singleton,
    List.intercalate_splitOn]

theorem segments_intercalate {mark : Char} {parts : List String} (hparts : parts ≠ [])
    (h : ∀ part ∈ parts, mark ∉ part.toList) :
    (segments mark ((String.singleton mark).intercalate parts).toList).map String.ofList = parts := by
  rw [segments_eq_splitOn, String.toList_intercalate, String.toList_singleton,
    List.splitOn_intercalate mark (List.forall_mem_map.2 h) (by simpa using hparts), List.map_map]
  simp [Function.comp_def]

end Text

/-! ## Reading a key back -/

namespace RegistryKey

def canonical : RegistryKey → RegistryKey
  | node host => node host.canonical
  | pool host name => pool host.canonical name.canonical
  | replica res host => replica res.canonical host.canonical
  | resource name => resource name.canonical

theorem same_canonical (k : RegistryKey) : k.canonical.same k = true := by
  cases k <;> simp [canonical, same, Name.same]

theorem separator_not_mem {kind : NameKind} (n : Name kind) : '/' ∉ n.key.toList :=
  fun h => (n.isInner_of_mem_key h).2 rfl

def parts : RegistryKey → List String
  | node host => ["node", host.key]
  | pool host name => ["storpool", host.key, name.key]
  | replica res host => ["resource", res.key, host.key]
  | resource name => ["rscdfn", name.key]

theorem encode_eq_intercalate (k : RegistryKey) : k.encode = "/".intercalate k.parts := by
  cases k <;> simp [encode, parts, poolsOn, replicasOf, nodePrefix, poolPrefix, replicaPrefix,
    resourcePrefix, String.append_assoc]

theorem separator_not_mem_parts (k : RegistryKey) : ∀ part ∈ k.parts, '/' ∉ part.toList := by
  cases k <;> simp [parts, separator_not_mem]

theorem segments_encode (k : RegistryKey) :
    (Text.segments '/' k.encode.toList).map String.ofList = k.parts := by
  have hne : k.parts ≠ [] := by cases k <;> simp [parts]
  rw [encode_eq_intercalate]
  exact Text.segments_intercalate hne k.separator_not_mem_parts

theorem ofString?_encode (k : RegistryKey) : ofString? k.encode = some k.canonical := by
  unfold ofString?
  rw [segments_encode]
  cases k <;> simp [parts, Name.ofString?_key, canonical]

theorem parse_encode (k : RegistryKey) : parse k.encode = .ok k.canonical := by
  rw [parse, ofString?_encode]

theorem same_of_encode_eq {k k' : RegistryKey} (h : k.encode = k'.encode) : k.same k' = true := by
  have hcanonical : k.canonical = k'.canonical := by
    have hread := ofString?_encode k
    rw [h, ofString?_encode] at hread
    exact (Option.some.inj hread).symm
  cases k <;> cases k' <;> simp_all [canonical, same, Name.same, Name.canonical]

end RegistryKey

/-! ## As bytes -/

namespace RegistryKey

def start : RegistryKey → String
  | node _ => nodePrefix
  | pool .. => poolPrefix
  | replica .. => replicaPrefix
  | resource _ => resourcePrefix

theorem start_mem (k : RegistryKey) : k.start ∈ prefixes := by
  cases k <;> simp [start, prefixes]

theorem exists_encode_eq (k : RegistryKey) : ∃ rest, k.encode = k.start ++ rest := by
  cases k with
  | node host => exact ⟨host.key, rfl⟩
  | pool host name =>
    exact ⟨host.key ++ "/" ++ name.key, by simp [encode, poolsOn, start, String.append_assoc]⟩
  | replica res host =>
    exact ⟨res.key ++ "/" ++ host.key, by simp [encode, replicasOf, start, String.append_assoc]⟩
  | resource name => exact ⟨name.key, rfl⟩

theorem same_of_bytes_eq {k k' : RegistryKey} (h : Utf8.encode k.encode = Utf8.encode k'.encode) :
    k.same k' = true := by
  refine same_of_encode_eq ?_
  rw [← Utf8.lossy_encode k.encode, h, Utf8.lossy_encode]

/-- No word is the start of another. -/
theorem isPrefixOf_bytes {k : RegistryKey} {p : String} (hp : p ∈ prefixes) :
    (Utf8.encode p).isPrefixOf (Utf8.encode k.encode) = true ↔ p = k.start := by
  have hapart : ∀ p ∈ prefixes, ∀ q ∈ prefixes,
      (Utf8.encode p).isPrefixOf (Utf8.encode q) = true → p = q := by decide
  obtain ⟨rest, hrest⟩ := k.exists_encode_eq
  rw [hrest, Utf8.encode_append, List.isPrefixOf_iff_prefix]
  constructor
  · intro h
    rcases List.prefix_or_prefix_of_prefix h (List.prefix_append _ _) with h | h
    · exact hapart p hp k.start k.start_mem (List.isPrefixOf_iff_prefix.2 h)
    · exact (hapart k.start k.start_mem p hp (List.isPrefixOf_iff_prefix.2 h)).symm
  · rintro rfl
    exact List.prefix_append _ _

end RegistryKey

end ReplicaPlacement
