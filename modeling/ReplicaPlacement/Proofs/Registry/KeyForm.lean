import ReplicaPlacement.Proofs.Registry.Key

/-!
# Which texts are keys

A key is a fixed word with valid names behind it, each after a separator, and is read whatever the
letter case of the names. No valid name holds a separator, so the words and names of a key can be told
from its text, and a start that ends with a separator fits the keys of one object only.
-/

namespace ReplicaPlacement

theorem Text.isPrefix_segments {mark : Char} {heads : List (List Char)} {cs : List Char}
    (hheads : ∀ head ∈ heads, mark ∉ head) (h : (heads.flatMap fun head => head ++ [mark]) <+: cs) :
    heads <+: segments mark cs := by
  induction heads generalizing cs with
  | nil => exact List.nil_prefix
  | cons head heads ih =>
    obtain ⟨hhead, hheads⟩ := List.forall_mem_cons.1 hheads
    obtain ⟨rest, rfl⟩ := h
    have hrest := ih hheads (List.prefix_append _ rest)
    rw [segments_eq_splitOn] at hrest ⊢
    rw [List.flatMap_cons, List.append_assoc, List.append_assoc, List.singleton_append,
      List.splitOn_append_cons_self_of_not_mem hhead]
    exact List.cons_prefix_cons.2 ⟨rfl, hrest⟩

namespace RegistryKey

/-! ## Forms -/

def joined (word : String) (names : List String) : String := "/".intercalate (word :: names)

def IsName (name : String) : Prop := Name.isValid name.toList = true

instance (name : String) : Decidable (IsName name) := inferInstanceAs (Decidable (_ = true))

/-- The words, with as many valid names as each takes. -/
inductive Form : String → List String → Prop
  | node {host : String} (valid : IsName host) : Form "node" [host]
  | pool {host name : String} (host_valid : IsName host) (name_valid : IsName name) :
      Form "storpool" [host, name]
  | replica {res host : String} (res_valid : IsName res) (host_valid : IsName host) :
      Form "resource" [res, host]
  | resource {name : String} (valid : IsName name) : Form "rscdfn" [name]

def word : RegistryKey → String
  | node _ => "node"
  | pool .. => "storpool"
  | replica .. => "resource"
  | resource _ => "rscdfn"

def spellings : RegistryKey → List String
  | node host => [host.text]
  | pool host name => [host.text, name.text]
  | replica res host => [res.text, host.text]
  | resource name => [name.text]

theorem form (k : RegistryKey) : Form k.word k.spellings := by
  cases k with
  | node host => exact .node host.valid
  | pool host name => exact .pool host.valid name.valid
  | replica res host => exact .replica res.valid host.valid
  | resource name => exact .resource name.valid

theorem Form.exists_key {word : String} {names : List String} (h : Form word names) :
    ∃ k : RegistryKey, k.word = word ∧ k.spellings = names := by
  cases h with
  | node valid => exact ⟨.node ⟨_, valid⟩, rfl, rfl⟩
  | pool host_valid name_valid => exact ⟨.pool ⟨_, host_valid⟩ ⟨_, name_valid⟩, rfl, rfl⟩
  | replica res_valid host_valid => exact ⟨.replica ⟨_, res_valid⟩ ⟨_, host_valid⟩, rfl, rfl⟩
  | resource valid => exact ⟨.resource ⟨_, valid⟩, rfl, rfl⟩

theorem parts_eq (k : RegistryKey) : k.parts = k.word :: k.spellings.map Name.upper := by
  cases k <;> rfl

theorem encode_eq_joined (k : RegistryKey) : k.encode = joined k.word (k.spellings.map Name.upper) := by
  rw [encode_eq_intercalate, parts_eq, joined]

/-! ## Reading -/

theorem separator_not_mem_joined (k : RegistryKey) :
    ∀ part ∈ k.word :: k.spellings, '/' ∉ part.toList := by
  have hname {kind : NameKind} (n : Name kind) : '/' ∉ n.text.toList := fun h => by
    have hinner := n.isInner_of_mem_text '/' h
    revert hinner
    decide
  cases k <;> simp [word, spellings, hname]

theorem parse_joined (k : RegistryKey) : parse (joined k.word k.spellings) = .ok k := by
  have hsegments : (Text.segments '/' (joined k.word k.spellings).toList).map String.ofList =
      k.word :: k.spellings :=
    Text.segments_intercalate (List.cons_ne_nil _ _) k.separator_not_mem_joined
  unfold parse ofString?
  rw [hsegments]
  cases k <;> simp [word, spellings]

theorem eq_joined_of_ofString? {s : String} {k : RegistryKey} (h : ofString? s = some k) :
    s = joined k.word k.spellings := by
  have hjoin {parts : List String} (hparts : (Text.segments '/' s.toList).map String.ofList = parts) :
      s = "/".intercalate parts := Text.eq_intercalate_of_segments hparts
  -- The segments of each kind have one shape, and a name is spelled as its text.
  unfold ofString? at h
  split at h
  case h_1 host hparts =>
    obtain ⟨host, hhost, rfl⟩ := Option.map_eq_some_iff.1 h
    rw [hjoin hparts, ← Name.text_of_ofString? hhost]
    rfl
  case h_2 host name hparts =>
    obtain ⟨host, hhost, h⟩ := Option.bind_eq_some_iff.1 h
    obtain ⟨name, hname, h⟩ := Option.bind_eq_some_iff.1 h
    cases h
    rw [hjoin hparts, ← Name.text_of_ofString? hhost, ← Name.text_of_ofString? hname]
    rfl
  case h_3 res host hparts =>
    obtain ⟨res, hres, h⟩ := Option.bind_eq_some_iff.1 h
    obtain ⟨host, hhost, h⟩ := Option.bind_eq_some_iff.1 h
    cases h
    rw [hjoin hparts, ← Name.text_of_ofString? hres, ← Name.text_of_ofString? hhost]
    rfl
  case h_4 name hparts =>
    obtain ⟨name, hname, rfl⟩ := Option.map_eq_some_iff.1 h
    rw [hjoin hparts, ← Name.text_of_ofString? hname]
    rfl
  case h_5 => cases h

theorem parse_eq_ok_iff {s : String} {k : RegistryKey} :
    parse s = .ok k ↔ s = joined k.word k.spellings := by
  constructor
  · intro h
    refine eq_joined_of_ofString? ?_
    unfold parse at h
    split at h
    · cases h
      assumption
    · cases h
  · rintro rfl
    exact parse_joined k

theorem parse_cases (s : String) : (∃ k, parse s = .ok k) ∨ parse s = .error (.invalidKey s) := by
  unfold parse
  split
  · exact .inl ⟨_, rfl⟩
  · exact .inr rfl

theorem exists_parse_eq_ok_iff {s : String} :
    (∃ k, parse s = .ok k) ↔ ∃ word names, Form word names ∧ s = joined word names := by
  constructor
  · rintro ⟨k, hk⟩
    exact ⟨k.word, k.spellings, k.form, parse_eq_ok_iff.1 hk⟩
  · rintro ⟨word, names, hform, rfl⟩
    obtain ⟨k, rfl, rfl⟩ := hform.exists_key
    exact ⟨k, k.parse_joined⟩

theorem encode_of_parse_joined {word : String} {names : List String} {k : RegistryKey}
    (hform : Form word names) (h : parse (joined word names) = .ok k) :
    k.encode = joined word (names.map Name.upper) := by
  obtain ⟨k', rfl, rfl⟩ := hform.exists_key
  cases k'.parse_joined.symm.trans h
  exact k.encode_eq_joined

/-! ## Starts -/

theorem encode_eq_iff {k k' : RegistryKey} : k.encode = k'.encode ↔ k.same k' = true := by
  refine ⟨same_of_encode_eq, fun h => ?_⟩
  rw [encode_eq_intercalate, encode_eq_intercalate]
  cases k <;> cases k' <;> simp_all [same, Name.same, parts]

theorem isPrefix_parts {heads : List String} {k : RegistryKey}
    (hheads : ∀ head ∈ heads, '/' ∉ head.toList)
    (h : (heads.flatMap fun head => head.toList ++ ['/']) <+: k.encode.toList) : heads <+: k.parts := by
  have hsegments : heads.map String.toList <+: Text.segments '/' k.encode.toList := by
    refine Text.isPrefix_segments (List.forall_mem_map.2 hheads) ?_
    rwa [List.flatMap_map]
  have hparts := hsegments.map String.ofList
  rw [segments_encode, List.map_map] at hparts
  simpa [Function.comp_def] using hparts

theorem start_eq (k : RegistryKey) : k.start = k.word ++ "/" := by cases k <;> rfl

theorem isPrefix_encode_iff {p : String} {k : RegistryKey} (hp : p ∈ prefixes) :
    p.toList <+: k.encode.toList ↔ p = k.start := by
  have hwords : prefixes = ["node", "storpool", "resource", "rscdfn"].map (· ++ "/") := by decide
  have hseparators : ∀ word ∈ ["node", "storpool", "resource", "rscdfn"], '/' ∉ word.toList := by decide
  constructor
  · intro h
    rw [hwords] at hp
    obtain ⟨word, hword, rfl⟩ := List.mem_map.1 hp
    have hparts : [word] <+: k.parts :=
      isPrefix_parts (by simpa using hseparators word hword) (by simpa using h)
    rw [parts_eq, List.cons_prefix_cons] at hparts
    rw [start_eq, hparts.1]
  · rintro rfl
    obtain ⟨rest, hrest⟩ := k.exists_encode_eq
    rw [hrest, String.toList_append]
    exact List.prefix_append _ _

theorem poolsOn_isPrefix_iff {n : NodeName} {k : RegistryKey} :
    (poolsOn n).toList <+: k.encode.toList ↔ ∃ host name, k = pool host name ∧ host.same n = true := by
  constructor
  · intro h
    have hparts : ["storpool", n.key] <+: k.parts :=
      isPrefix_parts (by simp [separator_not_mem]) (by simpa [poolsOn, poolPrefix] using h)
    cases k with
    | pool host name =>
      have hkey : n.key = host.key := by simpa [parts] using hparts
      exact ⟨host, name, rfl, Name.same_iff.2 hkey.symm⟩
    | node | replica | resource => simp [parts] at hparts
  · rintro ⟨host, name, rfl, hsame⟩
    have hstart : poolsOn host = poolsOn n := by rw [poolsOn, poolsOn, Name.same_iff.1 hsame]
    rw [encode, hstart, String.toList_append]
    exact List.prefix_append _ _

theorem replicasOf_isPrefix_iff {r : ResourceName} {k : RegistryKey} :
    (replicasOf r).toList <+: k.encode.toList ↔
      ∃ res host, k = replica res host ∧ res.same r = true := by
  constructor
  · intro h
    have hparts : ["resource", r.key] <+: k.parts :=
      isPrefix_parts (by simp [separator_not_mem]) (by simpa [replicasOf, replicaPrefix] using h)
    cases k with
    | replica res host =>
      have hkey : r.key = res.key := by simpa [parts] using hparts
      exact ⟨res, host, rfl, Name.same_iff.2 hkey.symm⟩
    | node | pool | resource => simp [parts] at hparts
  · rintro ⟨res, host, rfl, hsame⟩
    have hstart : replicasOf res = replicasOf r := by rw [replicasOf, replicasOf, Name.same_iff.1 hsame]
    rw [encode, hstart, String.toList_append]
    exact List.prefix_append _ _

/-! ## The whole grammar -/

/-- Keys are read back, one for each object; the texts read are those of the four forms; and keys
start apart. -/
theorem encode_parse_exact :
    (∀ k : RegistryKey, ∃ k', parse k.encode = .ok k' ∧ k'.same k = true) ∧
    (∀ k k' : RegistryKey, k.encode = k'.encode ↔ k.same k' = true) ∧
    (∀ s, (∃ k, parse s = .ok k) ↔ ∃ word names, Form word names ∧ s = joined word names) ∧
    (∀ word names k, Form word names → parse (joined word names) = .ok k →
      k.encode = joined word (names.map Name.upper)) ∧
    (∀ s, (∃ k, parse s = .ok k) ∨ parse s = .error (.invalidKey s)) ∧
    (∀ k : RegistryKey, k.start ∈ prefixes ∧
      ∀ p ∈ prefixes, p.toList <+: k.encode.toList ↔ p = k.start) ∧
    (∀ (n : NodeName) (k : RegistryKey), (poolsOn n).toList <+: k.encode.toList ↔
      ∃ host name, k = .pool host name ∧ host.same n = true) ∧
    ∀ (r : ResourceName) (k : RegistryKey), (replicasOf r).toList <+: k.encode.toList ↔
      ∃ res host, k = .replica res host ∧ res.same r = true := by
  refine ⟨fun k => ?back, fun _ _ => encode_eq_iff, fun _ => exists_parse_eq_ok_iff,
    fun _ _ _ hform h => encode_of_parse_joined hform h, parse_cases,
    fun k => ⟨k.start_mem, fun _ hp => isPrefix_encode_iff hp⟩, fun _ _ => poolsOn_isPrefix_iff,
    fun _ _ => replicasOf_isPrefix_iff⟩
  case back => exact ⟨k.canonical, k.parse_encode, k.same_canonical⟩

/-! ## A name that goes on where another ends -/

def shortNode : NodeName := ⟨"a1", by decide⟩

def poolOnLongNode : RegistryKey := pool ⟨"a12", by decide⟩ ⟨"Ssd", by decide⟩

theorem parse_poolOnLongNode : parse "storpool/a12/Ssd" = .ok poolOnLongNode ∧
    poolOnLongNode.encode = "storpool/A12/SSD" ∧
    ¬ replicaPrefix.toList <+: poolOnLongNode.encode.toList ∧
    ¬ (poolsOn shortNode).toList <+: poolOnLongNode.encode.toList := by
  have hform : Form "storpool" ["a12", "Ssd"] := .pool (by decide) (by decide)
  have hparse : parse "storpool/a12/Ssd" = .ok poolOnLongNode := by decide
  obtain ⟨-, -, -, hencode, -, hstart, hpools, -⟩ := encode_parse_exact
  refine ⟨hparse, hencode _ _ _ hform hparse, fun hreplica => ?_, fun hshort => ?_⟩
  · have hkind := ((hstart _).2 replicaPrefix (by decide)).1 hreplica
    revert hkind
    decide
  · obtain ⟨host, name, hkey, hsame⟩ := (hpools shortNode _).1 hshort
    obtain ⟨rfl, -⟩ := pool.inj hkey
    revert hsame
    decide

end RegistryKey

end ReplicaPlacement
