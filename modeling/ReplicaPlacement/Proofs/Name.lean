import ReplicaPlacement.Name

/-!
# Names in upper case

In upper case a name is a valid name again, and the identity of what it names.
-/

namespace ReplicaPlacement

namespace Name

theorem toNat_lt_of_isInner {c : Char} (h : isInner c = true) : c.toNat < 128 := by
  change (((decide (65 ≤ c.val ∧ c.val ≤ 90) || (97 ≤ c.val && c.val ≤ 122)) ||
    (48 ≤ c.val && c.val ≤ 57)) || c == '_') || c == '-' at h
  simp only [Bool.or_eq_true, Bool.and_eq_true, decide_eq_true_eq, beq_iff_eq,
    UInt32.le_iff_toNat_le] at h
  change ((((65 ≤ c.toNat ∧ c.toNat ≤ 90) ∨ (97 ≤ c.toNat ∧ c.toNat ≤ 122)) ∨
    (48 ≤ c.toNat ∧ c.toNat ≤ 57)) ∨ c = '_') ∨ c = '-' at h
  rcases h with (h | rfl) | rfl
  · omega
  · decide
  · decide

/-- In upper case a character of a name is one again, stays the same, and is no separator. -/
structure Uppers (c : Char) : Prop where
  inner : isInner c.toUpper = true
  fixed : c.toUpper.toUpper = c.toUpper
  no_separator : c.toUpper ≠ '/'
  alpha : c.isAlpha = true → c.toUpper.isAlpha = true

theorem uppers_of_isInner {c : Char} (h : isInner c = true) : Uppers c := by
  have hall : ∀ n : Fin 128, isInner (Char.ofNat n) = true →
      isInner (Char.ofNat n).toUpper = true ∧
        (Char.ofNat n).toUpper.toUpper = (Char.ofNat n).toUpper ∧ (Char.ofNat n).toUpper ≠ '/' ∧
        ((Char.ofNat n).isAlpha = true → (Char.ofNat n).toUpper.isAlpha = true) := by decide
  have hc := hall ⟨c.toNat, toNat_lt_of_isInner h⟩
  simp only [Char.ofNat_toNat] at hc
  obtain ⟨hinner, hfixed, hseparator, halpha⟩ := hc h
  exact ⟨hinner, hfixed, hseparator, halpha⟩

theorem isInner_of_isAlpha {c : Char} (h : c.isAlpha = true) : isInner c = true := by
  simp [isInner, Char.isAlphanum, h]

theorem forall_isInner_of_isValid {cs : List Char} (h : isValid cs = true) :
    ∀ c ∈ cs, isInner c = true := by
  cases cs with
  | nil => cases h
  | cons c cs =>
    simp only [isValid, Bool.and_eq_true, List.all_eq_true] at h
    exact List.forall_mem_cons.2 ⟨isInner_of_isAlpha h.1.1.1, h.1.1.2⟩

theorem isValid_toUpper {cs : List Char} (h : isValid cs = true) :
    isValid (cs.map Char.toUpper) = true := by
  have hinner := forall_isInner_of_isValid h
  cases cs with
  | nil => cases h
  | cons c cs =>
    obtain ⟨hc, hcs⟩ := List.forall_mem_cons.1 hinner
    simp only [isValid, Bool.and_eq_true, List.all_eq_true, decide_eq_true_eq] at h
    simp only [List.map_cons, isValid, Bool.and_eq_true, List.all_eq_true, decide_eq_true_eq,
      List.length_map, List.forall_mem_map]
    exact ⟨⟨⟨(uppers_of_isInner hc).alpha h.1.1.1, fun c hc => (uppers_of_isInner (hcs c hc)).inner⟩,
      h.1.2⟩, h.2⟩

theorem eq_of_text_eq {kind : NameKind} {m n : Name kind} (h : m.text = n.text) : m = n := by
  cases m
  cases n
  simpa using h

variable {kind : NameKind} (n : Name kind)

theorem isInner_of_mem_text : ∀ c ∈ n.text.toList, isInner c = true :=
  forall_isInner_of_isValid n.valid

theorem toList_key : n.key.toList = n.text.toList.map Char.toUpper := by simp [key, upper]

def canonical : Name kind := ⟨n.key, by rw [toList_key]; exact isValid_toUpper n.valid⟩

@[simp] theorem text_canonical : n.canonical.text = n.key := rfl

@[simp] theorem key_canonical : n.canonical.key = n.key := by
  have hfixed : (n.text.toList.map Char.toUpper).map Char.toUpper = n.text.toList.map Char.toUpper := by
    rw [List.map_map]
    exact List.map_congr_left fun c hc => (uppers_of_isInner (n.isInner_of_mem_text c hc)).fixed
  rw [key, text_canonical, upper, toList_key, hfixed]
  rfl

theorem isInner_of_mem_key {c : Char} (hc : c ∈ n.key.toList) : isInner c = true ∧ c ≠ '/' := by
  rw [toList_key] at hc
  obtain ⟨d, hd, rfl⟩ := List.mem_map.1 hc
  have huppers := uppers_of_isInner (n.isInner_of_mem_text d hd)
  exact ⟨huppers.inner, huppers.no_separator⟩

theorem ofString?_key : ofString? kind n.key = some n.canonical := ofString?_text n.canonical

@[simp] theorem same_canonical (m n : Name kind) : m.canonical.same n.canonical = m.same n := by
  simp [same]

theorem canonical_eq_iff {m n : Name kind} : m.canonical = n.canonical ↔ m.key = n.key :=
  ⟨fun h => congrArg text h, fun h => eq_of_text_eq h⟩

/-! ## Texts up to letter case -/

theorem upper_append (s t : String) : upper (s ++ t) = upper s ++ upper t := by
  simp [upper, String.ofList_append]

end Name

end ReplicaPlacement
