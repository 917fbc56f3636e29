import Mathlib.Data.List.Lex
import ReplicaPlacement.Proofs.Ordered
import ReplicaPlacement.Store.Basic

/-!
# Scanning a store

In key order, all entries whose key starts with some bytes stand next to each other, so a scan finds
exactly these, and removing what it finds leaves all others.
-/

namespace ReplicaPlacement

/-- Byte strings are ordered byte by byte, a start of a string before the string. -/
instance : LinearOrder Bytes where
  le_refl := List.le_refl
  le_trans _ _ _ := List.le_trans
  lt_iff_le_not_ge a b := ⟨fun h => ⟨List.le_of_lt h, List.not_le.2 h⟩, fun h => List.not_le.1 h.2⟩
  le_antisymm _ _ := List.le_antisymm
  le_total := List.le_total
  toDecidableLE := inferInstance
  toDecidableEq := inferInstance
  toDecidableLT := inferInstance
  compare a b := compareOfLessAndEq a b
  compare_eq_compareOfLessAndEq _ _ := rfl

namespace Store

variable {start k k' : Bytes} {c : Content}

/-! ## Keys with a common start -/

theorem prefix_of_between (hk : start ≤ k) (hkk' : k ≤ k') (h : start <+: k') : start <+: k := by
  induction start generalizing k k' with
  | nil => exact List.nil_prefix
  | cons a start ih =>
    obtain ⟨rest', rfl⟩ := h
    rw [List.cons_append] at hkk'
    cases k with
    | nil => exact absurd hk (List.not_le.2 (List.nil_lt_cons a start))
    | cons b rest =>
      rcases List.cons_le_cons_iff.1 hk with hab | ⟨rfl, hrest⟩
      · rcases List.cons_le_cons_iff.1 hkk' with hba | ⟨rfl, -⟩
        · exact absurd hba (UInt8.lt_asymm hab)
        · exact absurd hab (UInt8.lt_irrefl _)
      · rcases List.cons_le_cons_iff.1 hkk' with hba | ⟨-, hrest'⟩
        · exact absurd hba (UInt8.lt_irrefl _)
        · exact List.cons_prefix_cons.2 ⟨rfl, ih hrest hrest' (List.prefix_append start rest')⟩

theorem scan_eq_filter (h : Ordered.Sorted Entry.key c) :
    scan start c = c.filter fun e => start.isPrefixOf e.key := by
  induction c with
  | nil => rfl
  | cons e c ih =>
    obtain ⟨he, hc⟩ := List.pairwise_cons.1 h
    have hrest := ih hc
    unfold scan at hrest ⊢
    by_cases hlt : e.key < start
    · have hno : start.isPrefixOf e.key = false := by
        rw [Bool.eq_false_iff, Ne, List.isPrefixOf_iff_prefix]
        exact fun hp => absurd hp.le (List.not_le.2 hlt)
      rw [List.dropWhile_cons, if_pos (decide_eq_true hlt), hrest,
        List.filter_cons, if_neg (by simp [hno])]
    · have hle : start ≤ e.key := not_lt.1 hlt
      rw [List.dropWhile_cons, if_neg (by simpa using hle)]
      cases hp : start.isPrefixOf e.key with
      | true =>
        -- What follows is above the start as well, so nothing is dropped there.
        have hkeep : c.dropWhile (fun e => decide (e.key < start)) = c := by
          cases c with
          | nil => rfl
          | cons e' c =>
            have hle' : start ≤ e'.key := hle.trans (he e' List.mem_cons_self).le
            exact List.dropWhile_cons_of_neg (by simpa using hle')
        rw [hkeep] at hrest
        rw [List.takeWhile_cons, if_pos hp, List.filter_cons, if_pos hp, hrest]
      | false =>
        rw [List.takeWhile_cons, if_neg (by simp [hp]), List.filter_cons, if_neg (by simp [hp])]
        refine (List.filter_eq_nil_iff.2 fun e' he' hp' => ?_).symm
        have hbetween := prefix_of_between hle (he e' he').le (List.isPrefixOf_iff_prefix.1 hp')
        rw [List.isPrefixOf_iff_prefix.2 hbetween] at hp
        cases hp

/-! ## Deleting -/

theorem foldl_remove (found c : Content) :
    found.foldl remove c = c.filter fun e => decide (e.key ∉ found.map Entry.key) := by
  induction found generalizing c with
  | nil => simp
  | cons e found ih =>
    rw [List.foldl_cons, ih, remove, Ordered.erase, List.filter_filter]
    refine List.filter_congr fun x _ => ?_
    by_cases hx : x.key = e.key <;> simp [hx]

theorem deletePrefix_eq_filter (h : Ordered.Sorted Entry.key c) :
    (deletePrefix start c).1 = c.filter fun e => !start.isPrefixOf e.key := by
  simp only [deletePrefix, scan_eq_filter h, foldl_remove]
  refine List.filter_congr fun e he => ?_
  have hmem : e.key ∈ (c.filter fun e => start.isPrefixOf e.key).map Entry.key ↔
      start.isPrefixOf e.key = true := by
    constructor
    · intro hk
      obtain ⟨e', he', hk⟩ := List.mem_map.1 hk
      rw [← hk]
      exact (List.mem_filter.1 he').2
    · exact fun hp => List.mem_map_of_mem (List.mem_filter.2 ⟨he, hp⟩)
  cases hp : start.isPrefixOf e.key with
  | true => exact decide_eq_false (not_not.2 (hmem.2 hp))
  | false =>
    refine decide_eq_true fun hk => ?_
    rw [hmem.1 hk] at hp
    cases hp

end Store

end ReplicaPlacement
