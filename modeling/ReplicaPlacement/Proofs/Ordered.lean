import Mathlib.Data.List.Induction
import Mathlib.Data.List.Sort
import Mathlib.Data.Prod.Lex
import Mathlib.Data.String.Basic
import ReplicaPlacement.Ordered

/-!
# What lists in key order hold

Adding a member keeps the order, and a sorted list holds at most one member of a key, so looking a
key up and being a member say the same.
-/

namespace ReplicaPlacement.Ordered

variable {α κ : Type} [LinearOrder κ] {key : α → κ}

/-! ## Lookup -/

theorem contains_iff {k : κ} {xs : List α} :
    contains key k xs = true ↔ ∃ x ∈ xs, key x = k := by
  simp [contains]

theorem find?_eq_some {k : κ} {xs : List α} {x : α} (h : find? key k xs = some x) :
    x ∈ xs ∧ key x = k := by
  refine ⟨List.mem_of_find?_eq_some h, ?_⟩
  simpa using List.find?_some h

theorem find?_eq_none_iff {k : κ} {xs : List α} :
    find? key k xs = none ↔ ∀ x ∈ xs, key x ≠ k := by
  simp [find?]

theorem isSome_find? {k : κ} {xs : List α} :
    (find? key k xs).isSome = contains key k xs := by
  rw [Bool.eq_iff_iff, contains_iff, find?, List.find?_isSome]
  simp

theorem Sorted.eq_of_key {xs : List α} (h : Sorted key xs) {x y : α} (hx : x ∈ xs) (hy : y ∈ xs)
    (hk : key x = key y) : x = y := by
  induction xs with
  | nil => cases hx
  | cons z zs ih =>
    obtain ⟨hz, hzs⟩ := List.pairwise_cons.1 h
    rcases List.mem_cons.1 hx with rfl | hx'
    · rcases List.mem_cons.1 hy with rfl | hy'
      · rfl
      · exact absurd (hz y hy') (by simp [hk])
    · rcases List.mem_cons.1 hy with rfl | hy'
      · exact absurd (hz x hx') (by simp [hk])
      · exact ih hzs hx' hy'

theorem find?_eq_some_iff {k : κ} {xs : List α} (h : Sorted key xs) {x : α} :
    find? key k xs = some x ↔ x ∈ xs ∧ key x = k := by
  refine ⟨find?_eq_some, ?_⟩
  rintro ⟨hx, rfl⟩
  cases hf : find? key (key x) xs with
  | none => exact absurd rfl (find?_eq_none_iff.1 hf x hx)
  | some y =>
    obtain ⟨hy, hk⟩ := find?_eq_some hf
    rw [h.eq_of_key hy hx hk]

theorem getD_find?_induction {β : Type} {k : κ} {xs : List α} {held : α → List β} {P : List β → Prop}
    (hnil : P []) (hheld : ∀ x ∈ xs, P (held x)) : P (((find? key k xs).map held).getD []) := by
  cases hx : find? key k xs with
  | none => exact hnil
  | some x => exact hheld x (find?_eq_some hx).1

theorem mem_getD_find? {β : Type} {k : κ} {xs : List α} (h : Sorted key xs) {held : α → List β}
    {y : β} :
    y ∈ ((find? key k xs).map held).getD [] ↔ ∃ x ∈ xs, key x = k ∧ y ∈ held x := by
  cases hf : find? key k xs with
  | none =>
    have hnone := find?_eq_none_iff.1 hf
    simp only [Option.map_none, Option.getD_none, List.not_mem_nil, false_iff, not_exists, not_and]
    intro x hx hk
    exact absurd hk (hnone x hx)
  | some x =>
    obtain ⟨hx, hk⟩ := find?_eq_some hf
    simp only [Option.map_some, Option.getD_some]
    refine ⟨fun hy => ⟨x, hx, hk, hy⟩, ?_⟩
    rintro ⟨x', hx', hk', hy⟩
    rwa [h.eq_of_key hx hx' (hk.trans hk'.symm)]

/-! ## Adding members -/

theorem mem_insert_self (x : α) (xs : List α) : ∃ y ∈ insert key x xs, key y = key x := by
  induction xs with
  | nil => exact ⟨x, by simp [insert], rfl⟩
  | cons z zs ih =>
    unfold insert
    split_ifs with h1 h2
    · exact ⟨x, by simp, rfl⟩
    · exact ⟨z, by simp, h2.symm⟩
    · obtain ⟨y, hy, hk⟩ := ih
      exact ⟨y, List.mem_cons_of_mem _ hy, hk⟩

theorem mem_insert_of_mem {x y : α} {xs : List α} (h : y ∈ xs) : y ∈ insert key x xs := by
  induction xs with
  | nil => cases h
  | cons z zs ih =>
    unfold insert
    split_ifs
    · exact List.mem_cons_of_mem _ h
    · exact h
    · rcases List.mem_cons.1 h with rfl | h
      · simp
      · exact List.mem_cons_of_mem _ (ih h)

theorem sorted_insert {x : α} {xs : List α} (h : Sorted key xs) : Sorted key (insert key x xs) := by
  induction xs with
  | nil => exact List.pairwise_singleton _ _
  | cons z zs ih =>
    obtain ⟨hz, hzs⟩ := List.pairwise_cons.1 h
    unfold insert
    split_ifs with h1 h2
    · refine List.pairwise_cons.2 ⟨?_, h⟩
      intro y hy
      rcases List.mem_cons.1 hy with rfl | hy
      · exact h1
      · exact h1.trans (hz y hy)
    · exact h
    · refine List.pairwise_cons.2 ⟨?_, ih hzs⟩
      intro y hy
      rcases mem_insert key hy with rfl | hy
      · exact lt_of_le_of_ne (not_lt.1 h1) (Ne.symm h2)
      · exact hz y hy

theorem sorted_put {x : α} {xs : List α} (h : Sorted key xs) : Sorted key (put key x xs) := by
  induction xs with
  | nil => exact List.pairwise_singleton _ _
  | cons z zs ih =>
    obtain ⟨hz, hzs⟩ := List.pairwise_cons.1 h
    unfold put
    split_ifs with h1 h2
    · refine List.pairwise_cons.2 ⟨?_, h⟩
      intro y hy
      rcases List.mem_cons.1 hy with rfl | hy
      · exact h1
      · exact h1.trans (hz y hy)
    · refine List.pairwise_cons.2 ⟨?_, hzs⟩
      intro y hy
      rw [h2]
      exact hz y hy
    · refine List.pairwise_cons.2 ⟨?_, ih hzs⟩
      intro y hy
      rcases mem_put key hy with rfl | hy
      · exact lt_of_le_of_ne (not_lt.1 h1) (Ne.symm h2)
      · exact hz y hy

theorem mem_put_self (x : α) (xs : List α) : x ∈ put key x xs := by
  induction xs with
  | nil => simp [put]
  | cons z zs ih =>
    unfold put
    split_ifs
    · simp
    · simp
    · exact List.mem_cons_of_mem _ ih

theorem mem_put_of_ne {x y : α} {xs : List α} (h : y ∈ xs) (hne : key y ≠ key x) :
    y ∈ put key x xs := by
  induction xs with
  | nil => cases h
  | cons z zs ih =>
    unfold put
    split_ifs with h1 h2
    · exact List.mem_cons_of_mem _ h
    · rcases List.mem_cons.1 h with rfl | h
      · exact absurd h2.symm hne
      · exact List.mem_cons_of_mem _ h
    · rcases List.mem_cons.1 h with rfl | h
      · simp
      · exact List.mem_cons_of_mem _ (ih h)

/-! ## Lists of members -/

theorem ofList_append (xs : List α) (x : α) : ofList key (xs ++ [x]) = put key x (ofList key xs) := by
  simp [ofList]

theorem sorted_ofList (xs : List α) : Sorted key (ofList key xs) := by
  induction xs using List.reverseRecOn with
  | nil => exact sorted_nil key
  | append_singleton xs x ih =>
    rw [ofList_append]
    exact sorted_put ih

theorem mem_of_mem_ofList {xs : List α} {x : α} (h : x ∈ ofList key xs) : x ∈ xs := by
  induction xs using List.reverseRecOn with
  | nil => cases h
  | append_singleton xs y ih =>
    rw [ofList_append] at h
    rcases mem_put key h with rfl | h
    · simp
    · simp [ih h]

theorem exists_mem_ofList {xs : List α} {x : α} (h : x ∈ xs) : ∃ y ∈ ofList key xs, key y = key x := by
  induction xs using List.reverseRecOn with
  | nil => cases h
  | append_singleton xs z ih =>
    rw [ofList_append]
    rcases List.mem_append.1 h with h | h
    · obtain ⟨y, hy, hk⟩ := ih h
      by_cases hz : key y = key z
      · exact ⟨z, mem_put_self z _, hz.symm.trans hk⟩
      · exact ⟨y, mem_put_of_ne hy hz, hk⟩
    · rw [List.mem_singleton.1 h]
      exact ⟨z, mem_put_self z _, rfl⟩

theorem exists_mem_ofList_iff {k : κ} {xs : List α} :
    (∃ x ∈ ofList key xs, key x = k) ↔ ∃ x ∈ xs, key x = k := by
  constructor
  · rintro ⟨x, hx, hk⟩
    exact ⟨x, mem_of_mem_ofList hx, hk⟩
  · rintro ⟨x, hx, rfl⟩
    exact exists_mem_ofList hx

theorem exists_mem_insert_iff {k : κ} {x : α} {xs : List α} :
    (∃ y ∈ insert key x xs, key y = k) ↔ (∃ y ∈ xs, key y = k) ∨ key x = k := by
  constructor
  · rintro ⟨y, hy, hk⟩
    rcases mem_insert key hy with rfl | hy
    · exact Or.inr hk
    · exact Or.inl ⟨y, hy, hk⟩
  · rintro (⟨y, hy, hk⟩ | rfl)
    · exact ⟨y, mem_insert_of_mem hy, hk⟩
    · exact mem_insert_self x xs

theorem sorted_foldl_insert {xs acc : List α} (h : Sorted key acc) :
    Sorted key (xs.foldl (fun acc x => insert key x acc) acc) := by
  induction xs generalizing acc with
  | nil => exact h
  | cons x xs ih => exact ih (sorted_insert h)

theorem mem_foldl_insert {x : α} {xs acc : List α}
    (h : x ∈ xs.foldl (fun acc x => insert key x acc) acc) : x ∈ xs ∨ x ∈ acc := by
  induction xs generalizing acc with
  | nil => exact .inr h
  | cons y ys ih =>
    rcases ih h with hys | hacc
    · exact .inl (List.mem_cons_of_mem y hys)
    · rcases mem_insert key hacc with rfl | hacc
      · exact .inl List.mem_cons_self
      · exact .inr hacc

theorem exists_mem_foldl_insert_iff {k : κ} {xs acc : List α} :
    (∃ x ∈ xs.foldl (fun acc x => insert key x acc) acc, key x = k) ↔
      (∃ x ∈ acc, key x = k) ∨ ∃ x ∈ xs, key x = k := by
  induction xs generalizing acc with
  | nil => simp
  | cons x xs ih =>
    rw [List.foldl_cons, ih, exists_mem_insert_iff]
    simp [or_assoc]

/-! ## Changing one member -/

theorem mem_alter {k : κ} {f : Option α → α} {xs : List α} (h : Sorted key xs) {y : α} :
    y ∈ alter key k f xs ↔ y = f (find? key k xs) ∨ (y ∈ xs ∧ key y ≠ k) := by
  induction xs with
  | nil => simp [alter, find?]
  | cons z zs ih =>
    obtain ⟨hz, hzs⟩ := List.pairwise_cons.1 h
    unfold alter
    split_ifs with h1 h2
    · -- All keys from here on are above the one in question.
      have hall : ∀ w ∈ z :: zs, key w ≠ k := by
        intro w hw
        rcases List.mem_cons.1 hw with rfl | hw
        · exact h1.ne'
        · exact (h1.trans (hz w hw)).ne'
      rw [find?_eq_none_iff.2 hall, List.mem_cons]
      exact or_congr_right ⟨fun hy => ⟨hy, hall y hy⟩, And.left⟩
    · have hz' : find? key k (z :: zs) = some z := (find?_eq_some_iff h).2 ⟨by simp, h2.symm⟩
      rw [hz', List.mem_cons]
      refine or_congr_right ⟨fun hy => ⟨List.mem_cons_of_mem _ hy, ?_⟩, ?_⟩
      · rw [h2]
        exact (hz y hy).ne'
      · rintro ⟨hy, hk⟩
        rcases List.mem_cons.1 hy with rfl | hy
        · exact absurd h2.symm hk
        · exact hy
    · have hf : find? key k (z :: zs) = find? key k zs := by simp [find?, Ne.symm h2]
      rw [hf, List.mem_cons, ih hzs, List.mem_cons]
      constructor
      · rintro (rfl | hy | ⟨hy, hk⟩)
        · exact .inr ⟨.inl rfl, Ne.symm h2⟩
        · exact .inl hy
        · exact .inr ⟨.inr hy, hk⟩
      · rintro (hy | ⟨rfl | hy, hk⟩)
        · exact .inr (.inl hy)
        · exact .inl rfl
        · exact .inr (.inr ⟨hy, hk⟩)

theorem mem_alter_or {k : κ} {f : Option α → α} {xs : List α} {y : α} (h : y ∈ alter key k f xs) :
    (y = f none ∨ ∃ z ∈ xs, y = f (some z)) ∨ y ∈ xs := by
  induction xs with
  | nil => exact .inl (.inl (List.mem_singleton.1 h))
  | cons z zs ih =>
    unfold alter at h
    split_ifs at h
    · exact (List.mem_cons.1 h).imp_left .inl
    · exact (List.mem_cons.1 h).imp (fun h => .inr ⟨z, List.mem_cons_self, h⟩) (List.mem_cons_of_mem z)
    · rcases List.mem_cons.1 h with rfl | h
      · exact .inr List.mem_cons_self
      · refine (ih h).imp (Or.imp_right ?_) (List.mem_cons_of_mem z)
        rintro ⟨w, hw, rfl⟩
        exact ⟨w, List.mem_cons_of_mem z hw, rfl⟩

theorem sorted_alter {k : κ} {f : Option α → α} {xs : List α} (h : Sorted key xs)
    (hf : key (f (find? key k xs)) = k) : Sorted key (alter key k f xs) := by
  induction xs with
  | nil => exact List.pairwise_singleton _ _
  | cons z zs ih =>
    obtain ⟨hz, hzs⟩ := List.pairwise_cons.1 h
    unfold alter
    split_ifs with h1 h2
    · have hall : ∀ w ∈ z :: zs, k < key w := by
        intro w hw
        rcases List.mem_cons.1 hw with rfl | hw
        · exact h1
        · exact h1.trans (hz w hw)
      rw [find?_eq_none_iff.2 fun w hw => (hall w hw).ne'] at hf
      exact List.pairwise_cons.2 ⟨fun w hw => hf ▸ hall w hw, h⟩
    · rw [(find?_eq_some_iff h).2 ⟨List.mem_cons_self, h2.symm⟩] at hf
      refine List.pairwise_cons.2 ⟨fun w hw => ?_, hzs⟩
      rw [hf, h2]
      exact hz w hw
    · have hrest : find? key k (z :: zs) = find? key k zs := by simp [find?, Ne.symm h2]
      rw [hrest] at hf
      refine List.pairwise_cons.2 ⟨?_, ih hzs hf⟩
      intro w hw
      rcases (mem_alter hzs).1 hw with rfl | ⟨hw, -⟩
      · rw [hf]
        exact lt_of_le_of_ne (not_lt.1 h1) (Ne.symm h2)
      · exact hz w hw

/-! ## What is held -/

theorem insert_perm {x : α} {xs : List α} (h : contains key (key x) xs = false) :
    (insert key x xs).Perm (x :: xs) := by
  induction xs with
  | nil => exact List.Perm.refl _
  | cons y ys ih =>
    rw [contains, List.any_cons, Bool.or_eq_false_iff] at h
    unfold insert
    split_ifs with h1 h2
    · exact List.Perm.refl _
    · exact absurd h2.symm (of_decide_eq_false h.1)
    · exact ((ih h.2).cons y).trans (List.Perm.swap x y ys)

theorem insert_eq_self {x : α} {xs : List α} (h : Sorted key xs)
    (hx : contains key (key x) xs = true) : insert key x xs = xs := by
  induction xs with
  | nil => cases hx
  | cons y ys ih =>
    obtain ⟨hy, hys⟩ := List.pairwise_cons.1 h
    obtain ⟨z, hz, hk⟩ := contains_iff.1 hx
    have hle : key y ≤ key x := by
      rcases List.mem_cons.1 hz with rfl | hz
      · exact hk.le
      · exact hk ▸ (hy z hz).le
    unfold insert
    rw [if_neg (not_lt.2 hle)]
    split_ifs with h2
    · rfl
    · rcases List.mem_cons.1 hz with rfl | hz
      · exact absurd hk.symm h2
      · rw [ih hys (contains_iff.2 ⟨z, hz, hk⟩)]

theorem foldl_insert_eq_self {xs acc : List α} (hacc : Sorted key acc)
    (h : ∀ x ∈ xs, contains key (key x) acc = true) :
    xs.foldl (fun acc x => insert key x acc) acc = acc := by
  induction xs with
  | nil => rfl
  | cons x xs ih =>
    obtain ⟨hx, hxs⟩ := List.forall_mem_cons.1 h
    rw [List.foldl_cons, insert_eq_self hacc hx, ih hxs]

theorem put_perm {x : α} {xs : List α} (h : ∀ y ∈ xs, key y ≠ key x) :
    (put key x xs).Perm (x :: xs) := by
  induction xs with
  | nil => exact List.Perm.refl _
  | cons y ys ih =>
    obtain ⟨hy, hys⟩ := List.forall_mem_cons.1 h
    unfold put
    split_ifs with h1 h2
    · exact List.Perm.refl _
    · exact absurd h2.symm hy
    · exact ((ih hys).cons y).trans (List.Perm.swap x y ys)

theorem foldl_put {xs ys : List α} (hys : Sorted key ys) (hxs : xs.Pairwise fun x y => key x ≠ key y)
    (hnew : ∀ x ∈ xs, ∀ y ∈ ys, key y ≠ key x) :
    Sorted key (xs.foldl (fun acc x => put key x acc) ys) ∧
      (xs.foldl (fun acc x => put key x acc) ys).Perm (xs ++ ys) := by
  induction xs generalizing ys with
  | nil => exact ⟨hys, List.Perm.refl _⟩
  | cons x xs ih =>
    obtain ⟨hx, hxs⟩ := List.pairwise_cons.1 hxs
    obtain ⟨hxnew, hnew⟩ := List.forall_mem_cons.1 hnew
    have hput := put_perm hxnew
    have hrest : ∀ z ∈ xs, ∀ y ∈ put key x ys, key y ≠ key z := by
      intro z hz y hy
      rcases List.mem_cons.1 (hput.mem_iff.1 hy) with rfl | hy
      · exact hx z hz
      · exact hnew z hz y hy
    obtain ⟨hsorted, hperm⟩ := ih (sorted_put hys) hxs hrest
    exact ⟨hsorted, hperm.trans ((hput.append_left xs).trans List.perm_middle)⟩

/-- Through lists that members hold, one more is held after a change that adds it. -/
theorem flatMap_alter_perm {β : Type} {k : κ} {f : Option α → α} {held : α → List β} {b : β}
    {xs : List α} (hnone : held (f none) = [b])
    (hsome : ∀ x, find? key k xs = some x → (held (f (some x))).Perm (b :: held x)) :
    ((alter key k f xs).flatMap held).Perm (b :: xs.flatMap held) := by
  induction xs with
  | nil => simp [alter, hnone]
  | cons y ys ih =>
    unfold alter
    split_ifs with h1 h2
    · simp [hnone]
    · have hfind : find? key k (y :: ys) = some y := by simp [find?, h2]
      simpa using (hsome y hfind).append_right (ys.flatMap held)
    · have hrest : find? key k (y :: ys) = find? key k ys := by simp [find?, Ne.symm h2]
      have hys := ih fun x hx => hsome x (hrest.trans hx)
      simpa using (hys.append_left (held y)).trans List.perm_middle

theorem Sorted.nodup {xs : List α} (h : Sorted key xs) : xs.Nodup :=
  h.imp fun hlt heq => hlt.ne (congrArg key heq)

theorem Sorted.eq_of_mem_iff {xs ys : List α} (hxs : Sorted key xs) (hys : Sorted key ys)
    (h : ∀ x, x ∈ xs ↔ x ∈ ys) : xs = ys := by
  have : Std.Antisymm fun x y : α => key x < key y := ⟨fun x y hxy hyx => absurd hxy hyx.asymm⟩
  have : Std.Irrefl fun x y : α => key x < key y := ⟨fun x => lt_irrefl _⟩
  exact List.Pairwise.eq_of_mem_iff hxs hys h

theorem Sorted.eq_of_perm {xs ys : List α} (hxs : Sorted key xs) (hys : Sorted key ys)
    (h : xs.Perm ys) : xs = ys := hxs.eq_of_mem_iff hys fun _ => h.mem_iff

theorem filter_key_eq {xs : List α} (h : Sorted key xs) (k : κ) :
    xs.filter (fun x => decide (key x = k)) = (find? key k xs).toList := by
  have hfilter : Sorted key (xs.filter fun x => decide (key x = k)) := h.filter _
  have hfound : Sorted key (find? key k xs).toList := by
    cases find? key k xs with
    | none => exact List.Pairwise.nil
    | some x => exact List.pairwise_singleton _ x
  refine hfilter.eq_of_mem_iff hfound fun x => ?_
  rw [List.mem_filter, decide_eq_true_iff, Option.mem_toList, find?_eq_some_iff h]

theorem find?_perm {xs ys : List α} (hxs : Sorted key xs) (h : xs.Perm ys) (k : κ) :
    find? key k xs = find? key k ys := by
  cases hys : find? key k ys with
  | none => exact find?_eq_none_iff.2 fun x hx => find?_eq_none_iff.1 hys x (h.mem_iff.1 hx)
  | some y =>
    obtain ⟨hy, hk⟩ := find?_eq_some hys
    exact (find?_eq_some_iff hxs).2 ⟨h.mem_iff.2 hy, hk⟩

theorem ofList_eq_of_sorted {xs ys : List α} (hys : Sorted key ys) (h : xs.Perm ys) :
    ofList key xs = ys := by
  refine (sorted_ofList xs).eq_of_mem_iff hys fun x => ⟨fun hx => h.mem_iff.1 (mem_of_mem_ofList hx), ?_⟩
  intro hx
  obtain ⟨y, hy, hk⟩ : ∃ y ∈ ofList key xs, key y = key x := exists_mem_ofList (h.mem_iff.2 hx)
  rwa [← hys.eq_of_key (h.mem_iff.1 (mem_of_mem_ofList hy)) hx hk]

theorem foldl_insert_eq_of_mem_iff {xs ys : List α} (hys : Sorted key ys) (h : ∀ x, x ∈ xs ↔ x ∈ ys) :
    xs.foldl (fun acc x => insert key x acc) [] = ys := by
  have hmem : ∀ x ∈ xs.foldl (fun acc x => insert key x acc) [], x ∈ ys := fun x hx =>
    (h x).1 ((mem_foldl_insert hx).resolve_right List.not_mem_nil)
  refine (sorted_foldl_insert (sorted_nil _)).eq_of_mem_iff hys fun x => ⟨hmem x, fun hx => ?_⟩
  -- What was inserted may have been replaced, but only by a member with the same key.
  obtain ⟨y, hy, hk⟩ : ∃ y ∈ xs.foldl (fun acc x => insert key x acc) [], key y = key x :=
    exists_mem_foldl_insert_iff.2 (.inr ⟨x, (h x).2 hx, rfl⟩)
  rwa [← hys.eq_of_key (hmem y hy) hx hk]

theorem sorted_flatMap {β ι : Type} [LinearOrder ι] {xs : List α} {held : α → List β} {outer : β → κ}
    {inner : β → ι} (h : Sorted key xs) (hheld : ∀ x ∈ xs, Sorted inner (held x))
    (houter : ∀ x ∈ xs, ∀ y ∈ held x, outer y = key x) :
    Sorted (fun y => toLex (outer y, inner y)) (xs.flatMap held) := by
  refine List.pairwise_flatMap.2 ⟨fun x hx => ?_, ?_⟩
  · refine (hheld x hx).imp_of_mem fun {y z} hy hz hlt => Prod.Lex.toLex_lt_toLex.2 (.inr ⟨?_, hlt⟩)
    rw [houter x hx y hy, houter x hx z hz]
  · refine List.Pairwise.imp_of_mem (fun {x x'} hx hx' hlt y hy z hz => ?_) h
    refine Prod.Lex.toLex_lt_toLex.2 (.inl ?_)
    rwa [houter x hx y hy, houter x' hx' z hz]

/-! ## Members that hold others -/

/-- Each member holds what belongs to its key, in order, and none holds nothing. -/
structure Grouped {β ι : Type} [LT ι] (key : α → κ) (held : α → List β) (outer : β → κ)
    (inner : β → ι) (xs : List α) : Prop where
  sorted : Sorted key xs
  held_sorted : ∀ x ∈ xs, Sorted inner (held x)
  held_of : ∀ x ∈ xs, ∀ y ∈ held x, outer y = key x
  held_ne_nil : ∀ x ∈ xs, held x ≠ []

namespace Grouped

variable {β ι : Type} [LinearOrder ι] {held : α → List β} {outer : β → κ} {inner : β → ι}
  {xs ys : List α}

theorem mem_held_iff (h : Grouped key held outer inner xs) {x : α} (hx : x ∈ xs) {b : β} :
    b ∈ held x ↔ b ∈ xs.flatMap held ∧ outer b = key x := by
  constructor
  · intro hb
    exact ⟨List.mem_flatMap.2 ⟨x, hx, hb⟩, h.held_of x hx b hb⟩
  · rintro ⟨hb, hk⟩
    obtain ⟨y, hy, hb⟩ := List.mem_flatMap.1 hb
    rwa [h.sorted.eq_of_key hx hy (hk.symm.trans (h.held_of y hy b hb))]

variable (hxs : Grouped key held outer inner xs) (hys : Grouped key held outer inner ys)
  (hperm : (xs.flatMap held).Perm (ys.flatMap held))

include hxs hys hperm

theorem mem_of_mem (hext : ∀ x ∈ xs, ∀ y ∈ ys, key x = key y → held x = held y → x = y) {x : α}
    (hx : x ∈ xs) : x ∈ ys := by
  -- A group that holds nothing would leave no trace, so something that is held leads over.
  obtain ⟨b, hb⟩ := List.exists_mem_of_ne_nil _ (hxs.held_ne_nil x hx)
  obtain ⟨hmem, hk⟩ := (hxs.mem_held_iff hx).1 hb
  obtain ⟨y, hy, hb⟩ := List.mem_flatMap.1 (hperm.mem_iff.1 hmem)
  have hkey : key x = key y := hk.symm.trans (hys.held_of y hy b hb)
  have hheld : held x = held y :=
    (hxs.held_sorted x hx).eq_of_mem_iff (hys.held_sorted y hy) fun b => by
      rw [hxs.mem_held_iff hx, hys.mem_held_iff hy, hperm.mem_iff, hkey]
  rwa [hext x hx y hy hkey hheld]

theorem eq_of_perm (hext : ∀ x ∈ xs, ∀ y ∈ ys, key x = key y → held x = held y → x = y) : xs = ys := by
  refine hxs.sorted.eq_of_mem_iff hys.sorted fun x =>
    ⟨hxs.mem_of_mem hys hperm hext, hys.mem_of_mem hxs hperm.symm fun y hy x hx hkey hheld => ?_⟩
  exact (hext x hx y hy hkey.symm hheld.symm).symm

end Grouped

/-! ## Members changed throughout -/

section Map

variable {f : α → α} (hf : ∀ x, key (f x) = key x)

include hf

theorem find?_map (k : κ) (xs : List α) : find? key k (xs.map f) = (find? key k xs).map f := by
  rw [find?, find?, List.find?_map]
  simp only [Function.comp_def, hf]

theorem getD_find?_map {β : Type} {held : α → List β} {g : β → β}
    (hheld : ∀ x, held (f x) = (held x).map g) (k : κ) (xs : List α) :
    ((find? key k (xs.map f)).map held).getD [] = (((find? key k xs).map held).getD []).map g := by
  rw [find?_map hf]
  cases find? key k xs with
  | none => rfl
  | some x => exact hheld x

theorem contains_map (k : κ) (xs : List α) : contains key k (xs.map f) = contains key k xs := by
  simp [contains, List.any_map, Function.comp_def, hf]

theorem Sorted.map {xs : List α} (h : Sorted key xs) : Sorted key (xs.map f) := by
  refine List.pairwise_map.2 (h.imp fun {x y} hlt => ?_)
  rwa [hf, hf]

theorem insert_map (x : α) (xs : List α) :
    insert key (f x) (xs.map f) = (insert key x xs).map f := by
  induction xs with
  | nil => rfl
  | cons y ys ih =>
    rw [List.map_cons, insert, insert, hf, hf]
    split_ifs
    · rfl
    · rfl
    · rw [ih, List.map_cons]

theorem put_map (x : α) (xs : List α) : put key (f x) (xs.map f) = (put key x xs).map f := by
  induction xs with
  | nil => rfl
  | cons y ys ih =>
    rw [List.map_cons, put, put, hf, hf]
    split_ifs
    · rfl
    · rfl
    · rw [ih, List.map_cons]

theorem ofList_map (xs : List α) : ofList key (xs.map f) = (ofList key xs).map f := by
  induction xs using List.reverseRecOn with
  | nil => rfl
  | append_singleton xs x ih =>
    rw [List.map_append, List.map_singleton, ofList_append, ofList_append, ih, put_map hf]

theorem alter_map {k : κ} {g g' : Option α → α} (hg : ∀ o : Option α, g' (o.map f) = f (g o))
    (xs : List α) : alter key k g' (xs.map f) = (alter key k g xs).map f := by
  induction xs with
  | nil => exact congrArg (fun x => [x]) (hg none)
  | cons y ys ih =>
    rw [List.map_cons, alter, alter, hf]
    split_ifs
    · exact congrArg (fun x => x :: f y :: ys.map f) (hg none)
    · exact congrArg (fun x => x :: ys.map f) (hg (some y))
    · rw [ih, List.map_cons]

end Map

end ReplicaPlacement.Ordered
