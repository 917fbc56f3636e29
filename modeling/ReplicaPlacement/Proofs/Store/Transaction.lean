import Mathlib.Data.Set.Card
import ReplicaPlacement.Proofs.Registry.History

/-!
# Prefixes in a transaction

A content lists the values of a map on byte strings. A scan lists exactly the part of the map whose
keys start with some bytes, and deleting leaves exactly the other part. In a transaction both see the
map with all changes that the transaction has made.
-/

namespace ReplicaPlacement.Store

open Registry (Edit)

variable {c : Content} {values : Bytes → Option Bytes}

/-! ## Listings -/

def valueOf? (c : Content) (k : Bytes) : Option Bytes := (Ordered.find? Entry.key k c).map Entry.value

/-- The content has an entry for every value, in byte order of the keys, and no other entry. -/
structure Lists (values : Bytes → Option Bytes) (c : Content) : Prop where
  sorted : Ordered.Sorted Entry.key c
  mem_iff : ∀ e, e ∈ c ↔ values e.key = some e.value

def under (start : Bytes) (values : Bytes → Option Bytes) (k : Bytes) : Option Bytes :=
  if start <+: k then values k else none

def outside (start : Bytes) (values : Bytes → Option Bytes) (k : Bytes) : Option Bytes :=
  if start <+: k then none else values k

theorem lists_valueOf? (h : Ordered.Sorted Entry.key c) : Lists (valueOf? c) c where
  sorted := h
  mem_iff e := by
    rw [valueOf?, Option.map_eq_some_iff]
    constructor
    · exact fun he => ⟨e, (Ordered.find?_eq_some_iff h).2 ⟨he, rfl⟩, rfl⟩
    · rintro ⟨e', hfind, hvalue⟩
      obtain ⟨he', hkey⟩ := Ordered.find?_eq_some hfind
      have hsame : e' = e := congrArg₂ Entry.mk hkey hvalue
      exact hsame ▸ he'

theorem Lists.length_eq (h : Lists values c) : c.length = {k | values k ≠ none}.ncard := by
  have hkeys : {k | values k ≠ none} = ((c.map Entry.key).toFinset : Set Bytes) := by
    ext k
    simp only [Set.mem_ofPred_eq, List.coe_toFinset, List.mem_map, Option.ne_none_iff_exists']
    constructor
    · rintro ⟨v, hv⟩
      exact ⟨⟨k, v⟩, (h.mem_iff _).2 hv, rfl⟩
    · rintro ⟨e, he, rfl⟩
      exact ⟨e.value, (h.mem_iff e).1 he⟩
  have hdistinct : (c.map Entry.key).Nodup := List.pairwise_map.2 (h.sorted.imp fun hlt => hlt.ne)
  rw [hkeys, Set.ncard_coe_finset, List.toFinset_card_of_nodup hdistinct, List.length_map]

/-! ## Scanning and changing -/

theorem Lists.scan (h : Lists values c) (start : Bytes) :
    Lists (under start values) (scan start c) := by
  rw [scan_eq_filter h.sorted]
  refine ⟨h.sorted.filter _, fun e => ?_⟩
  rw [List.mem_filter, h.mem_iff, List.isPrefixOf_iff_prefix, under]
  by_cases hp : start <+: e.key <;> simp [hp]

theorem Lists.deletePrefix (h : Lists values c) (start : Bytes) :
    Lists (outside start values) (deletePrefix start c).1 := by
  rw [deletePrefix_eq_filter h.sorted]
  refine ⟨h.sorted.filter _, fun e => ?_⟩
  rw [List.mem_filter, h.mem_iff, Bool.not_eq_true', ← Bool.not_eq_true, List.isPrefixOf_iff_prefix,
    outside]
  by_cases hp : start <+: e.key <;> simp [hp]

theorem Lists.put (h : Lists values c) (e : Entry) :
    Lists (Function.update values e.key (some e.value)) (put e.key e.value c) where
  sorted := Ordered.sorted_put h.sorted
  mem_iff e' := by
    by_cases hkey : e'.key = e.key
    · rw [hkey, Function.update_self]
      constructor
      · intro he'
        have hsame : e' = e := (Ordered.sorted_put h.sorted).eq_of_key he' (Ordered.mem_put_self e c) hkey
        rw [hsame]
      · intro hvalue
        have hsame : e' = e := congrArg₂ Entry.mk hkey (Option.some.inj hvalue).symm
        rw [hsame]
        exact Ordered.mem_put_self e c
    · rw [Function.update_of_ne hkey, ← h.mem_iff]
      constructor
      · intro he'
        rcases Ordered.mem_put Entry.key he' with rfl | he'
        · exact absurd rfl hkey
        · exact he'
      · exact fun he' => Ordered.mem_put_of_ne he' hkey

/-! ## Transactions -/

def written (values : Bytes → Option Bytes) : Edit → Bytes → Option Bytes
  | .clear start => outside start values
  | .put e => Function.update values e.key (some e.value)

theorem Lists.edit (h : Lists values c) (e : Edit) : Lists (written values e) (e.apply c) := by
  cases e with
  | clear start => exact h.deletePrefix start
  | put e => exact h.put e

theorem Lists.edits (h : Lists values c) (edits : List Edit) :
    Lists (edits.foldl written values) (edits.foldl Edit.apply c) := by
  induction edits generalizing values c with
  | nil => exact h
  | cons e edits ih => exact ih (h.edit e)

def Session.edited (s : Session) (edits : List Edit) : Session :=
  edits.foldl (fun t e => t.update fun c => e.apply c) s.begin

theorem Session.foldl_update (edits : List Edit) {t : Session} (h : t.pending = some c) :
    edits.foldl (fun t e => t.update fun c => e.apply c) t =
      { t with pending := some (edits.foldl Edit.apply c) } := by
  induction edits generalizing t c with
  | nil => rw [List.foldl_nil, List.foldl_nil, ← h]
  | cons e edits ih => exact ih (congrArg (Option.map fun c => e.apply c) h)

theorem Session.edited_eq (s : Session) (edits : List Edit) :
    s.edited edits = { s with pending := some (edits.foldl Edit.apply s.committed) } :=
  foldl_update edits rfl

/-- A scan finds the committed entries whose keys start with some bytes, and in a transaction the
entries that its own changes have left. Deleting takes exactly these out of what the transaction sees,
counts them, and changes nothing else. -/
theorem Session.prefix_exact {s : Session} (hs : Ordered.Sorted Entry.key s.committed)
    (edits : List Edit) (start : Bytes) :
    Lists (under start (valueOf? s.committed)) (scan start s.committed) ∧
      ∃ c, (s.edited edits).pending = some c ∧
        let values := edits.foldl written (valueOf? s.committed)
        Lists (under start values) (scan start c) ∧
          (deletePrefix start c).2 = {k | under start values k ≠ none}.ncard ∧
          Lists (outside start values) (deletePrefix start c).1 ∧
          (s.edited edits).update (fun c => (deletePrefix start c).1) =
            { s with pending := some (deletePrefix start c).1 } := by
  have hcommitted := lists_valueOf? hs
  have hpending := hcommitted.edits edits
  rw [s.edited_eq edits]
  exact ⟨hcommitted.scan start, _, rfl, hpending.scan start, (hpending.scan start).length_eq,
    hpending.deletePrefix start, rfl⟩

/-! ## The topmost keys -/

def topmost : Session where
  committed := [⟨[0xFE], [1]⟩, ⟨[0xFF], [2]⟩, ⟨[0xFF, 0xFF], [3]⟩, ⟨[0xFF, 0xFF, 0xFF], [4]⟩]

def topmostEdits : List Edit := [.clear [0xFF, 0xFF, 0xFF], .put ⟨[0xFF, 0xFF, 0], [5]⟩]

/-- Without any bytes a scan finds all entries. Nothing comes behind the keys that start with the
highest bytes, and deleting takes out the entry put in before, but not the one that was gone. -/
theorem prefix_exact_topmost :
    Lists (under [] (valueOf? topmost.committed)) topmost.committed ∧
      ∃ c, (topmost.edited topmostEdits).pending = some c ∧
        let values := topmostEdits.foldl written (valueOf? topmost.committed)
        Lists (under [0xFF, 0xFF] values) [⟨[0xFF, 0xFF], [3]⟩, ⟨[0xFF, 0xFF, 0], [5]⟩] ∧
          {k | under [0xFF, 0xFF] values k ≠ none}.ncard = 2 ∧
          Lists (outside [0xFF, 0xFF] values) [⟨[0xFE], [1]⟩, ⟨[0xFF], [2]⟩] := by
  have hsorted : Ordered.Sorted Entry.key topmost.committed := by
    unfold Ordered.Sorted
    decide +kernel
  obtain ⟨hall, -⟩ := Session.prefix_exact hsorted [] []
  obtain ⟨-, c, hc, hscan, hcount, hrest, -⟩ :=
    Session.prefix_exact hsorted topmostEdits [0xFF, 0xFF]
  obtain rfl : c = [⟨[0xFE], [1]⟩, ⟨[0xFF], [2]⟩, ⟨[0xFF, 0xFF], [3]⟩, ⟨[0xFF, 0xFF, 0], [5]⟩] := by
    rw [← Option.some.injEq, ← hc]
    decide +kernel
  exact ⟨hall, _, hc, hscan, hcount.symm, hrest⟩

end ReplicaPlacement.Store
