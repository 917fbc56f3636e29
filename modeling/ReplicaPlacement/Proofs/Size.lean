import Mathlib.Algebra.Group.Nat.Defs
import Mathlib.Data.List.Infix
import ReplicaPlacement.Cluster.Error
import ReplicaPlacement.Proofs.Text.Blank
import ReplicaPlacement.Proofs.Text.Numeral

/-!
# Which texts are sizes

Blanks around a text do not count, nor do blanks between its number and its suffix. The number is read
in full before it is compared with the bound, so no size wraps around.
-/

namespace ReplicaPlacement.Size

open Text

def units : List (String × Nat) := [("", 1), ("Ki", 1), ("Mi", 2 ^ 10), ("Gi", 2 ^ 20), ("Ti", 2 ^ 30)]

/-- A number and a suffix. Before the number may be a `+`, and around both of these blanks. -/
structure Written (t : List Char) (unit : String × Nat) (digits : List Char) : Prop where
  unit_mem : unit ∈ units
  exists_number : ∃ number, t = number ++ unit.1.toList ∧
    (Trims number digits ∨ Trims number ('+' :: digits))
  digits_ne_nil : digits ≠ []
  isDigit : ∀ c ∈ digits, c.isDigit = true

/-- The text is of the grammar, and this is its product, whether it fits or not. -/
def Denotes (t : List Char) (kib : Nat) : Prop :=
  ∃ unit digits, Written t unit digits ∧ kib = Nat.ofDigitChars 10 digits 0 * unit.2

/-! ## Suffixes -/

variable {t : List Char}

theorem units_eq : units =
    (noSuffix :: suffixes).map fun u => (String.ofList u.letters, u.factor) := by decide

theorem suffixOf_mem (t : List Char) : suffixOf t = noSuffix ∨ suffixOf t ∈ suffixes := by
  unfold suffixOf
  cases hfind : suffixes.find? fun s => s.letters.isSuffixOf t with
  | none => exact .inl rfl
  | some u => exact .inr (List.mem_of_find?_eq_some hfind)

theorem suffixOf_isSuffix (t : List Char) : (suffixOf t).letters <:+ t := by
  unfold suffixOf
  cases hfind : suffixes.find? fun s => s.letters.isSuffixOf t with
  | none => exact List.nil_suffix
  | some u => simpa using List.find?_some hfind

theorem eq_numberPart_append (t : List Char) : t = numberPart t ++ (suffixOf t).letters := by
  obtain ⟨number, hnumber⟩ := suffixOf_isSuffix t
  have hlength : t.length - (suffixOf t).letters.length = number.length := by
    have hsum := congrArg List.length hnumber
    rw [List.length_append] at hsum
    omega
  have hpart : number = numberPart t := by
    rw [numberPart, hlength]
    exact List.prefix_iff_eq_take.1 ⟨_, hnumber⟩
  rw [← hpart, hnumber]

theorem suffixOf_append {u : Suffix} (hu : u ∈ suffixes) (number : List Char) :
    suffixOf (number ++ u.letters) = u := by
  have hlength : ∀ v ∈ suffixes, v.letters.length = u.letters.length := by
    revert u
    decide
  have hletters : ∀ v ∈ suffixes, v.letters = u.letters → v = u := by
    revert u
    decide
  have hfits : u.letters <:+ number ++ u.letters := List.suffix_append number u.letters
  unfold suffixOf
  cases hfind : suffixes.find? fun s => s.letters.isSuffixOf (number ++ u.letters) with
  | none => exact absurd (List.isSuffixOf_iff_suffix.2 hfits) (List.find?_eq_none.1 hfind u hu)
  | some v =>
    have hv := List.mem_of_find?_eq_some hfind
    have hfits' : v.letters <:+ number ++ u.letters := by simpa using List.find?_some hfind
    have hboth := List.suffix_of_suffix_length_le hfits' hfits (hlength v hv).le
    exact hletters v hv (hboth.eq_of_length (hlength v hv))

theorem suffixOf_of_isDigit (h : ∃ c ∈ t.getLast?, c.isDigit = true) : suffixOf t = noSuffix := by
  have hlast : ∀ u ∈ suffixes, u.letters.getLast? = some 'i' := by decide
  refine (suffixOf_mem t).resolve_right fun hmem => ?_
  obtain ⟨c, hc, hdigit⟩ := h
  rw [eq_numberPart_append t, List.getLast?_append, hlast _ hmem] at hc
  cases hc
  cases hdigit

/-! ## Numbers -/

theorem denotes_iff (ht : trim t = t) {kib : Nat} : Denotes t kib ↔
    ∃ n, readNat? (trim (numberPart t)) = some n ∧ kib = n * (suffixOf t).factor := by
  constructor
  · rintro ⟨unit, digits, h, rfl⟩
    have hunit := h.unit_mem
    rw [units_eq] at hunit
    obtain ⟨u, hu, rfl⟩ := List.mem_map.1 hunit
    obtain ⟨number, hsplit, hnumber⟩ := h.exists_number
    rw [String.toList_ofList] at hsplit
    rw [trims_iff, trims_iff, eq_comm, eq_comm (b := trim number)] at hnumber
    have hsuffix : suffixOf t = u := by
      rcases List.mem_cons.1 hu with rfl | hu
      · -- Without a suffix the text is the number, which ends with a digit.
        rw [noSuffix, List.append_nil] at hsplit
        rw [← hsplit, ht] at hnumber
        refine suffixOf_of_isDigit ⟨digits.getLast h.digits_ne_nil, ?_, h.isDigit _ (List.getLast_mem _)⟩
        rcases hnumber with rfl | rfl
        · exact List.getLast?_eq_some_getLast _
        · rw [List.getLast?_cons, List.getLast?_eq_some_getLast h.digits_ne_nil]
          rfl
      · rw [hsplit]
        exact suffixOf_append hu number
    have hpart : numberPart t = number := by
      have heq := eq_numberPart_append t
      rw [hsuffix] at heq
      exact List.append_cancel_right (heq.symm.trans hsplit)
    rw [hpart, hsuffix]
    exact ⟨_, readNat?_eq_some_iff.2 ⟨digits, hnumber, h.digits_ne_nil, h.isDigit, rfl⟩, rfl⟩
  · rintro ⟨n, hn, rfl⟩
    obtain ⟨digits, hnumber, hne, hdigits, rfl⟩ := readNat?_eq_some_iff.1 hn
    refine ⟨(String.ofList (suffixOf t).letters, (suffixOf t).factor), digits, ⟨?_, ?_, hne, hdigits⟩, rfl⟩
    · rw [units_eq]
      exact List.mem_map_of_mem (List.mem_cons.2 (suffixOf_mem t))
    · refine ⟨numberPart t, by simpa using eq_numberPart_append t, ?_⟩
      rw [trims_iff, trims_iff, eq_comm, eq_comm (b := trim _)]
      exact hnumber

/-! ## Reading -/

theorem readTrimmed?_eq_some_iff (ht : trim t = t) {kib : UInt64} :
    readTrimmed? t = some kib ↔ Denotes t kib.toNat := by
  rw [denotes_iff ht, readTrimmed?, Option.bind_eq_some_iff]
  refine exists_congr fun n => and_congr_right fun _ => ?_
  dsimp only
  constructor
  · intro h
    split at h
    next hlt =>
      cases h
      exact UInt64.toNat_ofNat_of_lt hlt
    next => cases h
  · intro h
    rw [← h, if_pos kib.toNat_lt, UInt64.ofNat_toNat]

theorem readTrimmed?_eq_none_iff (ht : trim t = t) :
    readTrimmed? t = none ↔ ∀ kib, Denotes t kib → 2 ^ 64 ≤ kib := by
  constructor
  · intro h kib hkib
    by_contra hlt
    have hnat : (UInt64.ofNat kib).toNat = kib := UInt64.toNat_ofNat_of_lt (Nat.not_le.1 hlt)
    rw [← hnat, ← readTrimmed?_eq_some_iff ht, h] at hkib
    cases hkib
  · intro h
    cases hread : readTrimmed? t with
    | none => rfl
    | some kib =>
      have hle := h _ ((readTrimmed?_eq_some_iff ht).1 hread)
      exact absurd kib.toNat_lt (Nat.not_lt.2 hle)

/-- The sizes are the texts of the grammar whose product fits, and their value is that product. All
other texts are refused, trimmed. -/
theorem parse_exact (s : String) :
    Trims s.toList (trimmed s).toList ∧
    (∀ kib, parse s = .ok kib ↔ Denotes (trimmed s).toList kib.toNat) ∧
    ∀ error, parse s = .error error ↔
      error = .invalidSize (trimmed s) ∧ ∀ kib, Denotes (trimmed s).toList kib → 2 ^ 64 ≤ kib := by
  have htrimmed : (trimmed s).toList = trim s.toList := String.toList_ofList
  have hself : trim (trim s.toList) = trim s.toList := trim_trim _
  rw [htrimmed]
  refine ⟨trims_trim _, fun kib => ?_, fun error => ?_⟩
  · rw [← readTrimmed?_eq_some_iff hself, parse, read?]
    cases readTrimmed? (trim s.toList) <;> simp
  · rw [← readTrimmed?_eq_none_iff hself, parse, read?]
    cases readTrimmed? (trim s.toList) <;> simp [eq_comm]

example : parse "\u2003+05 Gi\n" = .ok 5242880 := by decide

end ReplicaPlacement.Size
