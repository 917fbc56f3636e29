import Mathlib.Tactic.Common
import ReplicaPlacement.Text.Numeral

/-!
# Numbers survive being written

The digits of a number read back as the number. Only zero is written with a zero in front.
-/

namespace ReplicaPlacement.Text

theorem digitInBase?_of_isDigit {c : Char} (h : c.isDigit = true) :
    digitInBase? 10 c = some (c.toNat - '0'.toNat) := by
  have hrange : '0' ≤ c ∧ c ≤ '9' := by simpa [Char.isDigit, Char.le_def] using h
  have hlt : c.toNat - '0'.toNat < 10 := by
    have hle : c.toNat ≤ '9'.toNat := UInt32.le_iff_toNat_le.1 hrange.2
    change c.toNat ≤ 57 at hle
    change c.toNat - 48 < 10
    omega
  rw [digitInBase?, digitValue?, if_pos hrange, Option.bind_some, if_pos hlt]

theorem foldlM_digits {cs : List Char} (h : ∀ c ∈ cs, c.isDigit = true) (n : Nat) :
    cs.foldlM (fun n c => (digitInBase? 10 c).map (10 * n + ·)) n = some (Nat.ofDigitChars 10 cs n) := by
  induction cs generalizing n with
  | nil => rw [Nat.ofDigitChars_nil]; rfl
  | cons c cs ih =>
    obtain ⟨hc, hcs⟩ := List.forall_mem_cons.1 h
    rw [List.foldlM_cons, digitInBase?_of_isDigit hc, Nat.ofDigitChars_cons]
    exact ih hcs _

theorem isDigit_of_digitInBase? {c : Char} {d : Nat} (h : digitInBase? 10 c = some d) :
    c.isDigit = true := by
  obtain ⟨v, hv, h⟩ := Option.bind_eq_some_iff.1 h
  have hlt : v < 10 := by
    by_contra hge
    rw [if_neg hge] at h
    cases h
  unfold digitValue? at hv
  split_ifs at hv with hdigit hlower hupper
  · simpa [Char.isDigit, Char.le_def] using hdigit
  all_goals
    cases hv
    omega

theorem isDigit_of_foldlM {cs : List Char} {m n : Nat}
    (h : cs.foldlM (fun n c => (digitInBase? 10 c).map (10 * n + ·)) m = some n) :
    ∀ c ∈ cs, c.isDigit = true := by
  induction cs generalizing m with
  | nil => nofun
  | cons c cs ih =>
    rw [List.foldlM_cons] at h
    obtain ⟨k, hk, h⟩ := Option.bind_eq_some_iff.1 h
    obtain ⟨d, hd, -⟩ := Option.map_eq_some_iff.1 hk
    exact List.forall_mem_cons.2 ⟨isDigit_of_digitInBase? hd, ih h⟩

theorem readDigits?_eq_some_iff {cs : List Char} {n : Nat} : readDigits? 10 cs = some n ↔
    cs ≠ [] ∧ (∀ c ∈ cs, c.isDigit = true) ∧ n = Nat.ofDigitChars 10 cs 0 := by
  cases cs with
  | nil => simp [readDigits?]
  | cons c cs =>
    have hread : readDigits? 10 (c :: cs) =
        (c :: cs).foldlM (fun n c => (digitInBase? 10 c).map (10 * n + ·)) 0 := rfl
    rw [hread]
    constructor
    · intro h
      have hdigits := isDigit_of_foldlM h
      rw [foldlM_digits hdigits] at h
      exact ⟨List.cons_ne_nil c cs, hdigits, (Option.some.inj h).symm⟩
    · rintro ⟨-, hdigits, rfl⟩
      exact foldlM_digits hdigits 0

theorem readNat?_eq_some_iff {cs : List Char} {n : Nat} : readNat? cs = some n ↔
    ∃ digits, (cs = digits ∨ cs = '+' :: digits) ∧ digits ≠ [] ∧
      (∀ c ∈ digits, c.isDigit = true) ∧ n = Nat.ofDigitChars 10 digits 0 := by
  constructor
  · intro h
    unfold readNat? at h
    split at h
    · exact ⟨_, .inr rfl, readDigits?_eq_some_iff.1 h⟩
    · exact ⟨_, .inl rfl, readDigits?_eq_some_iff.1 h⟩
  · rintro ⟨digits, hcs, hread⟩
    have hdigits := readDigits?_eq_some_iff.2 hread
    rcases hcs with rfl | rfl
    · rw [readNat?]
      · exact hdigits
      · rintro rest rfl
        cases hread.2.1 '+' List.mem_cons_self
    · exact hdigits

theorem isDigit_of_mem_toDigits {n : Nat} : ∀ c ∈ Nat.toDigits 10 n, c.isDigit = true :=
  fun _ hc => Nat.isDigit_of_mem_toDigits (by decide) (by decide) hc

theorem readDigits?_toDigits (n : Nat) : readDigits? 10 (Nat.toDigits 10 n) = some n := by
  have hfold := foldlM_digits (isDigit_of_mem_toDigits (n := n)) 0
  rw [Nat.ofDigitChars_ten_toDigits] at hfold
  cases hcs : Nat.toDigits 10 n with
  | nil => exact absurd hcs Nat.toDigits_ne_nil
  | cons c cs =>
    rw [hcs] at hfold
    exact hfold

theorem head?_toDigits {n : Nat} (h : (Nat.toDigits 10 n).head? = some '0') : n = 0 := by
  induction n using Nat.strongRecOn with
  | _ n ih =>
    by_cases hn : n < 10
    · rw [Nat.toDigits_of_lt_base hn] at h
      simpa using h
    · have hle : 10 ≤ n := Nat.le_of_not_lt hn
      rw [Nat.toDigits_of_base_le (by decide) hle, List.head?_append,
        List.head?_eq_some_head Nat.toDigits_ne_nil, Option.some_or, ← List.head?_eq_some_head] at h
      have := ih (n / 10) (by omega) h
      omega

end ReplicaPlacement.Text
