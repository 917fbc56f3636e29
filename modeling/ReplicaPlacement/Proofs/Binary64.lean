import Mathlib
import ReplicaPlacement.Score

/-!
# Sums of binary64 scores

Adding a finite number to one that is not NaN never gives NaN, though the sum may overflow. So a sum
of finite scores is above minus infinity unless it is minus infinity.
-/

namespace ReplicaPlacement.Binary64

open Float.Model Float.Model.UnpackedFloat

def negInfinity : Float := -1.0 / 0.0

/-! ## Unpacked numbers -/

theorem isNaN_unpack {b : BitVec Format.binary64.numBits}
    (h : unpackExponent b = (-1#_) → unpackMantissa b = 0#_) :
    (UnpackedFloat.unpack Format.binary64 b).isNaN = false := by
  unfold UnpackedFloat.unpack
  simp only
  split
  · rename_i hexponent
    rw [if_pos (h hexponent)]
    rfl
  · split
    · split <;> rfl
    · rfl

/-- Packing keeps a number a number, though it may become infinite. -/
theorem isNaN_unpack_pack {x : UnpackedFloat} (h : x.isNaN = false) :
    (UnpackedFloat.unpack Format.binary64 (UnpackedFloat.pack Format.binary64 x)).isNaN = false := by
  apply isNaN_unpack
  cases x with
  | infinity sign =>
    intro _
    simp [UnpackedFloat.pack, packedInfinity]
  | notANumber => cases h
  | zero sign =>
    intro _
    simp [UnpackedFloat.pack, packedZero]
  | finite sign mantissa exponent hpos =>
    unfold UnpackedFloat.pack
    simp only
    split
    · intro _
      simp [packedInfinity]
    · -- The exponent fits, so its field is not filled with ones.
      rename_i hfits
      split
      · rw [unpackExponent_packComponents]
        intro hall
        have hnat := congrArg BitVec.toNat hall
        simp only [BitVec.toNat_ofNat, BitVec.neg_one_eq_allOnes, BitVec.toNat_allOnes] at hnat
        rw [Nat.mod_eq_of_lt (by omega)] at hnat
        omega
      · rw [unpackExponent_packComponents]
        intro hall
        exact absurd hall (by decide)

theorem isNaN_normalize (spec : Format) (mantissa exponent : Int) (sign : Sign) :
    (UnpackedFloat.normalize spec mantissa exponent sign).isNaN = false := by
  have hround (sign : Sign) (m : Nat) :
      (UnpackedFloat.round spec sign m exponent).isNaN = false := by
    unfold UnpackedFloat.round UnpackedFloat.roundWithAccuracy
    simp only
    split <;> rfl
  unfold UnpackedFloat.normalize
  split
  · exact hround _ _
  · rfl
  · exact hround _ _

theorem isNaN_add {x y : UnpackedFloat} (hx : x.isNaN = false) (hy : y.isFinite = true) :
    (UnpackedFloat.add Format.binary64 x y).isNaN = false := by
  cases x with
  | notANumber => cases hx
  | infinity sign => cases y <;> first | rfl | cases hy
  | zero sign =>
    cases y with
    | notANumber => cases hy
    | infinity sign' => cases hy
    | zero sign' =>
      simp only [UnpackedFloat.add]
      split <;> rfl
    | finite sign' m e hm => rfl
  | finite sign m e hm =>
    cases y with
    | notANumber => cases hy
    | infinity sign' => cases hy
    | zero sign' => rfl
    | finite sign' m' e' hm' => exact isNaN_normalize ..

/-! ## Sums -/

theorem isNaN_add_of_isFinite {x y : Float} (hx : x.isNaN = false) (hy : y.isFinite = true) :
    (x + y).isNaN = false :=
  isNaN_unpack_pack (isNaN_add hx hy)

theorem isNaN_sum {xs : List Float} (h : ∀ x ∈ xs, x.isFinite = true) :
    (Score.sum xs).isNaN = false := by
  have hfold : ∀ acc : Float, acc.isNaN = false → (xs.foldl Score.add acc).isNaN = false := by
    induction xs with
    | nil => exact fun acc hacc => hacc
    | cons x xs ih =>
      intro acc hacc
      obtain ⟨hx, hxs⟩ := List.forall_mem_cons.1 h
      exact ih hxs (acc + x) (isNaN_add_of_isFinite hacc hx)
  exact hfold _ rfl

theorem negInfinity_lt {x : Float} (hx : x.isNaN = false) (hinf : (x == negInfinity) = false) :
    negInfinity < x := by
  have hneg : negInfinity.toModel.unpack = .infinity .negative := rfl
  have hinf : (x.toModel.unpack.compare (.infinity .negative) == some .eq) = false := hinf
  have hx : x.toModel.unpack.isNaN = false := hx
  have hlt : (negInfinity.toModel.unpack.compare x.toModel.unpack == some .lt) = true := by
    rw [hneg]
    cases hu : x.toModel.unpack with
    | notANumber =>
      rw [hu] at hx
      cases hx
    | infinity sign =>
      cases sign with
      | positive => rfl
      | negative =>
        rw [hu] at hinf
        cases hinf
    | zero sign => rfl
    | finite sign m e hm => rfl
  exact decide_eq_true (show negInfinity.toModel < x.toModel from hlt)

end ReplicaPlacement.Binary64
