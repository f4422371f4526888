import Mathlib.Order.Compare
import ScriptGraph.Decimal.Binary

/-! # Comparing doubles

Two doubles lie to each other in one of three ways, or in none when one of them is no number. Seen
from the other side the way is turned round.
-/

namespace ScriptGraph.Decimal

open Float.Model (Format UnpackedFloat)
open Float.Model.UnpackedFloat

theorem compare_sign_swap (s t : Sign) : compare t s = (compare s t).swap := by
  cases s <;> cases t <;> rfl

theorem compare_swap (u v : UnpackedFloat) : v.compare u = (u.compare v).map Ordering.swap := by
  cases u with
  | notANumber => cases v <;> rfl
  | infinity s =>
    cases v with
    | infinity t => exact congrArg some (compare_sign_swap s t)
    | notANumber | zero | finite => cases s <;> rfl
  | zero s =>
    cases v with
    | infinity t | finite t => cases t <;> rfl
    | notANumber | zero => rfl
  | finite s m e =>
    cases v with
    | infinity t => cases s <;> cases t <;> rfl
    | zero | notANumber => cases s <;> rfl
    | finite t n d =>
      -- Of one sign, the exponents decide before the digits do.
      have swapped : (compare d e).then (compare n m) =
          ((compare e d).then (compare m n)).swap := by
        rw [Ordering.swap_then, ← Std.OrientedCmp.eq_swap, ← Std.OrientedCmp.eq_swap]
      cases s with
      | negative =>
        cases t with
        | negative => exact congrArg (fun o => some o.swap) swapped
        | positive => rfl
      | positive =>
        cases t with
        | negative => rfl
        | positive => exact congrArg some swapped

theorem compare_self {u : UnpackedFloat} (h : u.isNaN = false) : u.compare u = some .eq := by
  cases u with
  | notANumber => cases h
  | infinity s => cases s <;> rfl
  | zero => rfl
  | finite s m e =>
    have same : (compare e e).then (compare m m) = .eq := by simp
    cases s with
    | negative => exact congrArg (fun o => some o.swap) same
    | positive => exact congrArg some same

/-- How two doubles lie to each other, unless one of them is no number. -/
def order? (x y : Float) : Option Ordering :=
  x.toModel.unpack.compare y.toModel.unpack

section

variable {x y : Float}

theorem order?_swap (x y : Float) : order? y x = (order? x y).map Ordering.swap :=
  compare_swap _ _

theorem order?_self (h : x.isNaN = false) : order? x x = some .eq :=
  compare_self h

theorem lt_iff : x < y ↔ order? x y = some .lt := by
  change decide (_ = true) = true ↔ _
  rw [decide_eq_true_iff]
  exact beq_iff_eq

theorem beq_iff : (x == y) = true ↔ order? x y = some .eq :=
  beq_iff_eq (a := order? x y)

theorem beq_self (h : x.isNaN = false) : (x == x) = true :=
  beq_iff.mpr (order?_self h)

theorem beq_comm (x y : Float) : (y == x) = (x == y) := by
  rw [Bool.eq_iff_iff, beq_iff, beq_iff, order?_swap x y]
  cases order? x y with
  | none => simp
  | some o => cases o <;> simp

end

/-! ### Doubles that are numbers -/

theorem isNaN_dite {c : Prop} [Decidable c] {u : c → UnpackedFloat} {v : ¬ c → UnpackedFloat}
    (hu : ∀ h, (u h).isNaN = false) (hv : ∀ h, (v h).isNaN = false) :
    (dite c u v).isNaN = false := by
  by_cases h : c
  · rw [dif_pos h]
    exact hu h
  · rw [dif_neg h]
    exact hv h

/-- A pattern is a number unless its exponent is the greatest one. -/
theorem isNaN_unpack {b : BitVec Format.binary64.numBits} (h : unpackExponent b ≠ -1#_) :
    (UnpackedFloat.unpack .binary64 b).isNaN = false := by
  unfold UnpackedFloat.unpack
  dsimp only
  rw [if_neg h]
  apply isNaN_dite
  · intro _
    exact isNaN_dite (fun _ => rfl) fun _ => rfl
  · intro _
    rfl

theorem isNaN_unpack_pack {u : UnpackedFloat} (h : u.isNaN = false) :
    (UnpackedFloat.unpack .binary64 (UnpackedFloat.pack .binary64 u)).isNaN = false := by
  have infinite (s : Sign) :
      (UnpackedFloat.unpack .binary64 (packedInfinity .binary64 s)).isNaN = false := by
    cases s <;> rfl
  cases u with
  | notANumber => cases h
  | infinity s => exact infinite s
  | zero s => cases s <;> rfl
  | finite s m e hm =>
    unfold UnpackedFloat.pack
    dsimp only
    split
    next => exact infinite s
    next small =>
      split
      next =>
        refine isNaN_unpack ?_
        rw [unpackExponent_packComponents]
        intro greatest
        have := congrArg BitVec.toNat greatest
        simp [BitVec.toNat_ofNat] at this small
        omega
      next =>
        refine isNaN_unpack ?_
        rw [unpackExponent_packComponents]
        decide

theorem isNaN_pack {u : UnpackedFloat} (h : u.isNaN = false) :
    (Float.ofModel (.pack u)).isNaN = false :=
  isNaN_unpack_pack h

theorem isNaN_round (s : Sign) (m : Nat) (e : Int) :
    (UnpackedFloat.round .binary64 s m e).isNaN = false := by
  unfold UnpackedFloat.round roundWithAccuracy
  exact isNaN_dite (fun _ => rfl) fun _ => rfl

theorem isNaN_toFloat (n : UInt64) : n.toFloat.isNaN = false := by
  refine isNaN_pack ?_
  change (UnpackedFloat.normalize .binary64 n.toNat 0 .positive).isNaN = false
  unfold UnpackedFloat.normalize
  split
  · exact isNaN_round _ _ _
  · rfl
  · exact isNaN_round _ _ _

section

variable {x : Float}

theorem isNaN_neg (h : x.isNaN = false) : (-x).isNaN = false := by
  refine isNaN_pack ?_
  change x.toModel.unpack.isNaN = false at h
  cases hu : x.toModel.unpack with
  | notANumber => rw [hu] at h; cases h
  | infinity | zero | finite => rfl

theorem isNaN_of_isFinite (h : x.isFinite = true) : x.isNaN = false := by
  change x.toModel.unpack.isFinite = true at h
  change x.toModel.unpack.isNaN = false
  cases hu : x.toModel.unpack with
  | notANumber => rw [hu] at h; cases h
  | infinity | zero | finite => rfl

end

end ScriptGraph.Decimal
