import Floorplan.Coord.Double

set_option autoImplicit false

namespace Floorplan.Double

open Float.Model (UnpackedFloat Format)

theorem compare_swap (u v : UnpackedFloat) : v.compare u = (u.compare v).map Ordering.swap := by
  have signs : ∀ s t : UnpackedFloat.Sign, compare t s = (compare s t).swap := by
    rintro (_ | _) (_ | _) <;> rfl
  have parts : ∀ (m n : Nat) (d e : Int),
      (compare e d).then (compare n m) = ((compare d e).then (compare m n)).swap := by
    intro m n d e
    rw [Ordering.swap_then, Int.compare_swap, Nat.compare_swap]
  cases u with
  | notANumber => cases v <;> rfl
  | infinity s =>
      cases v with
      | infinity t => exact congrArg some (signs s t)
      | notANumber => cases s <;> rfl
      | zero t => cases s <;> rfl
      | finite t m e pos => cases s <;> rfl
  | zero s =>
      cases v with
      | infinity t => cases t <;> rfl
      | notANumber => rfl
      | zero t => rfl
      | finite t m e pos => cases t <;> rfl
  | finite s m d pos =>
      cases v with
      | infinity t => cases t <;> rfl
      | notANumber => cases s <;> rfl
      | zero t => cases s <;> rfl
      | finite t n e pos' =>
          cases s <;> cases t
          · exact congrArg (fun order => some order.swap) (parts m n d e)
          · rfl
          · rfl
          · exact congrArg some (parts m n d e)

theorem compare_some (u v : UnpackedFloat) (first : u.isNaN = false) (second : v.isNaN = false) :
    ∃ order, u.compare v = some order := by
  cases u with
  | notANumber => cases first
  | infinity s =>
      cases v with
      | notANumber => cases second
      | _ => cases s <;> exact ⟨_, rfl⟩
  | zero s =>
      cases v with
      | notANumber => cases second
      | zero t => exact ⟨_, rfl⟩
      | infinity t => cases t <;> exact ⟨_, rfl⟩
      | finite t => cases t <;> exact ⟨_, rfl⟩
  | finite s =>
      cases v with
      | notANumber => cases second
      | zero t => cases s <;> exact ⟨_, rfl⟩
      | infinity t => cases t <;> exact ⟨_, rfl⟩
      | finite t => cases s <;> cases t <;> exact ⟨_, rfl⟩

theorem le_iff (x y : Float) :
    x ≤ y ↔ (x.toModel.unpack.compare y.toModel.unpack).any (·.isLE) = true := by
  change decide ((x.toModel.unpack.compare y.toModel.unpack).any (·.isLE) = true) = true ↔ _
  exact decide_eq_true_iff

theorem le_iff_not_le (x y : Float) (first : x.isNaN = false) (second : y.isNaN = false)
    (different : (x == y) = false) : x ≤ y ↔ ¬ y ≤ x := by
  have apart : (x.toModel.unpack.compare y.toModel.unpack == some .eq) = false := different
  obtain ⟨order, compared⟩ := compare_some x.toModel.unpack y.toModel.unpack first second
  rw [le_iff, le_iff, compare_swap x.toModel.unpack, compared]
  rw [compared] at apart
  cases order with
  | lt => simp
  | eq => cases apart
  | gt => simp

theorem unpack_number (b : BitVec Format.binary64.numBits)
    (finite : UnpackedFloat.unpackExponent b ≠ (-1#_ : BitVec Format.binary64.exponentBits)) :
    (UnpackedFloat.unpack Format.binary64 b).isNaN = false := by
  change UnpackedFloat.isNaN (if _ then _ else if _ then (if h : _ then _ else _) else _) = false
  rw [if_neg finite]
  by_cases least : (UnpackedFloat.unpackExponent b : BitVec Format.binary64.exponentBits) = 0#_
  · rw [if_pos least]
    by_cases zero : (UnpackedFloat.unpackMantissa b : BitVec Format.binary64.mantissaBitsWithoutImplicit) = 0#_
    · rw [dif_pos zero]
      rfl
    · rw [dif_neg zero]
      rfl
  · rw [if_neg least]
    rfl

theorem components_number (sign : UnpackedFloat.Sign) (exponent : BitVec Format.binary64.exponentBits)
    (mantissa : BitVec Format.binary64.mantissaBitsWithoutImplicit) (finite : exponent ≠ -1#_) :
    (UnpackedFloat.unpack Format.binary64
      (UnpackedFloat.packComponents Format.binary64 sign exponent mantissa)).isNaN = false := by
  apply unpack_number
  rwa [UnpackedFloat.unpackExponent_packComponents]

theorem pack_number (u : UnpackedFloat) (number : u.isNaN = false) :
    (UnpackedFloat.unpack Format.binary64 (u.pack Format.binary64)).isNaN = false := by
  fun_cases UnpackedFloat.pack Format.binary64 u with
  | case1 => cases number
  | case2 s => cases s <;> rfl
  | case3 s => cases s <;> rfl
  | case4 s m e pos biased large => cases s <;> rfl
  | case5 s m e pos bits biased inRange normal =>
      apply components_number
      intro same
      have largest := congrArg BitVec.toNat same
      rw [BitVec.toNat_ofNat, Nat.mod_eq_of_lt (by omega)] at largest
      exact inRange (Nat.le_of_eq (congrArg (· + 1) largest.symm))
  | case6 s m e pos bits biased inRange subnormal =>
      apply components_number
      decide

theorem abs_number (x : Float) (number : x.isNaN = false) : x.abs.isNaN = false := by
  apply pack_number
  have number : x.toModel.unpack.isNaN = false := number
  generalize x.toModel.unpack = u at number ⊢
  cases u with
  | notANumber => cases number
  | _ => rfl

end Floorplan.Double
