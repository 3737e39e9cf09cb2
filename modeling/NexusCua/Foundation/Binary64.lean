import Mathlib

/-!
# The order of binary64 values

Comparison of floating-point values follows a rank: the sign and class of the
value first, then its exponent and mantissa.  A value that is not a number has
no rank and is below nothing.  Transitivity of `≤` is read off the rank.
-/

namespace NexusCua.Foundation

open Float.Model Float.Model.UnpackedFloat

/-- Where a value stands: its class, and inside the class its exponent and mantissa. -/
def floatRank : UnpackedFloat → Option (ℤ ×ₗ ℤ ×ₗ ℤ)
  | .notANumber => none
  | .infinity .negative => some (toLex (-2, toLex (0, 0)))
  | .finite .negative mantissa exponent _ => some (toLex (-1, toLex (-exponent, -mantissa)))
  | .zero _ => some (toLex (0, toLex (0, 0)))
  | .finite .positive mantissa exponent _ => some (toLex (1, toLex (exponent, mantissa)))
  | .infinity .positive => some (toLex (2, toLex (0, 0)))

theorem compare_then_isLE (e e' : ℤ) (m m' : ℕ) :
    ((compare e e').then (compare m m')).isLE = true ↔ e < e' ∨ e = e' ∧ m ≤ m' := by
  rcases lt_trichotomy e e' with hlt | rfl | hgt
  · simp [compare_lt_iff_lt.mpr hlt, hlt]
  · simp [Nat.isLE_compare]
  · simp [compare_gt_iff_gt.mpr hgt]
    omega

theorem compare_then_isGE (e e' : ℤ) (m m' : ℕ) :
    ((compare e e').then (compare m m')).isGE = true ↔ e' < e ∨ e = e' ∧ m' ≤ m := by
  rcases lt_trichotomy e e' with hlt | rfl | hgt
  · simp [compare_lt_iff_lt.mpr hlt]
    omega
  · simp [Nat.isGE_compare]
  · simp [compare_gt_iff_gt.mpr hgt, hgt]

theorem unpacked_le_iff (a b : UnpackedFloat) :
    a.le b = true ↔ ∃ x y, floatRank a = some x ∧ floatRank b = some y ∧ x ≤ y := by
  rcases a with ⟨_ | _⟩ | _ | _ | ⟨_ | _, m, e, hm⟩ <;>
    rcases b with ⟨_ | _⟩ | _ | _ | ⟨_ | _, m', e', hm'⟩ <;>
    simp [UnpackedFloat.le, UnpackedFloat.compare, floatRank, Prod.Lex.le_iff, compare_then_isLE,
      compare_then_isGE]
  all_goals rfl

theorem float_le_iff (a b : Float) :
    a ≤ b ↔ ∃ x y, floatRank a.toModel.unpack = some x ∧ floatRank b.toModel.unpack = some y ∧
      x ≤ y := by
  rw [← unpacked_le_iff]
  change decide (a.toModel ≤ b.toModel) = true ↔ _
  rw [decide_eq_true_iff]
  exact Iff.rfl

theorem float_le_trans {a b c : Float} (hab : a ≤ b) (hbc : b ≤ c) : a ≤ c := by
  rw [float_le_iff] at hab hbc ⊢
  obtain ⟨x, y, hx, hy, hxy⟩ := hab
  obtain ⟨y', z, hy', hz, hyz⟩ := hbc
  have hsame : y = y' := Option.some.inj (hy.symm.trans hy')
  subst hsame
  exact ⟨x, z, hx, hz, hxy.trans hyz⟩

end NexusCua.Foundation
