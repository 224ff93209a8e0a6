/-
Module: Handoff.Proofs.Float.Order
Purpose: The order of doubles, and their absolute values, in Lean's logical model of floats.
  Two doubles that are not NaN compare as their places on the number line do: a lexicographic
  key (the sign class, then the exponent and the significand, read downwards for negative
  numbers) orders them exactly as `<` and `≤` do, the two zeros sharing one place. So on
  numbers `≤` is a total preorder and `<` its strict part. Taking an absolute value twice is
  taking it once, and a double whose sign is clear is its own absolute value; squaring, adding
  such doubles and taking square roots keep the sign clear.
Main exports: UnpackedFloat.orderKey, UnpackedFloat.lt_iff_orderKey,
  UnpackedFloat.le_iff_orderKey, Float.lt_iff_orderKey, Float.le_iff_orderKey,
  Float.lt_of_not_le_of_number, Float.abs_abs, Float.abs_eq_self, Float.unpack_abs_sqrt_of_abs.
-/
import Mathlib
import Handoff.Proofs.Float.Negation

namespace Float.Model.UnpackedFloat

/-! ### The number line -/

/-- The place of a float on the number line, NaN aside: negative infinity, the negative numbers
by falling exponent then significand, the zeros, the positive numbers by rising exponent then
significand, positive infinity. -/
def orderKey : UnpackedFloat → Int ×ₗ Int ×ₗ Int
  | .infinity .negative => toLex (-2, toLex (0, 0))
  | .finite .negative m e _ => toLex (-1, toLex (-e, -(m : Int)))
  | .zero _ => toLex (0, toLex (0, 0))
  | .finite .positive m e _ => toLex (1, toLex (e, (m : Int)))
  | .infinity .positive => toLex (2, toLex (0, 0))
  | .notANumber => toLex (0, toLex (0, 0))

/-- Away from NaN, one float is below another exactly when its place is. -/
theorem lt_iff_orderKey {x y : UnpackedFloat} (hx : x ≠ notANumber) (hy : y ≠ notANumber) :
    x.lt y = true ↔ x.orderKey < y.orderKey := by
  rcases x with s₁ | _ | s₁ | ⟨s₁, m₁, e₁, h₁⟩ <;> rcases y with s₂ | _ | s₂ | ⟨s₂, m₂, e₂, h₂⟩
  all_goals first | exact absurd rfl hx | exact absurd rfl hy | skip
  -- the comparison reads the sign classes, then the exponents and significands lexicographically
  all_goals
    cases s₁ <;> cases s₂ <;>
      simp [UnpackedFloat.lt, UnpackedFloat.compare, orderKey, Prod.Lex.toLex_lt_toLex,
        Ordering.then_eq_lt, Ordering.then_eq_gt, compare_lt_iff_lt, compare_gt_iff_gt]
  all_goals rfl

/-- Away from NaN, one float is at most another exactly when its place is. -/
theorem le_iff_orderKey {x y : UnpackedFloat} (hx : x ≠ notANumber) (hy : y ≠ notANumber) :
    x.le y = true ↔ x.orderKey ≤ y.orderKey := by
  rcases x with s₁ | _ | s₁ | ⟨s₁, m₁, e₁, h₁⟩ <;> rcases y with s₂ | _ | s₂ | ⟨s₂, m₂, e₂, h₂⟩
  all_goals first | exact absurd rfl hx | exact absurd rfl hy | skip
  all_goals
    cases s₁ <;> cases s₂ <;>
      simp [UnpackedFloat.le, UnpackedFloat.compare, orderKey, Prod.Lex.toLex_le_toLex,
        compare_lt_iff_lt, compare_gt_iff_gt, Ordering.isLE_iff_ne_gt, Ordering.isGE_iff_ne_lt,
        Ordering.then_eq_lt, Ordering.then_eq_gt]
  all_goals first | rfl | omega

/-! ### Absolute values -/

@[simp] theorem abs_abs (u : UnpackedFloat) : u.abs.abs = u.abs := by
  cases u <;> rfl

/-- Unpacking bits whose sign is cleared gives the absolute value of what the bits unpack to. -/
theorem unpack_packComponents_abs (spec : Format) (s : Sign) (e : BitVec spec.exponentBits)
    (m : BitVec spec.mantissaBitsWithoutImplicit) :
    unpack spec (packComponents spec .positive e m) =
      (unpack spec (packComponents spec s e m)).abs := by
  simp only [unpack, unpackExponent_packComponents, unpackMantissa_packComponents,
    unpackSign_packComponents, Sign.ofBitVec_toBitVec]
  split_ifs <;> rfl

/-- Every float but NaN is packed from its sign and two fields, and its absolute value from the
same fields under the positive sign. -/
theorem pack_abs (spec : Format) (u : UnpackedFloat) (number : u ≠ notANumber) :
    ∃ s e m, pack spec u = packComponents spec s e m ∧
      pack spec u.abs = packComponents spec .positive e m := by
  cases u with
  | notANumber => exact absurd rfl number
  | infinity s => exact ⟨s, _, _, rfl, rfl⟩
  | zero s => exact ⟨s, _, _, rfl, rfl⟩
  | finite s m e positive =>
      -- the fields do not depend on the sign, and neither does which case applies
      simp only [abs, pack]
      split_ifs
      · exact ⟨s, _, _, rfl, rfl⟩
      · exact ⟨s, _, _, rfl, rfl⟩
      · exact ⟨s, _, _, rfl, rfl⟩

theorem unpack_pack_abs (spec : Format) (u : UnpackedFloat) :
    unpack spec (pack spec u.abs) = (unpack spec (pack spec u)).abs := by
  by_cases nan : u = notANumber
  · subst nan
    simp [abs, pack, unpack_packedNaN]
  · obtain ⟨s, e, m, packed, packedAbs⟩ := pack_abs spec u nan
    rw [packed, packedAbs, unpack_packComponents_abs]

/-! ### Clear signs -/

/-- Rounding a positive value gives a float of positive sign. -/
theorem abs_roundWithAccuracy (spec : Format) (m : Nat) (e : Int) (accuracy : Accuracy) :
    (roundWithAccuracy spec .positive m e accuracy).abs =
      roundWithAccuracy spec .positive m e accuracy := by
  unfold roundWithAccuracy
  split
  dsimp only
  split <;> rfl

/-- Normalizing a significand that is not negative gives a float of positive sign. -/
theorem abs_normalize_of_nonneg (spec : Format) {m : Int} (e : Int) (h : 0 ≤ m) :
    (normalize spec m e .positive).abs = normalize spec m e .positive := by
  unfold normalize
  cases order : compare m 0 with
  | lt => exact absurd (compare_lt_iff_lt.mp order) (not_lt.mpr h)
  | eq => rfl
  | gt => exact abs_roundWithAccuracy _ _ _ _

/-- A float times itself has a clear sign. -/
theorem abs_mul_self (spec : Format) (x : UnpackedFloat) :
    (mul spec x x).abs = mul spec x x := by
  cases x with
  | notANumber => rfl
  | infinity s => cases s <;> rfl
  | zero s => cases s <;> rfl
  | finite s m e positive =>
      have square : s * s = .positive := by cases s <;> rfl
      simp only [mul, square, abs_roundWithAccuracy]

/-- The sum of floats with clear signs has a clear sign: an exact cancellation cannot happen, and
rounding a positive sum keeps it positive. -/
theorem abs_add_of_abs (spec : Format) {x y : UnpackedFloat} (hx : x.abs = x) (hy : y.abs = y) :
    (add spec x y).abs = add spec x y := by
  rw [← hx, ← hy]
  cases x <;> cases y
  case finite.finite s₁ m₁ e₁ h₁ s₂ m₂ e₂ h₂ =>
    -- two positive numbers: the aligned significands add up to an integer that is not negative
    simp only [abs, add, Sign.apply]
    exact abs_normalize_of_nonneg spec _ (by omega)
  all_goals rfl

/-- The square root of a float with a clear sign has a clear sign. -/
theorem abs_sqrt_of_abs (spec : Format) {x : UnpackedFloat} (hx : x.abs = x) :
    (sqrt spec x).abs = sqrt spec x := by
  rw [← hx]
  cases x
  case finite s m e h => exact abs_roundWithAccuracy _ _ _ _
  all_goals rfl

end Float.Model.UnpackedFloat

namespace Float.Model

theorem unpack_abs (m : Float.Model) : m.abs.unpack = m.unpack.abs := by
  show (pack m.unpack.abs).unpack = _
  have roundTrip : (pack m.unpack).unpack = m.unpack := by rw [pack_unpack_self]
  rw [unpack_pack, UnpackedFloat.unpack_pack_abs, ← unpack_pack, roundTrip]

/-- Packing a float with a clear sign keeps the sign clear. -/
theorem unpack_abs_pack_of_abs {u : UnpackedFloat} (h : u.abs = u) :
    (pack u).unpack.abs = (pack u).unpack := by
  rw [unpack_pack, ← UnpackedFloat.unpack_pack_abs, h]

end Float.Model

namespace Float

open Float.Model

/-! ### Doubles on the number line -/

/-- A double's place on the number line, NaN aside. -/
def orderKey (x : Float) : Int ×ₗ Int ×ₗ Int := x.toModel.unpack.orderKey

theorem unpack_ne_of_isNaN {x : Float} (hx : x.isNaN = false) :
    x.toModel.unpack ≠ .notANumber := fun nan => by
  simp [Float.isNaN, Float.Model.isNaN, nan, UnpackedFloat.isNaN] at hx

theorem isNaN_eq_false_of_isFinite {x : Float} (hx : x.isFinite = true) : x.isNaN = false := by
  simp only [Float.isFinite, Float.Model.isFinite] at hx
  simp only [Float.isNaN, Float.Model.isNaN]
  cases u : x.toModel.unpack <;> simp_all [UnpackedFloat.isFinite, UnpackedFloat.isNaN]

theorem lt_iff_unpack {x y : Float} : x < y ↔ x.toModel.unpack.lt y.toModel.unpack = true := by
  show decide (x.toModel.unpack.lt y.toModel.unpack = true) = true ↔ _
  rw [decide_eq_true_iff]

theorem le_iff_unpack {x y : Float} : x ≤ y ↔ x.toModel.unpack.le y.toModel.unpack = true := by
  show decide (x.toModel.unpack.le y.toModel.unpack = true) = true ↔ _
  rw [decide_eq_true_iff]

theorem lt_iff_orderKey {x y : Float} (hx : x.isNaN = false) (hy : y.isNaN = false) :
    x < y ↔ x.orderKey < y.orderKey :=
  lt_iff_unpack.trans (UnpackedFloat.lt_iff_orderKey (unpack_ne_of_isNaN hx) (unpack_ne_of_isNaN hy))

theorem le_iff_orderKey {x y : Float} (hx : x.isNaN = false) (hy : y.isNaN = false) :
    x ≤ y ↔ x.orderKey ≤ y.orderKey :=
  le_iff_unpack.trans (UnpackedFloat.le_iff_orderKey (unpack_ne_of_isNaN hx) (unpack_ne_of_isNaN hy))

section Numbers

variable {x y z : Float} (hx : x.isNaN = false) (hy : y.isNaN = false) (hz : z.isNaN = false)
include hx

theorem le_refl_of_number : x ≤ x := (le_iff_orderKey hx hx).2 le_rfl

include hy

/-- Of two numbers, one is below the other unless it is at least the other. -/
theorem lt_of_not_le_of_number (h : ¬x ≤ y) : y < x :=
  (lt_iff_orderKey hy hx).2 (lt_of_not_ge fun k => h ((le_iff_orderKey hx hy).2 k))

theorem not_lt_of_le_of_number (h : x ≤ y) : ¬y < x := fun lt =>
  not_lt_of_ge ((le_iff_orderKey hx hy).1 h) ((lt_iff_orderKey hy hx).1 lt)

theorem le_of_lt_of_number (h : x < y) : x ≤ y :=
  (le_iff_orderKey hx hy).2 ((lt_iff_orderKey hx hy).1 h).le

include hz

theorem lt_of_lt_of_le_of_number (h₁ : x < y) (h₂ : y ≤ z) : x < z :=
  (lt_iff_orderKey hx hz).2
    (lt_of_lt_of_le ((lt_iff_orderKey hx hy).1 h₁) ((le_iff_orderKey hy hz).1 h₂))

end Numbers

/-! ### Absolute values of doubles -/

@[simp] theorem abs_abs (x : Float) : x.abs.abs = x.abs := by
  cases x with
  | ofModel m =>
      show Float.ofModel (pack m.abs.unpack.abs) = Float.ofModel (pack m.unpack.abs)
      rw [unpack_abs, UnpackedFloat.abs_abs]

/-- A double whose sign is clear is its own absolute value. -/
theorem abs_eq_self {x : Float} (h : x.toModel.unpack.abs = x.toModel.unpack) : x.abs = x := by
  cases x with
  | ofModel m =>
      show Float.ofModel (pack m.unpack.abs) = Float.ofModel m
      rw [h, pack_unpack_self]

/-! ### Clear signs of doubles -/

theorem unpack_abs_mul_self (x : Float) :
    (x * x).toModel.unpack.abs = (x * x).toModel.unpack :=
  unpack_abs_pack_of_abs (UnpackedFloat.abs_mul_self _ _)

theorem unpack_abs_add_of_abs {x y : Float} (hx : x.toModel.unpack.abs = x.toModel.unpack)
    (hy : y.toModel.unpack.abs = y.toModel.unpack) :
    (x + y).toModel.unpack.abs = (x + y).toModel.unpack :=
  unpack_abs_pack_of_abs (UnpackedFloat.abs_add_of_abs _ hx hy)

theorem unpack_abs_sqrt_of_abs {x : Float} (hx : x.toModel.unpack.abs = x.toModel.unpack) :
    x.sqrt.toModel.unpack.abs = x.sqrt.toModel.unpack :=
  unpack_abs_pack_of_abs (UnpackedFloat.abs_sqrt_of_abs _ hx)

end Float
