/-
Module: Handoff.Proofs.Float.Exact
Purpose: Double operations that round nothing away. A finite double sits at the exponent its
  format picks for its significand, so rounding a product or quotient by a power of two whose
  significand is the double's own, shifted up, gives the double back: multiplying or dividing a
  finite double by one leaves it unchanged, and dividing by minus one negates it. Zeros are
  what subtraction and multiplication by zero make: subtracting a zero leaves a finite double
  equal up to the sign of a zero, subtracting from a zero negates, and a finite double times
  zero is a zero. Clamping at zero then gives back a side that is not negative.
Main exports: UnpackedFloat.roundWithAccuracy_mul_pow, UnpackedFloat.targetExponent_of_unpack,
  Float.mul_one_of_isFinite, Float.div_one_of_isFinite, Float.div_neg_one_of_isFinite,
  Float.unpack_mul_zero, Float.sub_of_unpack_zero, Float.zero_sub_of_unpack_zero,
  Float.atLeastZero_beq.
-/
import Mathlib
import Handoff.Float.Arith
import Handoff.Proofs.Float.Order

namespace Float.Model.UnpackedFloat

/-! ### Rounding what needs no rounding -/

theorem log2_mul_two_pow {m : Nat} (hm : m ≠ 0) (k : Nat) : (m * 2 ^ k).log2 = m.log2 + k := by
  have nonzero : m * 2 ^ k ≠ 0 := Nat.mul_ne_zero hm (by positivity)
  have lower : m.log2 + k ≤ (m * 2 ^ k).log2 := by
    rw [Nat.le_log2 nonzero, Nat.pow_add]
    exact Nat.mul_le_mul_right _ (Nat.log2_self_le hm)
  have upper : (m * 2 ^ k).log2 < m.log2 + k + 1 := by
    rw [Nat.log2_lt nonzero, Nat.add_right_comm, Nat.pow_add]
    exact Nat.mul_lt_mul_of_pos_right Nat.lt_log2_self (by positivity)
  omega

/-- Shifting out `k` zero bits of an exact significand loses nothing. -/
theorem shiftRight_ofMantissa_mul_pow (m k : Nat) :
    ExtendedMantissa.ofMantissaAndAccuracy (m * 2 ^ k) .exact >>> k = ⟨m, false, false⟩ := by
  induction k generalizing m with
  | zero => simp [ExtendedMantissa.ofMantissaAndAccuracy]; rfl
  | succ k ih =>
    have doubled : m * 2 ^ (k + 1) = 2 * m * 2 ^ k := by ring
    show Nat.repeat ExtendedMantissa.shiftRightOne (k + 1) ⟨m * 2 ^ (k + 1), false, false⟩ = _
    rw [Nat.repeat, doubled]
    have shifted := ih (2 * m)
    simp only [HShiftRight.hShiftRight, ExtendedMantissa.ofMantissaAndAccuracy] at shifted
    rw [shifted]
    simp [ExtendedMantissa.shiftRightOne]

theorem shiftToTargetExponent_mul_pow (spec : Format) {m : Nat} (hm : 0 < m) {e : Int} (k : Nat)
    (target : spec.targetExponent (totalExponent m e) = e) :
    shiftToTargetExponent spec (m * 2 ^ k) (e - k) .exact = (⟨m, false, false⟩, e) := by
  have total : totalExponent (m * 2 ^ k) (e - k) = totalExponent m e := by
    simp only [totalExponent, log2_mul_two_pow hm.ne']
    push_cast
    ring
  simp only [shiftToTargetExponent, total, target, shiftToExponent]
  rw [show (e - (e - k)).toNat = k by omega, shiftRight_ofMantissa_mul_pow]
  simp

/-- A significand shifted up by `k` zero bits, at `k` below the exponent its format picks for
it, rounds back to itself. -/
theorem roundWithAccuracy_mul_pow (spec : Format) (s : Sign) {m : Nat} (hm : 0 < m) {e : Int}
    (k : Nat) (target : spec.targetExponent (totalExponent m e) = e) :
    roundWithAccuracy spec s (m * 2 ^ k) (e - k) .exact = finite s m e hm := by
  have again := shiftToTargetExponent_mul_pow spec hm 0 target
  simp only [pow_zero, mul_one, Nat.cast_zero, sub_zero] at again
  unfold roundWithAccuracy
  rw [shiftToTargetExponent_mul_pow spec hm k target]
  dsimp only
  rw [show (ExtendedMantissa.roundedMantissa ⟨m, false, false⟩) = m from rfl, again]
  dsimp only
  rw [dif_neg hm.ne']

/-- Every finite double a bit pattern unpacks to sits at the exponent its format picks for it:
a normal one has 53 significant bits, a subnormal one the least exponent. -/
theorem targetExponent_of_unpack {b : BitVec Format.binary64.numBits} {s : Sign} {m : Nat}
    {e : Int} {hm : 0 < m} (h : unpack .binary64 b = finite s m e hm) :
    Format.binary64.targetExponent (totalExponent m e) = e := by
  have bias : (Format.binary64.exponentBias : Int) = 1023 := rfl
  simp only [UnpackedFloat.unpack] at h
  split_ifs at h with top zeroM bottom zeroM'
  · simp only [finite.injEq] at h
    obtain ⟨-, rfl, rfl⟩ := h
    -- subnormal: the exponent field is zero and the significand has fewer than 53 bits
    have small : (unpackMantissa b).toNat.log2 < 52 :=
      (Nat.log2_lt hm.ne').mpr (unpackMantissa b).isLt
    simp only [bottom, BitVec.toNat_zero, bias, Format.targetExponent, Format.minExponent,
      Format.mantissaBits, totalExponent]
    omega
  · simp only [finite.injEq] at h
    obtain ⟨-, rfl, rfl⟩ := h
    -- normal: the implicit bit makes the significand exactly 53 bits long
    have field : (1#1 ++ unpackMantissa b).toNat = 2 ^ 52 + (unpackMantissa b).toNat := by
      rw [BitVec.toNat_append, ← Nat.shiftLeft_add_eq_or_of_lt (unpackMantissa b).isLt,
        Nat.shiftLeft_eq]
      simp
    have wide : (1#1 ++ unpackMantissa b).toNat.log2 = 52 := by
      have lower := (Nat.le_log2 hm.ne' (k := 52)).mpr (by omega)
      have upper := (Nat.log2_lt hm.ne' (k := 53)).mpr (by have := (unpackMantissa b).isLt; omega)
      omega
    have positive : (unpackExponent b).toNat ≠ 0 := fun zero =>
      bottom (BitVec.eq_of_toNat_eq (by simpa using zero))
    simp only [wide, bias, Format.targetExponent, Format.minExponent, Format.mantissaBits,
      totalExponent]
    omega

/-! ### Products and quotients by one -/

section Unit

variable {s : Sign} {m : Nat} {e : Int} {hm : 0 < m}
  (target : Format.binary64.targetExponent (totalExponent m e) = e)
include target

/-- A double times one is itself. -/
theorem mul_unit (unit : 0 < 2 ^ 52) :
    mul .binary64 (finite s m e hm) (finite .positive (2 ^ 52) (-52) unit) = finite s m e hm := by
  have sign : s * .positive = s := by cases s <;> rfl
  simp only [mul, sign]
  exact roundWithAccuracy_mul_pow .binary64 s hm 52 target

/-- Dividing by a power-of-two significand at its own scale shifts the dividend up and down by
the same number of bits. -/
theorem divCore_unit : ∃ k : Nat, divCore .binary64 m e (2 ^ 52) (-52) = (m * 2 ^ k, e - k, .exact) := by
  have unit : totalExponent (2 ^ 52) (-52) = 1 := by
    simp only [totalExponent, Nat.log2_two_pow]
    norm_num
  -- the quotient aims one bit lower than the dividend's own exponent, or at the least one
  have aimed : Format.binary64.targetExponent (totalExponent m e - 1) ≤ e := by
    have own := target
    generalize totalExponent m e = total at own ⊢
    simp only [Format.targetExponent] at own ⊢
    omega
  refine ⟨(e - Format.binary64.targetExponent (totalExponent m e - 1)).toNat, ?_⟩
  simp only [divCore, unit]
  rw [min_eq_right (by omega)]
  have shift : (e - -52 - Format.binary64.targetExponent (totalExponent m e - 1)).toNat =
      (e - Format.binary64.targetExponent (totalExponent m e - 1)).toNat + 52 := by omega
  rw [shift, Nat.shiftLeft_eq, Nat.pow_add, ← Nat.mul_assoc]
  simp only [Nat.mul_div_cancel _ (by positivity : 0 < 2 ^ 52), Nat.mul_mod_left,
    accuracyOfFraction, if_true, Prod.mk.injEq, true_and, and_true]
  omega

/-- Dividing a double by a unit gives the double with the quotient of the signs. -/
theorem div_unit (s' : Sign) (unit : 0 < 2 ^ 52) :
    div .binary64 (finite s m e hm) (finite s' (2 ^ 52) (-52) unit) = finite (s / s') m e hm := by
  obtain ⟨k, core⟩ := divCore_unit target
  simp only [div, core]
  exact roundWithAccuracy_mul_pow .binary64 _ hm k target

end Unit

/-! ### Negation -/

@[simp] theorem neg_neg (u : UnpackedFloat) : u.neg.neg = u := by
  cases u <;> simp [neg, Sign.neg_neg]

theorem SameUpToZeroSign.neg {x y : UnpackedFloat} (h : SameUpToZeroSign x y) :
    SameUpToZeroSign x.neg y.neg := by
  rcases h with same | ⟨s, t, left, right⟩
  · exact .inl (by rw [same])
  · exact .inr ⟨-s, -t, by rw [left]; rfl, by rw [right]; rfl⟩

end Float.Model.UnpackedFloat

namespace Float

open Float.Model Float.Model.UnpackedFloat Handoff

/-! ### Finite doubles -/

theorem unpack_one : (1.0 : Float).toModel.unpack = .finite .positive (2 ^ 52) (-52) (by decide) := by
  rfl

theorem unpack_neg_one :
    (-1.0 : Float).toModel.unpack = .finite .negative (2 ^ 52) (-52) (by decide) := by
  rfl

theorem unpack_zero : (0.0 : Float).toModel.unpack = .zero .positive := by
  rfl

/-- A finite double unpacks to a zero or to a finite number. -/
theorem unpack_of_isFinite {x : Float} (hx : x.isFinite = true) :
    (∃ s, x.toModel.unpack = .zero s) ∨
      ∃ s m e hm, x.toModel.unpack = .finite s m e hm := by
  simp only [Float.isFinite, Float.Model.isFinite] at hx
  cases u : x.toModel.unpack with
  | zero s => exact .inl ⟨s, rfl⟩
  | finite s m e hm => exact .inr ⟨s, m, e, hm, rfl⟩
  | infinity s => simp [u, UnpackedFloat.isFinite] at hx
  | notANumber => simp [u, UnpackedFloat.isFinite] at hx

theorem isFinite_of_same {x y : Float} (same : SameUpToZeroSign x.toModel.unpack y.toModel.unpack)
    (hy : y.isFinite = true) : x.isFinite = true := by
  simp only [Float.isFinite, Float.Model.isFinite] at hy ⊢
  rcases same with same | ⟨s, t, left, -⟩
  · rwa [same]
  · rw [left]
    rfl

theorem unpack_toModel_neg (x : Float) : (-x).toModel.unpack = x.toModel.unpack.neg :=
  Float.Model.unpack_neg x.toModel

/-- A double is finite exactly when its negation is. -/
theorem isFinite_neg (x : Float) : (-x).isFinite = x.isFinite := by
  show (-x.toModel).unpack.isFinite = x.toModel.unpack.isFinite
  rw [Float.Model.unpack_neg]
  cases x.toModel.unpack <;> rfl

theorem mul_one_of_isFinite {x : Float} (hx : x.isFinite = true) : x * 1.0 = x := by
  cases x with
  | ofModel m =>
    have product : UnpackedFloat.mul .binary64 m.unpack (1.0 : Float).toModel.unpack = m.unpack := by
      rw [unpack_one]
      rcases unpack_of_isFinite hx with ⟨s, u⟩ | ⟨s, mantissa, e, hm, u⟩
      · rw [show m.unpack = .zero s from u]
        cases s <;> rfl
      · rw [show m.unpack = .finite s mantissa e hm from u]
        exact mul_unit (targetExponent_of_unpack u) _
    show Float.ofModel (pack (UnpackedFloat.mul .binary64 m.unpack (1.0 : Float).toModel.unpack)) =
      Float.ofModel m
    rw [product, pack_unpack_self]

/-- Dividing a finite double by a unit of sign `s'` applies `s'` to its sign. -/
theorem unpack_div_unit {x : Float} (hx : x.isFinite = true) (s' : Sign) :
    UnpackedFloat.div .binary64 x.toModel.unpack (.finite s' (2 ^ 52) (-52) (by decide)) =
      match s' with
      | .positive => x.toModel.unpack
      | .negative => x.toModel.unpack.neg := by
  rcases unpack_of_isFinite hx with ⟨s, u⟩ | ⟨s, mantissa, e, hm, u⟩
  · rw [u]
    cases s <;> cases s' <;> rfl
  · rw [u, div_unit (targetExponent_of_unpack u)]
    cases s <;> cases s' <;> rfl

theorem div_one_of_isFinite {x : Float} (hx : x.isFinite = true) : x / 1.0 = x := by
  cases x with
  | ofModel m =>
    show Float.ofModel (pack (UnpackedFloat.div .binary64 m.unpack (1.0 : Float).toModel.unpack)) =
      Float.ofModel m
    rw [unpack_one, unpack_div_unit hx]
    exact congrArg Float.ofModel (pack_unpack_self m)

theorem div_neg_one_of_isFinite {x : Float} (hx : x.isFinite = true) : x / -1.0 = -x := by
  cases x with
  | ofModel m =>
    show Float.ofModel (pack (UnpackedFloat.div .binary64 m.unpack (-1.0 : Float).toModel.unpack)) =
      Float.ofModel (pack m.unpack.neg)
    rw [unpack_neg_one, unpack_div_unit hx]

/-! ### Zeros -/

/-- A finite double times zero is a zero. -/
theorem unpack_mul_zero {x : Float} (hx : x.isFinite = true) :
    ∃ s, (x * 0.0).toModel.unpack = .zero s := by
  show ∃ s, (pack (UnpackedFloat.mul .binary64 x.toModel.unpack (0.0 : Float).toModel.unpack)).unpack = _
  rw [unpack_zero]
  rcases unpack_of_isFinite hx with ⟨s, u⟩ | ⟨s, mantissa, e, hm, u⟩
  · exact ⟨s * .positive, by rw [u]; exact unpack_packedZero⟩
  · exact ⟨s * .positive, by rw [u]; exact unpack_packedZero⟩

/-- Subtracting a zero from a finite double leaves it, up to the sign of a zero. -/
theorem sub_of_unpack_zero {x y : Float} {s : Sign} (hx : x.isFinite = true)
    (hy : y.toModel.unpack = .zero s) :
    SameUpToZeroSign (x - y).toModel.unpack x.toModel.unpack := by
  have difference : SameUpToZeroSign (UnpackedFloat.sub .binary64 x.toModel.unpack (.zero s))
      x.toModel.unpack := by
    rcases unpack_of_isFinite hx with ⟨t, u⟩ | ⟨t, mantissa, e, hm, u⟩
    · rw [u]
      simp only [UnpackedFloat.sub]
      split
      · exact .inl rfl
      · exact .inr ⟨_, _, rfl, rfl⟩
    · rw [u]
      exact .inl rfl
  have packed := difference.unpack_pack .binary64
  rw [← Float.Model.unpack_pack, ← Float.Model.unpack_pack, pack_unpack_self] at packed
  show SameUpToZeroSign (pack (UnpackedFloat.sub .binary64 x.toModel.unpack y.toModel.unpack)).unpack _
  rwa [hy]

/-- Subtracting a finite double from a zero negates it, up to the sign of a zero. -/
theorem zero_sub_of_unpack_zero {x y : Float} {s : Sign} (hx : x.toModel.unpack = .zero s)
    (hy : y.isFinite = true) :
    SameUpToZeroSign (x - y).toModel.unpack (-y).toModel.unpack := by
  have difference : SameUpToZeroSign (UnpackedFloat.sub .binary64 (.zero s) y.toModel.unpack)
      y.toModel.unpack.neg := by
    rcases unpack_of_isFinite hy with ⟨t, u⟩ | ⟨t, mantissa, e, hm, u⟩
    · rw [u]
      simp only [UnpackedFloat.sub]
      split
      · exact .inr ⟨_, _, rfl, rfl⟩
      · exact .inr ⟨_, _, rfl, rfl⟩
    · rw [u]
      exact .inl rfl
  have packed := difference.unpack_pack .binary64
  rw [← Float.Model.unpack_pack, ← Float.Model.unpack_pack] at packed
  show SameUpToZeroSign (pack (UnpackedFloat.sub .binary64 x.toModel.unpack y.toModel.unpack)).unpack
    (-y.toModel).unpack
  rw [hx, Float.Model.unpack_neg]
  -- negation packs to the double the negated double unpacks to
  have negated : (pack y.toModel.unpack.neg).unpack = y.toModel.unpack.neg := by
    rw [← Float.Model.unpack_neg, pack_unpack_self]
  rwa [negated] at packed

/-! ### Clamping at zero -/

/-- Clamping a double at zero gives back, up to the sign of a zero, a finite side that is not
negative and that the double equals up to the sign of a zero. -/
theorem atLeastZero_beq {x w : Float} (same : SameUpToZeroSign x.toModel.unpack w.toModel.unpack)
    (hw : w.isFinite = true) (nonneg : 0.0 ≤ w) : (x.atLeastZero == w) = true := by
  have xFinite := isFinite_of_same same hw
  unfold Float.atLeastZero
  split
  case isTrue positive =>
    show x.toModel.unpack.beq w.toModel.unpack = true
    rcases unpack_of_isFinite xFinite with ⟨s, u⟩ | ⟨s, m, e, hm, u⟩ <;>
      exact same.beq (by rw [u]; exact fun nan => by cases nan)
  case isFalse notPositive =>
    show (0.0 : Float).toModel.unpack.beq w.toModel.unpack = true
    rw [unpack_zero]
    rcases unpack_of_isFinite hw with ⟨t, u⟩ | ⟨t, m, e, hm, u⟩
    · rw [u]
      cases t <;> rfl
    · -- a side of positive sign makes its double above zero, a side of negative sign is below it
      rw [le_iff_unpack, unpack_zero, u] at nonneg
      cases t with
      | negative =>
          have below : (UnpackedFloat.zero .positive).le (.finite .negative m e hm) = false := rfl
          rw [below] at nonneg
          cases nonneg
      | positive =>
          rcases same with same | ⟨s, s', -, wrong⟩
          · rw [gt_iff_lt, lt_iff_unpack, unpack_zero, same, u] at notPositive
            exact absurd rfl notPositive
          · rw [u] at wrong
            cases wrong

end Float
