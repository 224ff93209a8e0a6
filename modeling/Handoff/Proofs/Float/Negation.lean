/-
Module: Handoff.Proofs.Float.Negation
Purpose: Negation and round-to-nearest addition of doubles, in Lean's logical model of floats
  (`Float.Model`, `UnpackedFloat`). Negating a double flips the sign of what its bits unpack to
  (NaN stays the one NaN), and rounding to nearest does not look at the sign, so negating both
  addends negates the sum, except that an exact cancellation gives +0 either way. Hence
  `-(x + y) == -x + -y` holds for every pair whose sum is a number, the two sides differing at
  most in the sign of a zero; and `-0` is the identity of addition.
Main exports: UnpackedFloat.unpack_pack_neg, UnpackedFloat.normalize_neg,
  UnpackedFloat.add_neg_neg, Float.Model.unpack_neg, Float.isNaN_neg, Float.neg_add_beq,
  Float.negZero_add.
-/
import Mathlib

namespace Float.Model.UnpackedFloat

/-! ### Signs and unpacked floats -/

theorem Sign.neg_neg (s : Sign) : -(-s) = s := by
  cases s <;> rfl

theorem Sign.apply_neg (s : Sign) (n : Int) : (-s).apply n = -s.apply n := by
  cases s with
  | negative => exact (Int.neg_neg n).symm
  | positive => rfl

@[simp]
theorem neg_finite (s : Sign) (m : Nat) (e : Int) (positive : 0 < m) :
    (finite s m e positive).neg = finite (-s) m e positive := rfl

@[simp]
theorem neg_zero (s : Sign) : (zero s).neg = zero (-s) := rfl

theorem neg_eq_notANumber {u : UnpackedFloat} : u.neg = notANumber ↔ u = notANumber := by
  cases u <;> simp [neg]

/-! ### Packing commutes with negation -/

/-- Unpacking bits whose sign is flipped gives the negation of what the bits unpack to. -/
theorem unpack_packComponents_neg (spec : Format) (s : Sign) (e : BitVec spec.exponentBits)
    (m : BitVec spec.mantissaBitsWithoutImplicit) :
    unpack spec (packComponents spec (-s) e m) = (unpack spec (packComponents spec s e m)).neg := by
  simp only [unpack, unpackExponent_packComponents, unpackMantissa_packComponents,
    unpackSign_packComponents, Sign.ofBitVec_toBitVec]
  split_ifs <;> rfl

/-- Every float but NaN is packed from its sign, exponent field and fraction field, and its
negation from the same fields under the other sign. -/
theorem pack_neg (spec : Format) (u : UnpackedFloat) (number : u ≠ notANumber) :
    ∃ s e m, pack spec u = packComponents spec s e m ∧
      pack spec u.neg = packComponents spec (-s) e m := by
  cases u with
  | notANumber => exact absurd rfl number
  | infinity s => exact ⟨s, _, _, rfl, rfl⟩
  | zero s => exact ⟨s, _, _, rfl, rfl⟩
  | finite s m e positive =>
      -- the fields do not depend on the sign, and neither does which case applies
      simp only [neg_finite, pack]
      split_ifs
      · exact ⟨s, _, _, rfl, rfl⟩
      · exact ⟨s, _, _, rfl, rfl⟩
      · exact ⟨s, _, _, rfl, rfl⟩

/-- Packing the negation and unpacking again negates what packing and unpacking give. -/
theorem unpack_pack_neg (spec : Format) (u : UnpackedFloat) :
    unpack spec (pack spec u.neg) = (unpack spec (pack spec u)).neg := by
  by_cases nan : u = notANumber
  · subst nan
    simp [neg, pack]
  · obtain ⟨s, e, m, packed, packedNeg⟩ := pack_neg spec u nan
    rw [packed, packedNeg, unpack_packComponents_neg]

/-! ### Rounding is symmetric -/

/-- Away from zero, the sign offered for a zero result is not used. -/
theorem normalize_zeroSign (spec : Format) (mantissa exponent : Int) (nonzero : mantissa ≠ 0)
    (s t : Sign) : normalize spec mantissa exponent s = normalize spec mantissa exponent t := by
  unfold normalize
  rcases Int.lt_or_gt_of_ne nonzero with negative | positive
  · rw [Int.compare_eq_lt.2 negative]
  · rw [Int.compare_eq_gt.2 positive]

/-- Rounding the negated integer mantissa gives the negated rounding, a zero taking the other
sign it is offered. Rounding to nearest acts on the magnitude only. -/
theorem normalize_neg (spec : Format) (mantissa exponent : Int) (zeroSign : Sign) :
    normalize spec (-mantissa) exponent (-zeroSign) =
      (normalize spec mantissa exponent zeroSign).neg := by
  unfold normalize
  rcases Int.lt_trichotomy mantissa 0 with negative | zero | positive
  · have flipped : compare (-mantissa) 0 = .gt := Int.compare_eq_gt.2 (by omega)
    rw [flipped, Int.compare_eq_lt.2 negative]
    simp only [round, roundWithAccuracy]
    split <;> rfl
  · subst zero
    rfl
  · have flipped : compare (-mantissa) 0 = .lt := Int.compare_eq_lt.2 (by omega)
    rw [flipped, Int.compare_eq_gt.2 positive, Int.neg_neg]
    simp only [round, roundWithAccuracy]
    split <;> rfl

/-- Two floats that are equal, or are both zeros whatever their signs. -/
def SameUpToZeroSign (x y : UnpackedFloat) : Prop :=
  x = y ∨ ∃ s t, x = zero s ∧ y = zero t

theorem SameUpToZeroSign.symm {x y : UnpackedFloat} (h : SameUpToZeroSign x y) :
    SameUpToZeroSign y x := by
  rcases h with same | ⟨s, t, left, right⟩
  · exact .inl same.symm
  · exact .inr ⟨t, s, right, left⟩

/-- Floats equal up to the sign of a zero compare equal, unless they are NaN. -/
theorem SameUpToZeroSign.beq {x y : UnpackedFloat} (h : SameUpToZeroSign x y)
    (number : x ≠ notANumber) : x.beq y = true := by
  rcases h with same | ⟨s, t, left, right⟩
  · subst same
    rw [beq_iff_ne_notANumber_and_eq]
    exact ⟨number, number, .inl rfl⟩
  · subst left right
    cases s <;> cases t <;> rfl

/-- Packing and unpacking keeps two floats equal up to the sign of a zero. -/
theorem SameUpToZeroSign.unpack_pack (spec : Format) {x y : UnpackedFloat}
    (h : SameUpToZeroSign x y) :
    SameUpToZeroSign (unpack spec (pack spec x)) (unpack spec (pack spec y)) := by
  rcases h with same | ⟨s, t, left, right⟩
  · exact .inl (by rw [same])
  · subst left right
    exact .inr ⟨s, t, unpack_packedZero, unpack_packedZero⟩

/-- Negating both addends negates the sum, up to the sign of a zero sum. -/
theorem add_neg_neg (spec : Format) (u v : UnpackedFloat) :
    SameUpToZeroSign (add spec u.neg v.neg) (add spec u v).neg := by
  unfold SameUpToZeroSign
  cases u <;> cases v
  case finite.finite s₁ m₁ e₁ h₁ s₂ m₂ e₂ h₂ =>
    -- the aligned mantissas are summed as signed integers and the sum is rounded
    simp only [neg_finite, add, Sign.apply_neg]
    rw [← Int.neg_add]
    generalize s₁.apply _ + s₂.apply _ = total
    by_cases cancelled : total = 0
    · subst cancelled
      exact .inr ⟨_, _, rfl, rfl⟩
    · refine .inl ?_
      rw [normalize_zeroSign spec _ _ (Int.neg_ne_zero.2 cancelled) _ (-.positive), normalize_neg]
  all_goals
    first
    | exact .inl rfl
    | (rename_i s₁ s₂; cases s₁ <;> cases s₂ <;> first | exact .inl rfl | exact .inr ⟨_, _, rfl, rfl⟩)

end Float.Model.UnpackedFloat

namespace Float.Model

/-- Packing what a double unpacks to gives the double back. -/
theorem pack_unpack_self (m : Float.Model) : pack m.unpack = m := by
  cases m with
  | mk bits valid =>
      simp only [pack, unpack]
      congr
      exact UnpackedFloat.pack_unpack_of_valid valid

theorem unpack_pack (u : UnpackedFloat) :
    (pack u).unpack = UnpackedFloat.unpack Format.binary64 (UnpackedFloat.pack Format.binary64 u) :=
  rfl

/-- A negated double unpacks to the negation of what it unpacks to. -/
theorem unpack_neg (m : Float.Model) : (-m).unpack = m.unpack.neg := by
  show (pack m.unpack.neg).unpack = _
  have roundTrip : (pack m.unpack).unpack = m.unpack := by rw [pack_unpack_self]
  rw [unpack_pack, UnpackedFloat.unpack_pack_neg, ← unpack_pack, roundTrip]

theorem unpack_add (a b : Float.Model) :
    (a + b).unpack = (pack (UnpackedFloat.add Format.binary64 a.unpack b.unpack)).unpack :=
  rfl

/-- `-(a + b)` and `-a + -b` compare equal whenever the sum is a number. -/
theorem neg_add_beq (a b : Float.Model) (number : (a + b).isNaN = false) :
    (-(a + b)).beq (-a + -b) = true := by
  have left : (-(a + b)).unpack =
      (pack (UnpackedFloat.add Format.binary64 a.unpack b.unpack).neg).unpack := by
    rw [unpack_neg, unpack_add, unpack_pack, unpack_pack, UnpackedFloat.unpack_pack_neg]
  have right : (-a + -b).unpack =
      (pack (UnpackedFloat.add Format.binary64 a.unpack.neg b.unpack.neg)).unpack := by
    rw [unpack_add, unpack_neg, unpack_neg]
  have sumNumber : (pack (UnpackedFloat.add Format.binary64 a.unpack b.unpack).neg).unpack ≠
      .notANumber := by
    rw [unpack_pack, UnpackedFloat.unpack_pack_neg, Ne, UnpackedFloat.neg_eq_notANumber,
      ← unpack_pack, ← unpack_add, ← UnpackedFloat.isNaN_iff]
    exact Bool.eq_false_iff.1 number
  show (-(a + b)).unpack.beq (-a + -b).unpack = true
  rw [left, right, unpack_pack, unpack_pack]
  exact ((UnpackedFloat.add_neg_neg _ a.unpack b.unpack).unpack_pack _).symm.beq sumNumber

/-- Adding a double that unpacks to `-0` gives the other addend back. -/
theorem add_of_unpack_negZero (a b : Float.Model) (negZero : a.unpack = .zero .negative) :
    a + b = b := by
  have identity : UnpackedFloat.add Format.binary64 (.zero .negative) b.unpack = b.unpack := by
    cases b.unpack with
    | zero s => cases s <;> rfl
    | _ => rfl
  show pack (UnpackedFloat.add Format.binary64 a.unpack b.unpack) = b
  rw [negZero, identity, pack_unpack_self]

end Float.Model

namespace Float

/-- Negation keeps a NaN a NaN and a number a number. -/
theorem isNaN_neg (x : Float) : (-x).isNaN = x.isNaN := by
  show (-x.toModel).unpack.isNaN = x.toModel.unpack.isNaN
  rw [Float.Model.unpack_neg]
  cases x.toModel.unpack <;> rfl

/-- `-(x + y) == -x + -y` for every pair of doubles whose sum is a number: negation commutes with
rounding to nearest, and where the two sides differ they are zeros of opposite signs, which
compare equal. -/
theorem neg_add_beq (x y : Float) (number : (x + y).isNaN = false) :
    (-(x + y) == -x + -y) = true :=
  Float.Model.neg_add_beq x.toModel y.toModel number

/-- `-0` is the identity of addition: `-0 + z` is `z`, bit for bit. -/
theorem negZero_add (z : Float) : -0.0 + z = z := by
  have negZero : (-(0.0 : Float)).toModel.unpack = .zero .negative := by
    show (-(0.0 : Float).toModel).unpack = _
    rw [Float.Model.unpack_neg]
    rfl
  cases z with
  | ofModel m => exact congrArg Float.ofModel (Float.Model.add_of_unpack_negZero _ m negZero)

end Float
