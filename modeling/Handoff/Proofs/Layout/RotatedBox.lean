/-
Module: Handoff.Proofs.Layout.RotatedBox
Purpose: Resolving a turned box in doubles. Whatever the angle, the resolved size is a pair of
  doubles that are not negative and not NaN, the resolved angle is the opposite of the design
  angle, and the singular flag is the engine's test on the absolute cosine and sine, under
  which the bounding box's own size is kept. At a quarter turn sine and cosine are exact, the
  system is solved by ones and zeros, and the size comes back as the bounding box's sides,
  swapped at odd quarter turns. Read in the reals, the same engine inverts the bounding box of
  a turned box exactly wherever the angle is not singular.
Main exports: Rect.isWellFormed_iff, resolveRotatedBox_float, Float.atLeastZero_nonneg,
  straight_side_beq, turned_side_beq, resolveRotatedBox_quarterTurn, resolved_box_contract.
-/
import Mathlib
import Handoff.Proofs.Float.Exact
import Handoff.Proofs.Layout.ExactGeometry

namespace Handoff

open Float.Model

theorem Rect.isWellFormed_iff (r : Rect Float) :
    r.isWellFormed = true ↔
      r.x.isFinite = true ∧ r.y.isFinite = true ∧ r.width.isFinite = true ∧
        r.height.isFinite = true ∧ 0.0 ≤ r.width ∧ 0.0 ≤ r.height := by
  simp [Rect.isWellFormed, and_assoc]

@[simp] theorem abs_float (x : Float) : GeometryArith.abs x = x.abs := rfl

@[simp] theorem atLeastZero_float (x : Float) : GeometryArith.atLeastZero x = x.atLeastZero := rfl

/-- What the resolution computes in doubles from one angle's sine and cosine: the bounding box's
size where the system is singular, and else the solution of the system clamped at zero. -/
theorem resolveRotatedBox_float (bounds : Rect Float) (t : Float) {sin cos : Float}
    (angle : sinCosDegrees (-t) = (sin, cos)) :
    let det := cos.abs * cos.abs - sin.abs * sin.abs
    let r := resolveRotatedBox bounds t
    r.rotationDegrees = -t ∧
      (r.width, r.height, r.singular) =
        if det.abs < singularEpsilon then (bounds.width, bounds.height, true)
        else (((bounds.width * cos.abs - bounds.height * sin.abs) / det).atLeastZero,
          ((bounds.height * cos.abs - bounds.width * sin.abs) / det).atLeastZero, false) := by
  have angle' : GeometryArith.sinCosDegrees (-t) = (sin, cos) := angle
  refine ⟨?_, ?_⟩ <;> simp only [resolveRotatedBox, angle', abs_float, atLeastZero_float]

/-! ### Clamping at zero -/

theorem Float.isNaN_eq_false_of_lt {x y : Float} (h : x < y) :
    x.isNaN = false ∧ y.isNaN = false := by
  rw [Float.lt_iff_unpack] at h
  simp only [Float.isNaN, Float.Model.isNaN]
  -- NaN compares below nothing and nothing compares below NaN
  cases u : x.toModel.unpack <;> cases v : y.toModel.unpack <;> rw [u, v] at h <;>
    first | exact ⟨rfl, rfl⟩ | cases h

/-- Clamping at zero gives a double that is not negative and not NaN. -/
theorem Float.atLeastZero_nonneg (x : Float) :
    0.0 ≤ x.atLeastZero ∧ x.atLeastZero.isNaN = false := by
  unfold Float.atLeastZero
  split
  case isTrue positive =>
    obtain ⟨zero, number⟩ := Float.isNaN_eq_false_of_lt positive
    exact ⟨Float.le_of_lt_of_number zero number positive, number⟩
  case isFalse => exact ⟨by decide +kernel, rfl⟩

/-- For well-formed bounds and every angle: a size that is not negative and not NaN, the
opposite angle, and the bounding box's size kept exactly when the engine's test finds the
system singular. -/
theorem resolveRotatedBox_size {bounds : Rect Float} (formed : bounds.isWellFormed = true)
    (t : Float) :
    let sin := (sinCosDegrees (-t)).1
    let cos := (sinCosDegrees (-t)).2
    ((0.0 ≤ (resolveRotatedBox bounds t).width ∧ (resolveRotatedBox bounds t).width.isNaN = false) ∧
      (0.0 ≤ (resolveRotatedBox bounds t).height ∧
        (resolveRotatedBox bounds t).height.isNaN = false)) ∧
      (resolveRotatedBox bounds t).rotationDegrees = -t ∧
      ((resolveRotatedBox bounds t).singular = true ↔
        (cos.abs * cos.abs - sin.abs * sin.abs).abs < singularEpsilon) ∧
      ((resolveRotatedBox bounds t).singular = true →
        (resolveRotatedBox bounds t).width = bounds.width ∧
          (resolveRotatedBox bounds t).height = bounds.height) := by
  intro sin cos
  obtain ⟨-, -, wFinite, hFinite, wNonneg, hNonneg⟩ := (Rect.isWellFormed_iff bounds).mp formed
  obtain ⟨rotation, size⟩ :=
    resolveRotatedBox_float bounds t (show sinCosDegrees (-t) = (sin, cos) from rfl)
  by_cases singular : (cos.abs * cos.abs - sin.abs * sin.abs).abs < singularEpsilon
  · -- singular: the bounding box's size, which well-formedness makes finite and not negative
    simp only [singular, if_true, Prod.mk.injEq] at size
    obtain ⟨width, height, flag⟩ := size
    rw [width, height, flag]
    exact ⟨⟨⟨wNonneg, Float.isNaN_eq_false_of_isFinite wFinite⟩,
      ⟨hNonneg, Float.isNaN_eq_false_of_isFinite hFinite⟩⟩, rotation, iff_of_true rfl singular,
      fun _ => ⟨rfl, rfl⟩⟩
  · -- regular: the solution clamped at zero
    simp only [singular, if_false, Prod.mk.injEq] at size
    obtain ⟨width, height, flag⟩ := size
    rw [width, height, flag]
    exact ⟨⟨Float.atLeastZero_nonneg _, Float.atLeastZero_nonneg _⟩, rotation,
      iff_of_false Bool.false_ne_true singular, fun wrong => absurd wrong Bool.false_ne_true⟩

/-! ### Quarter turns -/

section Sides

variable {w h : Float} (hw : w.isFinite = true) (hh : h.isFinite = true)
include hw hh

/-- A side solved by the identity matrix comes back as itself. -/
theorem straight_side_beq (nonneg : 0.0 ≤ w) :
    (((w * 1.0 - h * 0.0) / 1.0).atLeastZero == w) = true := by
  obtain ⟨s, zero⟩ := Float.unpack_mul_zero hh
  rw [Float.mul_one_of_isFinite hw]
  have same := Float.sub_of_unpack_zero hw zero
  rw [Float.div_one_of_isFinite (Float.isFinite_of_same same hw)]
  exact Float.atLeastZero_beq same hw nonneg

/-- A side solved by the swapping matrix, of determinant minus one, comes back as the other
side. -/
theorem turned_side_beq (nonneg : 0.0 ≤ h) :
    (((w * 0.0 - h * 1.0) / -1.0).atLeastZero == h) = true := by
  obtain ⟨s, zero⟩ := Float.unpack_mul_zero hw
  rw [Float.mul_one_of_isFinite hh]
  have same := Float.zero_sub_of_unpack_zero zero hh
  have finite := Float.isFinite_of_same same (by rwa [Float.isFinite_neg])
  rw [Float.div_neg_one_of_isFinite finite]
  -- negating both sides of `w * 0 - h ≈ -h` gives back `h`
  have back : UnpackedFloat.SameUpToZeroSign (-(w * 0.0 - h)).toModel.unpack h.toModel.unpack := by
    have negated := same.neg
    rwa [Float.unpack_toModel_neg, UnpackedFloat.neg_neg, ← Float.unpack_toModel_neg] at negated
  exact Float.atLeastZero_beq back hh nonneg

end Sides

/-- At a multiple of 90° sine and cosine are exact, read off the number of quarter turns. -/
theorem sinCosDegrees_quarterTurn {d : Float}
    (quarter : ((d.remEuclid 360.0).remainder 90.0 == 0.0) = true) :
    ((d.remEuclid 360.0 / 90.0).toNatClamped 32 % 4 = 0 → sinCosDegrees d = (0.0, 1.0)) ∧
      ((d.remEuclid 360.0 / 90.0).toNatClamped 32 % 4 = 1 → sinCosDegrees d = (1.0, 0.0)) ∧
      ((d.remEuclid 360.0 / 90.0).toNatClamped 32 % 4 = 2 → sinCosDegrees d = (0.0, -1.0)) ∧
      ((d.remEuclid 360.0 / 90.0).toNatClamped 32 % 4 = 3 → sinCosDegrees d = (-1.0, 0.0)) := by
  simp only [sinCosDegrees, quarter, if_true]
  refine ⟨fun k => ?_, fun k => ?_, fun k => ?_, fun k => ?_⟩ <;> rw [k] <;> rfl

/-- At angles where the absolute sine is zero and the absolute cosine one, the bounding box's
sides come back in place. -/
theorem resolveRotatedBox_straight {bounds : Rect Float} (formed : bounds.isWellFormed = true)
    {t sin cos : Float} (angle : sinCosDegrees (-t) = (sin, cos)) (hs : sin.abs = 0.0)
    (hc : cos.abs = 1.0) :
    (resolveRotatedBox bounds t).singular = false ∧
      ((resolveRotatedBox bounds t).width == bounds.width) = true ∧
      ((resolveRotatedBox bounds t).height == bounds.height) = true := by
  obtain ⟨-, -, wFinite, hFinite, wNonneg, hNonneg⟩ := (Rect.isWellFormed_iff bounds).mp formed
  obtain ⟨-, size⟩ := resolveRotatedBox_float bounds t angle
  have det : (1.0 * 1.0 - 0.0 * 0.0 : Float) = 1.0 := congrArg Float.ofModel (by decide +kernel)
  have regular : ¬((1.0 : Float).abs < singularEpsilon) := by decide +kernel
  simp only [hs, hc, det, regular, if_false, Prod.mk.injEq] at size
  obtain ⟨width, height, singular⟩ := size
  rw [width, height, singular]
  exact ⟨rfl, straight_side_beq wFinite hFinite wNonneg, straight_side_beq hFinite wFinite hNonneg⟩

/-- At angles where the absolute sine is one and the absolute cosine zero, the bounding box's
sides come back swapped. -/
theorem resolveRotatedBox_turned {bounds : Rect Float} (formed : bounds.isWellFormed = true)
    {t sin cos : Float} (angle : sinCosDegrees (-t) = (sin, cos)) (hs : sin.abs = 1.0)
    (hc : cos.abs = 0.0) :
    (resolveRotatedBox bounds t).singular = false ∧
      ((resolveRotatedBox bounds t).width == bounds.height) = true ∧
      ((resolveRotatedBox bounds t).height == bounds.width) = true := by
  obtain ⟨-, -, wFinite, hFinite, wNonneg, hNonneg⟩ := (Rect.isWellFormed_iff bounds).mp formed
  obtain ⟨-, size⟩ := resolveRotatedBox_float bounds t angle
  have det : (0.0 * 0.0 - 1.0 * 1.0 : Float) = -1.0 := congrArg Float.ofModel (by decide +kernel)
  have regular : ¬((-1.0 : Float).abs < singularEpsilon) := by decide +kernel
  simp only [hs, hc, det, regular, if_false, Prod.mk.injEq] at size
  obtain ⟨width, height, singular⟩ := size
  rw [width, height, singular]
  exact ⟨rfl, turned_side_beq wFinite hFinite hNonneg, turned_side_beq hFinite wFinite wNonneg⟩

/-- At a quarter turn the resolved size is the bounding box's, swapped at odd quarter turns, as
doubles compare (a side of `-0` comes back as `0`); the system is never singular there. -/
theorem resolveRotatedBox_quarterTurn {bounds : Rect Float} (formed : bounds.isWellFormed = true)
    {t : Float} (quarter : (((-t).remEuclid 360.0).remainder 90.0 == 0.0) = true) :
    let turns := ((-t).remEuclid 360.0 / 90.0).toNatClamped 32
    let r := resolveRotatedBox bounds t
    r.singular = false ∧
      (r.width == if turns % 2 = 1 then bounds.height else bounds.width) = true ∧
      (r.height == if turns % 2 = 1 then bounds.width else bounds.height) = true := by
  intro turns r
  obtain ⟨straight, quarterTurn, halfTurn, threeQuarters⟩ := sinCosDegrees_quarterTurn quarter
  have parity : turns % 2 = turns % 4 % 2 := (Nat.mod_mod_of_dvd turns (by norm_num)).symm
  have zero : (0.0 : Float).abs = 0.0 := congrArg Float.ofModel (by decide +kernel)
  have one : (1.0 : Float).abs = 1.0 := congrArg Float.ofModel (by decide +kernel)
  have minusOne : (-1.0 : Float).abs = 1.0 := congrArg Float.ofModel (by decide +kernel)
  -- the four quarters: sine and cosine are exact, and only their absolute values matter
  rcases (by omega : turns % 4 = 0 ∨ turns % 4 = 1 ∨ turns % 4 = 2 ∨ turns % 4 = 3)
    with k | k | k | k
  · simpa [parity, k] using resolveRotatedBox_straight formed (straight k) zero one
  · simpa [parity, k] using resolveRotatedBox_turned formed (quarterTurn k) one zero
  · simpa [parity, k] using resolveRotatedBox_straight formed (halfTurn k) zero minusOne
  · simpa [parity, k] using resolveRotatedBox_turned formed (threeQuarters k) minusOne zero

-- A design angle of 90° is three quarter turns of the opposite angle: the sides swap.
example : ((resolveRotatedBox (⟨0.0, 0.0, 100.0, 50.0⟩ : Rect Float) 90.0).width == 50.0) = true := by
  decide +kernel

/-- Resolving a turned box: in doubles, for well-formed bounds and every angle, the size is not
negative and not NaN, the angle is the opposite of the design angle, the system counts as
singular exactly when the engine's test on the absolute cosine and sine holds, and then the
bounding box's size is kept; at a quarter turn the bounding box's sides come back, swapped at
odd quarter turns. Read in the reals, every angle that is not singular resolves the bounding box
of a turned box to that box's size and top-left. -/
theorem resolveRotatedBox_contract :
    (∀ (bounds : Rect Float) (t : Float), bounds.isWellFormed = true →
      let r := resolveRotatedBox bounds t
      let sin := (sinCosDegrees (-t)).1
      let cos := (sinCosDegrees (-t)).2
      let turns := ((-t).remEuclid 360.0 / 90.0).toNatClamped 32
      ((0.0 ≤ r.width ∧ r.width.isNaN = false) ∧ (0.0 ≤ r.height ∧ r.height.isNaN = false)) ∧
        r.rotationDegrees = -t ∧
        (r.singular = true ↔ (cos.abs * cos.abs - sin.abs * sin.abs).abs < singularEpsilon) ∧
        (r.singular = true → r.width = bounds.width ∧ r.height = bounds.height) ∧
        ((((-t).remEuclid 360.0).remainder 90.0 == 0.0) = true →
          (r.width == if turns % 2 = 1 then bounds.height else bounds.width) = true ∧
            (r.height == if turns % 2 = 1 then bounds.width else bounds.height) = true)) ∧
    ∀ (left top width height t : ℝ), 0 ≤ width → 0 ≤ height →
      singularEpsilon ≤ |cosDeg t ^ 2 - sinDeg t ^ 2| →
      resolveRotatedBox (turnedBoundingBox left top width height (-t)) t =
        { width, height, left, top, rotationDegrees := -t, singular := false } := by
  refine ⟨fun bounds t formed => ?_, fun left top width height t hw hh regular =>
    resolveRotatedBox_turnedBoundingBox hw hh regular⟩
  obtain ⟨size, rotation, singular, kept⟩ := resolveRotatedBox_size formed t
  exact ⟨size, rotation, singular, kept, fun quarter => (resolveRotatedBox_quarterTurn formed quarter).2⟩

end Handoff
