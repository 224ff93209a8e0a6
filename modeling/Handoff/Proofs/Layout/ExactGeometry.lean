/-
Module: Handoff.Proofs.Layout.ExactGeometry
Purpose: The geometry engine read in the reals, each operation exact and sine and cosine of an
  angle in degrees exact. Resolving the axis-aligned bounding box of a turned box gives the box
  back, size and top-left, wherever the angle is not singular; and the offset of a child in its
  parent's frame turns the child's centre back by the parent's angle. Together: from the
  bounding boxes a design tool reports for a turned parent and a child turned inside it, the
  pass recovers the child's size and its offset in the parent's un-rotated frame exactly. (The
  pass places a node under a parent by these two calls: `resolveRotatedBox` of its bounding box
  at its cumulative angle, then `offsetInParent` of the result in the parent's resolved frame.)
Main exports: sinDeg, cosDeg, turnDeg, turnedBoundingBox, turnedBoundingBox_eq,
  resolveRotatedBox_turnedBoundingBox, offsetInParent_eq, rotatedChild_geometry_exact.
-/
import Mathlib
import Handoff.Layout.Rotation

namespace Handoff

open Real

/-! ### Angles in degrees -/

/-- Sine of an angle in degrees. -/
noncomputable def sinDeg (d : ℝ) : ℝ := Real.sin (d * π / 180)

/-- Cosine of an angle in degrees. -/
noncomputable def cosDeg (d : ℝ) : ℝ := Real.cos (d * π / 180)

theorem sinDeg_neg (d : ℝ) : sinDeg (-d) = -sinDeg d := by
  simp [sinDeg, neg_mul, neg_div, Real.sin_neg]

theorem cosDeg_neg (d : ℝ) : cosDeg (-d) = cosDeg d := by
  simp [cosDeg, neg_mul, neg_div, Real.cos_neg]

theorem sinDeg_sq_add_cosDeg_sq (d : ℝ) : sinDeg d ^ 2 + cosDeg d ^ 2 = 1 :=
  Real.sin_sq_add_cos_sq _

/-- `(x, y)` turned by `angle` degrees: `(x cos − y sin, y cos + x sin)`. -/
noncomputable def turnDeg (angle x y : ℝ) : ℝ × ℝ :=
  (x * cosDeg angle - y * sinDeg angle, y * cosDeg angle + x * sinDeg angle)

/-- Turning by the opposite angle undoes a turn. -/
theorem turnDeg_neg_turnDeg (angle x y : ℝ) :
    turnDeg (-angle) (turnDeg angle x y).1 (turnDeg angle x y).2 = (x, y) := by
  have unit := sinDeg_sq_add_cosDeg_sq angle
  simp only [turnDeg, sinDeg_neg, cosDeg_neg, Prod.mk.injEq]
  constructor
  · linear_combination x * unit
  · linear_combination y * unit

/-! ### The exact reading of the engine -/

/-- The engine read in the reals: every operation exact, and sine and cosine exact. -/
noncomputable instance : GeometryArith ℝ where
  decLt _ _ := inferInstance
  abs x := |x|
  atLeastZero x := max x 0
  belowTop x := x
  sinCosDegrees d := (sinDeg d, cosDeg d)

@[simp] theorem abs_real (x : ℝ) : GeometryArith.abs x = |x| := rfl

@[simp] theorem atLeastZero_real (x : ℝ) : GeometryArith.atLeastZero x = max x 0 := rfl

@[simp] theorem sinCosDegrees_real (d : ℝ) :
    GeometryArith.sinCosDegrees d = (sinDeg d, cosDeg d) := rfl

@[simp] theorem Point.belowTop_real (p : Point ℝ) : p.belowTop = p := rfl

/-- A strict comparison that keeps the smaller value is the minimum. -/
theorem ite_lt_eq_min (a b : ℝ) : (if b < a then b else a) = min a b := by
  split <;> rename_i lt
  · exact (min_eq_right lt.le).symm
  · exact (min_eq_left (not_lt.1 lt)).symm

/-- In the reals the least-so-far of two points is their componentwise minimum. -/
@[simp] theorem Point.lower_real (acc p : Point ℝ) :
    acc.lower p = ⟨min acc.x p.x, min acc.y p.y⟩ := by
  simp only [Point.lower, ite_lt_eq_min]

/-! ### Least and greatest corners -/

theorem min_neg_self (a : ℝ) : min (-a) a = -|a| := by
  rw [abs_eq_max_neg, ← min_neg_neg, neg_neg, min_comm]

theorem max_neg_self (a : ℝ) : max (-a) a = |a| := by
  rw [abs_eq_max_neg, max_comm]

/-- Of the four signed sums `±p ± q`, the least is `-(|p| + |q|)`. -/
theorem min_signed_sums (p q : ℝ) :
    min (min (-p + q) (p + q)) (min (-p - q) (p - q)) = -(|p| + |q|) := by
  rw [min_add_add_right, min_sub_sub_right, min_neg_self, sub_eq_add_neg (-|p|),
    min_add_add_left, min_comm, min_neg_self, neg_add]

/-- Of the four signed sums `±p ± q`, the greatest is `|p| + |q|`. -/
theorem max_signed_sums (p q : ℝ) :
    max (max (-p + q) (p + q)) (max (-p - q) (p - q)) = |p| + |q| := by
  rw [max_add_add_right, max_sub_sub_right, max_neg_self, sub_eq_add_neg |p|, max_add_add_left,
    max_comm, max_neg_self]

/-- A least of four values taken one after another, each shifted by `c`, is `c` plus their least
taken in pairs. -/
theorem min_fold_shift (c a₁ a₂ a₃ a₄ : ℝ) :
    min (min (min (a₁ + c) (a₂ + c)) (a₃ + c)) (a₄ + c) = c + min (min a₁ a₂) (min a₃ a₄) := by
  rw [min_assoc, min_add_add_right, min_add_add_right, min_add_add_right, add_comm]

/-! ### The bounding box of a turned box -/

/-- The least coordinates reached by the corners of the `width × height` box centred at the
origin and turned by `angle` degrees. -/
noncomputable def cornerLeast (width height angle : ℝ) : ℝ × ℝ :=
  let p₁ := turnDeg angle (-(width / 2)) (-(height / 2))
  let p₂ := turnDeg angle (width / 2) (-(height / 2))
  let p₃ := turnDeg angle (-(width / 2)) (height / 2)
  let p₄ := turnDeg angle (width / 2) (height / 2)
  (min (min p₁.1 p₂.1) (min p₃.1 p₄.1), min (min p₁.2 p₂.2) (min p₃.2 p₄.2))

/-- The greatest coordinates reached by the same corners. -/
noncomputable def cornerGreatest (width height angle : ℝ) : ℝ × ℝ :=
  let p₁ := turnDeg angle (-(width / 2)) (-(height / 2))
  let p₂ := turnDeg angle (width / 2) (-(height / 2))
  let p₃ := turnDeg angle (-(width / 2)) (height / 2)
  let p₄ := turnDeg angle (width / 2) (height / 2)
  (max (max p₁.1 p₂.1) (max p₃.1 p₄.1), max (max p₁.2 p₂.2) (max p₃.2 p₄.2))

/-- The axis-aligned bounding box of the `width × height` box with top-left `(left, top)`,
turned by `angle` degrees about its centre: it spans the least to the greatest coordinate of
the four turned corners. -/
noncomputable def turnedBoundingBox (left top width height angle : ℝ) : Rect ℝ :=
  let least := cornerLeast width height angle
  let greatest := cornerGreatest width height angle
  ⟨left + width / 2 + least.1, top + height / 2 + least.2,
    greatest.1 - least.1, greatest.2 - least.2⟩

/-- The corners reach `|cos| w/2 + |sin| h/2` to either side and `|sin| w/2 + |cos| h/2` up
and down. -/
theorem cornerLeast_cornerGreatest {width height : ℝ} (hw : 0 ≤ width) (hh : 0 ≤ height)
    (angle : ℝ) :
    cornerLeast width height angle =
        (-(|cosDeg angle| * (width / 2) + |sinDeg angle| * (height / 2)),
          -(|sinDeg angle| * (width / 2) + |cosDeg angle| * (height / 2))) ∧
      cornerGreatest width height angle =
        (|cosDeg angle| * (width / 2) + |sinDeg angle| * (height / 2),
          |sinDeg angle| * (width / 2) + |cosDeg angle| * (height / 2)) := by
  have halfW : (0 : ℝ) ≤ width / 2 := by positivity
  have halfH : (0 : ℝ) ≤ height / 2 := by positivity
  -- each coordinate of a corner is a signed sum of the two turned half sides
  have across := fun (m : ℝ) => (abs_mul (width / 2) m).trans (by rw [abs_of_nonneg halfW, mul_comm])
  have down := fun (m : ℝ) => (abs_mul (height / 2) m).trans (by rw [abs_of_nonneg halfH, mul_comm])
  have leastX := min_signed_sums (width / 2 * cosDeg angle) (height / 2 * sinDeg angle)
  have greatestX := max_signed_sums (width / 2 * cosDeg angle) (height / 2 * sinDeg angle)
  have leastY := min_signed_sums (width / 2 * sinDeg angle) (height / 2 * cosDeg angle)
  have greatestY := max_signed_sums (width / 2 * sinDeg angle) (height / 2 * cosDeg angle)
  simp only [across, down] at leastX greatestX leastY greatestY
  refine ⟨Prod.ext ?_ ?_, Prod.ext ?_ ?_⟩
  · rw [← leastX]
    simp only [cornerLeast, turnDeg]
    congr 2 <;> ring
  · rw [← leastY, min_comm (min _ _)]
    simp only [cornerLeast, turnDeg]
    congr 2 <;> ring
  · rw [← greatestX]
    simp only [cornerGreatest, turnDeg]
    congr 2 <;> ring
  · rw [← greatestY, max_comm (max _ _)]
    simp only [cornerGreatest, turnDeg]
    congr 2 <;> ring

/-! ### Resolving a bounding box -/

-- the engine's literals, read in the reals
theorem two_real : (2.0 : ℝ) = 2 := by norm_num

theorem zero_real : (0.0 : ℝ) = 0 := by norm_num

/-- Away from the singular angles, the engine solves the bounding-box system for the size, and
puts the top-left where the least turned corner of the box meets the bounding box. -/
theorem resolveRotatedBox_regular {bounds : Rect ℝ} {d : ℝ}
    (regular : singularEpsilon ≤ |cosDeg d ^ 2 - sinDeg d ^ 2|) :
    let c := |cosDeg d|
    let s := |sinDeg d|
    let width := max ((bounds.width * c - bounds.height * s) / (c * c - s * s)) 0
    let height := max ((bounds.height * c - bounds.width * s) / (c * c - s * s)) 0
    resolveRotatedBox bounds d =
      { width, height,
        left := bounds.x - (width / 2 + (cornerLeast width height (-d)).1),
        top := bounds.y - (height / 2 + (cornerLeast width height (-d)).2),
        rotationDegrees := -d, singular := false } := by
  intro c s width height
  have det : |c * c - s * s| = |cosDeg d ^ 2 - sinDeg d ^ 2| := by
    simp only [c, s, abs_mul_abs_self, sq]
  simp only [resolveRotatedBox, sinCosDegrees_real, abs_real, atLeastZero_real, cosDeg_neg,
    sinDeg_neg, abs_neg, Point.belowTop_real, Point.lower_real, List.foldl]
  rw [if_neg (not_lt.2 (det ▸ regular))]
  simp only [c, s, width, height, Point.turn, Point.sub, Point.add, two_real, zero_real]
  set W := max ((bounds.width * |cosDeg d| - bounds.height * |sinDeg d|) /
    (|cosDeg d| * |cosDeg d| - |sinDeg d| * |sinDeg d|)) 0
  set H := max ((bounds.height * |cosDeg d| - bounds.width * |sinDeg d|) /
    (|cosDeg d| * |cosDeg d| - |sinDeg d| * |sinDeg d|)) 0
  -- the fold takes the least of the turned corners, each the centre plus a corner of the box
  -- centred at the origin
  rw [min_fold_shift, min_fold_shift]
  simp only [cornerLeast, turnDeg, cosDeg_neg, sinDeg_neg]
  congr 5 <;> ring

/-- Resolving the bounding box of a turned box, at its angle and away from the singular ones,
gives the box back: its size, its top-left and the angle in the code's convention. -/
theorem resolveRotatedBox_turnedBoundingBox {left top width height d : ℝ} (hw : 0 ≤ width)
    (hh : 0 ≤ height) (regular : singularEpsilon ≤ |cosDeg d ^ 2 - sinDeg d ^ 2|) :
    resolveRotatedBox (turnedBoundingBox left top width height (-d)) d =
      { width, height, left, top, rotationDegrees := -d, singular := false } := by
  obtain ⟨least, greatest⟩ := cornerLeast_cornerGreatest hw hh (-d)
  rw [cosDeg_neg, sinDeg_neg, abs_neg] at least greatest
  have det : |cosDeg d| * |cosDeg d| - |sinDeg d| * |sinDeg d| ≠ 0 := by
    rw [abs_mul_abs_self, abs_mul_abs_self, ← sq, ← sq]
    intro singular
    rw [singular, abs_zero] at regular
    norm_num [singularEpsilon] at regular
  -- the bounding box's sides are the linear system the engine solves
  have across : (turnedBoundingBox left top width height (-d)).width =
      |cosDeg d| * width + |sinDeg d| * height := by
    simp only [turnedBoundingBox, least, greatest]
    ring
  have down : (turnedBoundingBox left top width height (-d)).height =
      |sinDeg d| * width + |cosDeg d| * height := by
    simp only [turnedBoundingBox, least, greatest]
    ring
  have solvedWidth : ((|cosDeg d| * width + |sinDeg d| * height) * |cosDeg d| -
      (|sinDeg d| * width + |cosDeg d| * height) * |sinDeg d|) /
      (|cosDeg d| * |cosDeg d| - |sinDeg d| * |sinDeg d|) = width := by
    rw [div_eq_iff det]
    ring
  have solvedHeight : ((|sinDeg d| * width + |cosDeg d| * height) * |cosDeg d| -
      (|cosDeg d| * width + |sinDeg d| * height) * |sinDeg d|) /
      (|cosDeg d| * |cosDeg d| - |sinDeg d| * |sinDeg d|) = height := by
    rw [div_eq_iff det]
    ring
  have engine := @resolveRotatedBox_regular (turnedBoundingBox left top width height (-d)) d regular
  simp only [across, down, solvedWidth, solvedHeight, max_eq_left hw, max_eq_left hh] at engine
  rw [engine]
  -- the top-left: the bounding box starts where the least turned corner reaches
  congr 1 <;> simp only [turnedBoundingBox] <;> ring

/-- The engine turns the child's centre back about the parent's centre by the parent's angle,
and places the child's top-left half its size before that centre. -/
theorem offsetInParent_eq (child parent : ResolvedBox ℝ) :
    offsetInParent child parent =
      ((turnDeg (-parent.rotationDegrees)
          (child.left + child.width / 2 - (parent.left + parent.width / 2))
          (child.top + child.height / 2 - (parent.top + parent.height / 2))).1 +
            parent.width / 2 - child.width / 2,
        (turnDeg (-parent.rotationDegrees)
          (child.left + child.width / 2 - (parent.left + parent.width / 2))
          (child.top + child.height / 2 - (parent.top + parent.height / 2))).2 +
            parent.height / 2 - child.height / 2) := by
  simp only [offsetInParent, sinCosDegrees_real, Point.turn, Point.sub, Point.add, two_real,
    turnDeg, cosDeg_neg, sinDeg_neg]
  ext <;> ring

/-- A child placed at `(lx, ly)` in the un-rotated frame of its parent, with its own angle on
top of the parent's: when the bounding boxes the tool reports are those of the two turned
boxes and neither angle is singular, the pass, read in exact arithmetic, gives the child back its
size and its offset in the parent's frame. -/
theorem rotatedChild_geometry_exact (PL PT PW PH tp lx ly w h tc : ℝ)
    (parentSize : 0 ≤ PW ∧ 0 ≤ PH) (childSize : 0 ≤ w ∧ 0 ≤ h)
    (parentRegular : 1e-6 ≤ |cosDeg tp ^ 2 - sinDeg tp ^ 2|)
    (childRegular : 1e-6 ≤ |cosDeg (tp + tc) ^ 2 - sinDeg (tp + tc) ^ 2|) :
    let u := lx + w / 2 - PW / 2
    let v := ly + h / 2 - PH / 2
    let centre := turnDeg (-tp) u v
    let parentFrame := resolveRotatedBox (turnedBoundingBox PL PT PW PH (-tp)) tp
    let child := resolveRotatedBox
      (turnedBoundingBox (PL + PW / 2 + centre.1 - w / 2) (PT + PH / 2 + centre.2 - h / 2) w h
        (-(tp + tc))) (tp + tc)
    offsetInParent child parentFrame = (lx, ly) ∧ child.width = w ∧ child.height = h := by
  intro u v centre parentFrame child
  have parentBox : parentFrame = ⟨PW, PH, PL, PT, -tp, false⟩ :=
    resolveRotatedBox_turnedBoundingBox parentSize.1 parentSize.2 parentRegular
  have childBox : child = ⟨w, h, PL + PW / 2 + centre.1 - w / 2, PT + PH / 2 + centre.2 - h / 2,
      -(tp + tc), false⟩ :=
    resolveRotatedBox_turnedBoundingBox childSize.1 childSize.2 childRegular
  refine ⟨?_, by rw [childBox], by rw [childBox]⟩
  -- turned back by the parent's angle, the child's centre is where it was placed
  have back : turnDeg (-(-tp)) centre.1 centre.2 = (u, v) := turnDeg_neg_turnDeg (-tp) u v
  have across : PL + PW / 2 + centre.1 - w / 2 + w / 2 - (PL + PW / 2) = centre.1 := by ring
  have down : PT + PH / 2 + centre.2 - h / 2 + h / 2 - (PT + PH / 2) = centre.2 := by ring
  rw [offsetInParent_eq, parentBox, childBox]
  simp only [across, down, back]
  ext <;> simp only [u, v] <;> ring

theorem rotatedChild_geometry_thirty_sixty :
    1e-6 ≤ |cosDeg 30 ^ 2 - sinDeg 30 ^ 2| ∧ 1e-6 ≤ |cosDeg (30 + 60) ^ 2 - sinDeg (30 + 60) ^ 2| ∧
      let centre := turnDeg (-30) (10 + 30 / 2 - 120 / 2) (20 + 40 / 2 - 80 / 2)
      let child := resolveRotatedBox
        (turnedBoundingBox (0 + 120 / 2 + centre.1 - 30 / 2) (0 + 80 / 2 + centre.2 - 40 / 2) 30 40
          (-(30 + 60))) (30 + 60)
      offsetInParent child (resolveRotatedBox (turnedBoundingBox 0 0 120 80 (-30)) 30) = (10, 20) ∧
        child.width = 30 ∧ child.height = 40 := by
  have parentRegular : (1e-6 : ℝ) ≤ |cosDeg 30 ^ 2 - sinDeg 30 ^ 2| := by
    have sixth : (30 : ℝ) * π / 180 = π / 6 := by ring
    simp only [cosDeg, sinDeg, sixth, Real.cos_pi_div_six, Real.sin_pi_div_six, div_pow,
      Real.sq_sqrt (show (0 : ℝ) ≤ 3 by norm_num)]
    norm_num
  have childRegular : (1e-6 : ℝ) ≤ |cosDeg (30 + 60) ^ 2 - sinDeg (30 + 60) ^ 2| := by
    have quarter : ((30 : ℝ) + 60) * π / 180 = π / 2 := by ring
    simp only [cosDeg, sinDeg, quarter, Real.cos_pi_div_two, Real.sin_pi_div_two]
    norm_num
  exact ⟨parentRegular, childRegular, rotatedChild_geometry_exact 0 0 120 80 30 10 20 30 40 60
    ⟨by norm_num, by norm_num⟩ ⟨by norm_num, by norm_num⟩ parentRegular childRegular⟩

end Handoff
