/-
Module: Handoff.Layout.Rotation
Purpose: Recovering a node's un-rotated box from the axis-aligned box around it and its
  angle. A `W × H` box turned by θ has the bounding box `W|cos θ| + H|sin θ|` by
  `W|sin θ| + H|cos θ|`; solving that linear system gives `W` and `H` back, except where
  `cos²θ = sin²θ` (odd multiples of 45°), where the bounding box itself is the answer. The
  box's top-left follows from where the turned corners reach furthest up and left. Sine
  and cosine are exact at multiples of 90°.
  The engine is written once over `GeometryArith`, the few operations it uses: the pass runs
  it in doubles, and the same definitions read in another arithmetic (the reals, with exact
  sine and cosine) compute the geometry they are meant to.
Main exports: GeometryArith, ResolvedBox, sinCosDegrees, resolveRotatedBox, offsetInParent,
  singularEpsilon.
-/
import Handoff.Design.Raw

namespace Handoff

/-- The arithmetic the geometry engine computes in: the field operations and order, and the
few functions it calls. -/
class GeometryArith (α : Type) extends Add α, Sub α, Mul α, Div α, Neg α, LT α, OfScientific α where
  decLt : ∀ a b : α, Decidable (a < b)
  abs : α → α
  /-- The value when it is above zero, zero otherwise. -/
  atLeastZero : α → α
  /-- A first candidate for a least coordinate, against none yet. Doubles compare it with +∞,
  so a NaN gives +∞. -/
  belowTop : α → α
  /-- Sine and cosine of an angle in degrees. -/
  sinCosDegrees : α → α × α

instance GeometryArith.instDecidableLt {α : Type} [GeometryArith α] (a b : α) :
    Decidable (a < b) :=
  GeometryArith.decLt a b

/-- Below this `|cos²θ − sin²θ|` the system counts as singular. -/
def singularEpsilon {α : Type} [OfScientific α] : α := 1e-6

/-- A node's un-rotated box in the space of its bounding box. -/
structure ResolvedBox (α : Type) where
  width : α
  height : α
  left : α
  top : α
  /-- Clockwise positive. -/
  rotationDegrees : α
  /-- The angle was singular and the bounding box size was kept. -/
  singular : Bool

/-- Sine and cosine of an angle in degrees, exact at multiples of 90°. -/
def sinCosDegrees (degrees : Float) : Float × Float :=
  let normalized := degrees.remEuclid 360.0
  if normalized.remainder 90.0 == 0.0 then
    match (normalized / 90.0).toNatClamped 32 % 4 with
    | 0 => (0.0, 1.0)
    | 1 => (1.0, 0.0)
    | 2 => (0.0, -1.0)
    | _ => (-1.0, 0.0)
  else
    let r := degrees.toRadians
    (Float.sin r, Float.cos r)

instance : GeometryArith Float where
  decLt := Float.decLt
  abs := Float.abs
  atLeastZero := Float.atLeastZero
  belowTop v := if v < Float.infinity then v else Float.infinity
  sinCosDegrees := sinCosDegrees

/-- A point of the plane. -/
structure Point (α : Type) where
  x : α
  y : α

namespace Point

variable {α : Type} [GeometryArith α]

/-- Componentwise difference. -/
def sub (p q : Point α) : Point α := ⟨p.x - q.x, p.y - q.y⟩

/-- Componentwise sum. -/
def add (p q : Point α) : Point α := ⟨p.x + q.x, p.y + q.y⟩

/-- `v` turned by the unit vector `(cos, sin)` given as `r`. -/
def turn (r v : Point α) : Point α := ⟨r.x * v.x - r.y * v.y, r.y * v.x + r.x * v.y⟩

/-- The componentwise smaller of an accumulated point and a new one: the new coordinate
replaces the old only when strictly smaller (a NaN never does). -/
def lower (acc p : Point α) : Point α :=
  ⟨if p.x < acc.x then p.x else acc.x, if p.y < acc.y then p.y else acc.y⟩

/-- A first point against none yet: the least so far is `(+∞, +∞)` before any. -/
def belowTop (p : Point α) : Point α := ⟨GeometryArith.belowTop p.x, GeometryArith.belowTop p.y⟩

end Point

variable {α : Type} [GeometryArith α]

/-- The un-rotated box of a node from its bounding box and its angle in the tool's
convention (counter-clockwise positive). -/
def resolveRotatedBox (bounds : Rect α) (designAngle : α) : ResolvedBox α :=
  let cssAngle := -designAngle
  let (sin, cos) := GeometryArith.sinCosDegrees cssAngle
  let s := GeometryArith.abs sin
  let c := GeometryArith.abs cos
  let det := c * c - s * s
  let (width, height, singular) :=
    if GeometryArith.abs det < singularEpsilon then (bounds.width, bounds.height, true)
    else
      let w := (bounds.width * c - bounds.height * s) / det
      let h := (bounds.height * c - bounds.width * s) / det
      (GeometryArith.atLeastZero w, GeometryArith.atLeastZero h, false)
  let center : Point α := ⟨width / 2.0, height / 2.0⟩
  let rotation : Point α := ⟨cos, sin⟩
  let turned (corner : Point α) : Point α := (rotation.turn (corner.sub center)).add center
  -- the least of the four turned corners, the first against none yet
  let least : Point α :=
    [⟨width, 0.0⟩, ⟨0.0, height⟩, ⟨width, height⟩].foldl
      (fun (acc : Point α) (corner : Point α) => acc.lower (turned corner))
      (turned ⟨0.0, 0.0⟩).belowTop
  { width, height, left := bounds.x - least.x, top := bounds.y - least.y,
    rotationDegrees := cssAngle, singular }

/-- The un-rotated top-left of `child` in the frame of `parent`, both resolved in absolute
space: the child's centre is turned back about the parent's centre by the parent's angle. -/
def offsetInParent (child parent : ResolvedBox α) : α × α :=
  let (sin, cos) := GeometryArith.sinCosDegrees parent.rotationDegrees
  let parentHalf : Point α := ⟨parent.width / 2.0, parent.height / 2.0⟩
  let childHalf : Point α := ⟨child.width / 2.0, child.height / 2.0⟩
  let delta :=
    (Point.add ⟨child.left, child.top⟩ childHalf).sub
      (Point.add ⟨parent.left, parent.top⟩ parentHalf)
  let local_ := ((Point.turn ⟨cos, -sin⟩ delta).add parentHalf).sub childHalf
  (local_.x, local_.y)

end Handoff
