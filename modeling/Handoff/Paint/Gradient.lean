/-
Module: Handoff.Paint.Gradient
Purpose: Gradients from the tool's paints: the stops in declaration order with offsets
  clamped to `[0, 1]` and the paint opacity folded into each stop, and the geometry from
  the handle points (start, end, width) in normalised node space. A linear gradient's angle
  is the CSS bearing from start to end (0 up, 90 right); a radial one is centred at the
  start with radii to the end and width handles; an angular one starts at the bearing.
  Missing handles fall back to a top-to-bottom line and a centred circle.
Main exports: normalizeGradient, bearingDegrees, gradientStops, defaultHandles.
-/
import Handoff.Design.Raw
import Handoff.Tree.Node

namespace Handoff

/-- Start, end and width handles used when a paint gives fewer than two. -/
def defaultHandles : List RawVector := [⟨0.5, 0.0⟩, ⟨0.5, 1.0⟩, ⟨0.0, 0.0⟩]

/-- The CSS bearing of the direction from one point to another: 0 up, 90 right; 180 when
they coincide. -/
def bearingDegrees (p q : RawVector) : Float :=
  let dx := q.x - p.x
  let dy := q.y - p.y
  if dx == 0.0 && dy == 0.0 then 180.0
  else (Float.atan2 dx (-dy)).toDegrees.remEuclid 360.0

/-- The distance between two points. -/
def handleDistance (p q : RawVector) : Float := Float.hypot (q.x - p.x) (q.y - p.y)

/-- The stops of a paint, in declaration order, with clamped offsets and the paint opacity
folded into each stop's opacity. -/
def gradientStops (paint : RawPaint) : List GradientStop :=
  let opacity := paint.opacity.getD 1.0
  paint.gradientStops.map fun s =>
    ⟨Float.clampTo s.position 0.0 1.0, s.color, s.color.a.toBinary64 * opacity⟩

/-- A gradient from a paint of a gradient type with at least one stop. -/
def normalizeGradient (paint : RawPaint) : Option Gradient :=
  let stops := gradientStops paint
  if stops.isEmpty then none
  else
    let handles := paint.gradientHandlePositions
    let handle (i : Nat) : RawVector := handles.getD i (defaultHandles.getD i ⟨0.0, 0.0⟩)
    let (start, stop, width) :=
      if handles.length ≥ 2 then (handle 0, handle 1, handle 2)
      else (⟨0.5, 0.0⟩, ⟨0.5, 1.0⟩, ⟨0.0, 0.0⟩)
    let middle : RawVector := ⟨0.5, 0.5⟩
    match paint.kind with
    | "GRADIENT_LINEAR" => some (.linear (bearingDegrees start stop) stops)
    | "GRADIENT_RADIAL" | "GRADIENT_DIAMOND" =>
        if handles.length ≥ 3 then
          some (.radial start.x start.y (handleDistance start stop) (handleDistance start width)
            stops)
        else some (.radial middle.x middle.y 0.5 0.5 stops)
    | "GRADIENT_ANGULAR" =>
        if handles.length ≥ 2 then
          some (.angular start.x start.y (bearingDegrees start stop) stops)
        else some (.angular middle.x middle.y 0.0 stops)
    | _ => none

end Handoff
