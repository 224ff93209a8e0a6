/-
Module: Handoff.Scale
Purpose: Snapping a value to the nearest entry of a scale within a percentage threshold,
  the one rule behind spacing, size, radius and font-size rounding and the palette gate.
  The nearest candidate is the first one with the least finite distance; it is accepted
  when the distance is at most the threshold percentage of the reference (a zero
  reference accepts only a zero distance). A goal of zero snaps to zero.
Main exports: nearestBy, withinThreshold, nearestValueWithin, Float.totalKey.
-/
import Handoff.Float.Arith

namespace Handoff

/-- From `start` on: the index and distance of the first candidate with the least finite
distance, compared with the best so far. -/
def nearestFrom {α : Type} (distance : α → Float) :
    Nat → Option (Nat × Float) → List α → Option (Nat × Float)
  | _, best, [] => best
  | i, best, c :: rest =>
      let d := distance c
      let best' :=
        if !d.isFinite then best
        else match best with
          | some (_, bestD) => if d ≥ bestD then best else some (i, d)
          | none => some (i, d)
      nearestFrom distance (i + 1) best' rest

/-- The index and distance of the first candidate at the least finite distance. -/
def nearestBy {α : Type} (candidates : List α) (distance : α → Float) :
    Option (Nat × Float) :=
  nearestFrom distance 0 none candidates

/-- Whether `deviation` is within `thresholdPercent` percent of `reference`. -/
def withinThreshold (deviation reference thresholdPercent : Float) : Bool :=
  if reference == 0.0 then deviation == 0.0
  else deviation.abs / reference.abs * 100.0 ≤ thresholdPercent

/-- The entry of `scale` nearest to `goal` when it is within the threshold; zero for a
goal of zero. -/
def nearestValueWithin (goal : Float) (scale : List Float) (thresholdPercent : Float) :
    Option Float :=
  if goal == 0.0 then some 0.0
  else
    match nearestBy scale (fun e => (e - goal).abs) with
    | some (i, deviation) =>
        if withinThreshold deviation goal thresholdPercent then scale[i]? else none
    | none => none

end Handoff

namespace Float

/-- A key ordering doubles totally: negative NaNs, negative infinity, negative numbers,
negative zero, positive zero, positive numbers, infinity, positive NaNs. -/
def totalKey (x : Float) : Int :=
  let bits := x.toBits.toNat
  let magnitude : Nat := bits % 2 ^ (63 : Nat)
  if bits ≥ 2 ^ (63 : Nat) then -1 - (magnitude : Int) else (magnitude : Int)

end Float
