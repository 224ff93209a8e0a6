/-
Module: Handoff.Float.Arith
Purpose: Float operations whose rule is fixed bit for bit and which core leaves opaque or
  does not offer: rounding half away from zero, the truncated remainder, the Euclidean
  remainder, saturating conversion to a bounded natural, clamping, the hypotenuse,
  and the degree/radian scalings.
Main exports: BinaryFormat.roundHalfAwayBits, Float.roundHalfAway, Float32.roundHalfAway,
  Float.remainder, Float.remEuclid, Float.toNatClamped, Float.clampTo, Float.atLeastZero,
  Float.hypot, Float.toRadians, Float.toDegrees, Float.piNearest.
-/
import Handoff.Float.Binary

namespace Handoff

namespace BinaryFormat

/-- Bits of the integer nearest to a value, a half going away from zero; the sign of a
value that rounds to zero is kept. -/
def roundHalfAwayBits (fmt : BinaryFormat) (bits : Nat) : Nat :=
  match fmt.decode bits with
  | .finite negative m e =>
      if 0 ≤ e then bits
      else
        let d := 2 ^ (-e).toNat
        let q := m / d
        let q := if 2 * (m % d) ≥ d then q + 1 else q
        fmt.roundRatio negative q 1
  | _ => bits

end BinaryFormat

/-- The double with the given bit pattern. -/
def doubleOfBits (bits : Nat) : Float := Float.ofBits bits.toUInt64

end Handoff

namespace Float

open Handoff

/-- The quiet NaN. -/
def quietNaN : Float := doubleOfBits BinaryFormat.binary64.nanBits

/-- Positive infinity. -/
def infinity : Float := doubleOfBits (BinaryFormat.binary64.infinityBits false)

/-- The double nearest to pi. -/
def piNearest : Float := doubleOfBits 0x400921FB54442D18

/-- The gap between one and the next double. -/
def machineEpsilon : Float := doubleOfBits 0x3CB0000000000000

/-- The integer nearest to `x`, a half going away from zero. -/
def roundHalfAway (x : Float) : Float :=
  doubleOfBits (BinaryFormat.binary64.roundHalfAwayBits x.toBits.toNat)

/-- The remainder of `x` after truncated division by `y`, exact, with the sign of `x`;
NaN when `y` is zero or `x` is not finite, and `x` itself when `y` is infinite. -/
def remainder (x y : Float) : Float :=
  match x.decode, y.decode with
  | .finite nx mx ex, .finite _ my ey =>
      if my == 0 then quietNaN
      else if mx == 0 then x
      else
        let e := min ex ey
        let xs := mx * 2 ^ (ex - e).toNat
        let ys := my * 2 ^ (ey - e).toNat
        let (num, den) := BinaryFormat.ratioOf (xs % ys) e
        ofRatio nx num den
  | .finite _ _ _, .infinite _ => x
  | _, _ => quietNaN

/-- The remainder of `x` by `y` moved into `[0, |y|)`: a negative truncated remainder gets
`|y|` added. -/
def remEuclid (x y : Float) : Float :=
  let r := x.remainder y
  if r < 0.0 then r + y.abs else r

/-- `x` truncated toward zero and clamped to `[0, 2^width - 1]`; NaN gives zero. -/
def toNatClamped (x : Float) (width : Nat) : Nat :=
  match x.decode with
  | .finite true _ _ => 0
  | .finite false m e =>
      let n := if 0 ≤ e then m * 2 ^ e.toNat else m / 2 ^ (-e).toNat
      min n (2 ^ width - 1)
  | .infinite negative => if negative then 0 else 2 ^ width - 1
  | .nan => 0

/-- `x` raised to `low` when below it and lowered to `high` when above it; NaN stays. -/
def clampTo (x low high : Float) : Float :=
  let x := if x < low then low else x
  if x > high then high else x

/-- `x` when it is above zero, positive zero otherwise (also for NaN and negative zero). -/
def atLeastZero (x : Float) : Float := if x > 0.0 then x else 0.0

/-- Degrees to radians: one product with the double nearest to pi over 180. -/
def toRadians (x : Float) : Float := x * (piNearest / 180.0)

/-- Radians to degrees: one product with the quotient of 180 by the double nearest to pi. -/
def toDegrees (x : Float) : Float := x * (180.0 / piNearest)

/-- A power of two as a double, for exponents of normal doubles. -/
def twoPow (e : Int) : Float :=
  doubleOfBits ((e + 1023).toNat * 2 ^ (52 : Nat))

/-- The hypotenuse of `ax ≥ ay ≥ 0` whose squares neither overflow nor underflow: the
rounded root of the rounded sum of squares, then one correction step that subtracts the
error of that root, computed from the exact residual of the squares. -/
def hypotCorrected (ax ay : Float) : Float :=
  let h := Float.sqrt (ax * ax + ay * ay)
  let (t1, t2) :=
    if h ≤ 2.0 * ay then
      let delta := h - ay
      (ax * (2.0 * delta - ax), (delta - 2.0 * (ax - ay)) * delta)
    else
      let delta := h - ax
      (2.0 * delta * (ax - 2.0 * ay), (4.0 * delta - ay) * ay + delta * delta)
  h - (t1 + t2) / (2.0 * h)

/-- `sqrt(x*x + y*y)`: infinite when either side is, NaN when either is NaN and neither
is infinite; the larger side alone when the smaller is below its last bit; otherwise the
corrected root, with both sides scaled by `2^600` first when they are very large or very
small. -/
def hypot (x y : Float) : Float :=
  if !x.isFinite || !y.isFinite then
    if x.isInf || y.isInf then infinity else x + y
  else
    let x := x.abs
    let y := y.abs
    let ax := if x < y then y else x
    let ay := if x < y then x else y
    let scale := twoPow (-600)
    let eps := twoPow (-54)
    if ax > twoPow 511 then
      if ay ≤ ax * eps then ax + ay
      else hypotCorrected (ax * scale) (ay * scale) / scale
    else if ay < twoPow (-511) then
      if ax ≥ ay / eps then ax + ay
      else hypotCorrected (ax / scale) (ay / scale) * scale
    else if ay ≤ ax * eps then ax + ay
    else hypotCorrected ax ay

end Float

namespace Float32

open Handoff

/-- The integer nearest to `x`, a half going away from zero. -/
def roundHalfAway (x : Float32) : Float32 :=
  Float32.ofBits (BinaryFormat.binary32.roundHalfAwayBits x.toBits.toNat).toUInt32

/-- `x` raised to `low` when below it and lowered to `high` when above it; NaN stays. -/
def clampTo (x low high : Float32) : Float32 :=
  let x := if x < low then low else x
  if x > high then high else x

/-- `x` truncated toward zero and clamped to `[0, 2^width - 1]`; NaN gives zero. -/
def toNatClamped (x : Float32) (width : Nat) : Nat := x.toBinary64.toNatClamped width

end Float32
