/-
Module: Handoff.Float.Binary
Purpose: The IEEE 754 binary interchange formats over natural numbers. A bit pattern is
  decoded into a sign, an integer significand and a power of two; an exact nonnegative ratio
  is rounded to the nearest representable value, a tie going to the even significand.
Main exports: BinaryValue, BinaryFormat.binary64, BinaryFormat.binary32,
  BinaryFormat.decode, BinaryFormat.encodeExact, BinaryFormat.roundRatio,
  Float.decode, Float.ofRatio, Float32.decode, Float.toBinary32, Float32.toBinary64.
-/
namespace Handoff

/-- Powers of naturals by the core definition, also beside a library that gives naturals its
own power through a monoid structure. -/
instance (priority := 2000) natPow : Pow Nat Nat := instPowNat

/-- What a bit pattern of a binary format stands for: a finite value
`(-1)^negative * significand * 2^exponent`, an infinity, or not a number. -/
inductive BinaryValue where
  | nan
  | infinite (negative : Bool)
  | finite (negative : Bool) (significand : Nat) (exponent : Int)
  deriving Repr, DecidableEq, Inhabited

/-- A binary interchange format, given by its precision (significand bits, the implicit
leading bit included) and the width of its exponent field. -/
structure BinaryFormat where
  precision : Nat
  exponentBits : Nat
  deriving Repr, DecidableEq

namespace BinaryFormat

/-- The double-precision format. -/
def binary64 : BinaryFormat := ⟨53, 11⟩

/-- The single-precision format. -/
def binary32 : BinaryFormat := ⟨24, 8⟩

/-- Stored fraction bits: the precision less the implicit bit. -/
def fractionBits (fmt : BinaryFormat) : Nat := fmt.precision - 1

/-- The exponent bias. -/
def bias (fmt : BinaryFormat) : Nat := 2 ^ (fmt.exponentBits - 1) - 1

/-- The all-ones exponent field, which marks infinities and NaNs. -/
def maxField (fmt : BinaryFormat) : Nat := 2 ^ fmt.exponentBits - 1

/-- The exponent of the least subnormal unit (`-1074` for binary64). -/
def minExponent (fmt : BinaryFormat) : Int := 1 - (fmt.bias : Int) - fmt.fractionBits

/-- The exponent of the last unit of the largest finite value (`971` for binary64). -/
def maxExponent (fmt : BinaryFormat) : Int :=
  ((fmt.maxField - 1 : Nat) : Int) - fmt.bias - fmt.fractionBits

/-- Position of the sign bit. -/
def signShift (fmt : BinaryFormat) : Nat := fmt.fractionBits + fmt.exponentBits

/-- What a bit pattern denotes. Subnormals and zeros carry the least exponent. -/
def decode (fmt : BinaryFormat) (bits : Nat) : BinaryValue :=
  let fraction := bits % 2 ^ fmt.fractionBits
  let field := (bits / 2 ^ fmt.fractionBits) % 2 ^ fmt.exponentBits
  let negative := (bits / 2 ^ fmt.signShift) % 2 == 1
  if field == fmt.maxField then
    if fraction == 0 then .infinite negative else .nan
  else if field == 0 then
    .finite negative fraction fmt.minExponent
  else
    .finite negative (fraction + 2 ^ fmt.fractionBits) ((field : Int) + fmt.minExponent - 1)

/-- The bit pattern of an infinity. -/
def infinityBits (fmt : BinaryFormat) (negative : Bool) : Nat :=
  (if negative then 2 ^ fmt.signShift else 0) + fmt.maxField * 2 ^ fmt.fractionBits

/-- The bit pattern of the quiet NaN with an empty payload. -/
def nanBits (fmt : BinaryFormat) : Nat :=
  fmt.maxField * 2 ^ fmt.fractionBits + 2 ^ (fmt.fractionBits - 1)

/-- Bits of `significand * 2^exponent` when it is already representable: the significand
is below `2^precision`, and it is normal unless the exponent is the least one. -/
def packFinite (fmt : BinaryFormat) (negative : Bool) (significand : Nat) (exponent : Int) :
    Nat :=
  let sign := if negative then 2 ^ fmt.signShift else 0
  if significand < 2 ^ fmt.fractionBits then
    sign + significand
  else
    sign + (exponent - fmt.minExponent + 1).toNat * 2 ^ fmt.fractionBits
      + (significand - 2 ^ fmt.fractionBits)

/-- The exponent `e` that brings `num / den` into `[2^(precision-1), 2^precision)` once
divided by `2^e`, or the least exponent when the ratio is too small for that. -/
def scaleExponent (fmt : BinaryFormat) (num den : Nat) : Int :=
  let estimate : Int := (num.log2 : Int) - den.log2 - ((fmt.precision : Int) - 1)
  let fits (e : Int) : Bool :=
    num * 2 ^ (-e).toNat < 2 ^ fmt.precision * den * 2 ^ e.toNat
  let above (e : Int) : Bool :=
    2 ^ (fmt.precision - 1) * den * 2 ^ e.toNat ≤ num * 2 ^ (-e).toNat
  let e := if fits estimate then estimate else estimate + 1
  let e := if above e then e else e - 1
  if e < fmt.minExponent then fmt.minExponent else e

/-- Nearest representable bits of `num / den` (`den > 0`), ties to an even significand;
a value beyond the largest finite one becomes an infinity. -/
def roundRatio (fmt : BinaryFormat) (negative : Bool) (num den : Nat) : Nat :=
  if num = 0 then
    if negative then 2 ^ fmt.signShift else 0
  else
    let e := fmt.scaleExponent num den
    let top := num * 2 ^ (-e).toNat
    let bottom := den * 2 ^ e.toNat
    let q := top / bottom
    let r := top % bottom
    let up := 2 * r > bottom || (2 * r == bottom && q % 2 == 1)
    let m := if up then q + 1 else q
    let (m, e) := if m == 2 ^ fmt.precision then (m / 2, e + 1) else (m, e)
    if e > fmt.maxExponent then fmt.infinityBits negative
    else fmt.packFinite negative m e

/-- The exact value of a finite decoded number as a ratio of naturals. -/
def ratioOf (significand : Nat) (exponent : Int) : Nat × Nat :=
  (significand * 2 ^ exponent.toNat, 2 ^ (-exponent).toNat)

/-- Bits of a decoded value in this format, rounding a finite value that does not fit. -/
def encodeValue (fmt : BinaryFormat) : BinaryValue → Nat
  | .nan => fmt.nanBits
  | .infinite negative => fmt.infinityBits negative
  | .finite negative significand exponent =>
      let (num, den) := ratioOf significand exponent
      fmt.roundRatio negative num den

/-- Bits of a decoded value that the format holds exactly. -/
def encodeExact (fmt : BinaryFormat) (v : BinaryValue) : Nat := fmt.encodeValue v

end BinaryFormat

end Handoff

namespace Float

open Handoff

/-- The value a double stands for. -/
def decode (x : Float) : BinaryValue := BinaryFormat.binary64.decode x.toBits.toNat

/-- The double nearest to `num / den`, negated when asked, ties to even. -/
def ofRatio (negative : Bool) (num den : Nat) : Float :=
  Float.ofBits (BinaryFormat.binary64.roundRatio negative num den).toUInt64

/-- The double nearest to a natural number. -/
def ofNatNearest (n : Nat) : Float := ofRatio false n 1

/-- The double nearest to an integer. -/
def ofIntNearest (n : Int) : Float := ofRatio (n < 0) n.natAbs 1

/-- The single nearest to a double, ties to even, overflow to infinity. -/
def toBinary32 (x : Float) : Float32 :=
  Float32.ofBits (BinaryFormat.binary32.encodeValue x.decode).toUInt32

/-- Whether the sign bit is set (also for zeros and NaNs). -/
def signBit (x : Float) : Bool := x.toBits.toNat / 2 ^ (63 : Nat) % 2 == 1

end Float

namespace Float32

open Handoff

/-- The value a single stands for. -/
def decode (x : Float32) : BinaryValue := BinaryFormat.binary32.decode x.toBits.toNat

/-- The same value as a double; every single is a double. -/
def toBinary64 (x : Float32) : Float :=
  Float.ofBits (BinaryFormat.binary64.encodeValue x.decode).toUInt64

/-- The single nearest to a natural number. -/
def ofNatNearest (n : Nat) : Float32 :=
  Float32.ofBits (BinaryFormat.binary32.roundRatio false n 1).toUInt32

/-- The single nearest to an integer. -/
def ofIntNearest (n : Int) : Float32 :=
  Float32.ofBits (BinaryFormat.binary32.roundRatio (n < 0) n.natAbs 1).toUInt32

end Float32
