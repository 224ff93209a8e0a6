/-
Module: Handoff.Color
Purpose: Colours with single-precision components in `[0, 1]` (not enforced), their
  8-bit quantisation and hexadecimal spellings, opacity folding and distance. A channel is
  quantised by clamping to `[0, 1]`, scaling by 255 in single precision, rounding half
  away from zero and saturating; a hexadecimal colour is written with lowercase digits,
  with the alpha pair only when alpha does not quantise to 255.
Main exports: Color, Color.ofHex, Color.toRgba8, Color.toHex, Color.toHexRgb,
  Color.withOpacity, Color.rgbDistance, Color.isOpaque, hexPair, hexPairCased.
-/
import Handoff.Float.Arith

namespace Handoff

/-- A colour: red, green, blue and alpha, nominally in `[0, 1]`. -/
structure Color where
  r : Float32
  g : Float32
  b : Float32
  a : Float32

/-- Two hexadecimal digits of a byte, uppercase when asked. -/
def hexPairCased (upper : Bool) (n : Nat) : String :=
  let digit (d : Nat) : Char :=
    if d < 10 then Char.ofNat (48 + d) else Char.ofNat ((if upper then 55 else 87) + d)
  String.ofList [digit (n / 16 % 16), digit (n % 16)]

/-- Two lowercase hexadecimal digits of a byte. -/
def hexPair (n : Nat) : String := hexPairCased false n

/-- The value of a hexadecimal digit. -/
def hexDigitValue (c : Char) : Option Nat :=
  if '0' ≤ c && c ≤ '9' then some (c.toNat - 48)
  else if 'a' ≤ c && c ≤ 'f' then some (c.toNat - 87)
  else if 'A' ≤ c && c ≤ 'F' then some (c.toNat - 55)
  else none

/-- A byte written as two hexadecimal characters, where a leading plus sign may stand for
a missing high digit. -/
def byteOfHexPair : List Char → Option Nat
  | ['+', d] => hexDigitValue d
  | [h, d] => do
      let hi ← hexDigitValue h
      let lo ← hexDigitValue d
      return hi * 16 + lo
  | _ => none

namespace Color

/-- A colour from its components. -/
def rgba (r g b a : Float32) : Color := ⟨r, g, b, a⟩

/-- Opaque black. -/
def black : Color := ⟨0.0, 0.0, 0.0, 1.0⟩

/-- Opaque white. -/
def white : Color := ⟨1.0, 1.0, 1.0, 1.0⟩

/-- Transparent black. -/
def transparent : Color := ⟨0.0, 0.0, 0.0, 0.0⟩

/-- A channel from a byte: the byte over 255 in single precision. -/
def channelOfByte (n : Nat) : Float32 := Float32.ofNatNearest n / 255.0

/-- An opaque colour from three bytes. -/
def ofRgb8 (r g b : Nat) : Color := ⟨channelOfByte r, channelOfByte g, channelOfByte b, 1.0⟩

/-- A colour from six or eight hexadecimal digits after any number of `#`; other texts
(other lengths, characters that are not ASCII, pairs that are not hexadecimal) give
nothing. -/
def ofHex (text : String) : Option Color :=
  let digits := text.toList.dropWhile (· == '#')
  if !digits.all (fun c => c.toNat < 128) then none
  else
    let pair (i : Nat) : Option Nat := byteOfHexPair ((digits.drop i).take 2)
    match digits.length with
    | 6 => do
        let r ← pair 0
        let g ← pair 2
        let b ← pair 4
        return ofRgb8 r g b
    | 8 => do
        let r ← pair 0
        let g ← pair 2
        let b ← pair 4
        let a ← pair 6
        return { ofRgb8 r g b with a := channelOfByte a }
    | _ => none

/-- A channel as a byte: clamped to `[0, 1]`, scaled by 255, rounded half away from zero,
saturated. -/
def quantize (c : Float32) : Nat :=
  (Float32.roundHalfAway (Float32.clampTo c 0.0 1.0 * 255.0)).toNatClamped 8

/-- The four channels as bytes. -/
def toRgba8 (c : Color) : Nat × Nat × Nat × Nat :=
  (quantize c.r, quantize c.g, quantize c.b, quantize c.a)

/-- `#rrggbb` when alpha quantises to 255, `#rrggbbaa` otherwise. -/
def toHex (c : Color) : String :=
  let (r, g, b, a) := c.toRgba8
  if a == 255 then "#" ++ hexPair r ++ hexPair g ++ hexPair b
  else "#" ++ hexPair r ++ hexPair g ++ hexPair b ++ hexPair a

/-- `#rrggbb`, alpha ignored. -/
def toHexRgb (c : Color) : String :=
  let (r, g, b, _) := c.toRgba8
  "#" ++ hexPair r ++ hexPair g ++ hexPair b

/-- The colour with alpha multiplied, in double precision, by the opacity clamped to
`[0, 1]`, then rounded to single. -/
def withOpacity (c : Color) (opacity : Float) : Color :=
  { c with a := (c.a.toBinary64 * Float.clampTo opacity 0.0 1.0).toBinary32 }

/-- Euclidean distance of the red, green and blue channels; the differences are taken in
single precision and the rest in double. -/
def rgbDistance (c d : Color) : Float :=
  let dr := (c.r - d.r).toBinary64
  let dg := (c.g - d.g).toBinary64
  let db := (c.b - d.b).toBinary64
  Float.sqrt (dr * dr + dg * dg + db * db)

/-- Whether alpha quantises to 255. -/
def isOpaque (c : Color) : Bool := c.toRgba8.2.2.2 == 255

/-- Equality of the four channels as numbers (NaN equals nothing). -/
def same (c d : Color) : Bool := c.r == d.r && c.g == d.g && c.b == d.b && c.a == d.a

end Color

end Handoff
