/-
Module: Handoff.Float.Decimal
Purpose: Decimal text of doubles. The shortest digits that read back to the same double
  are found on successive decimal grids in exact natural arithmetic (of two candidates the
  nearer, an exact tie to the even digit). Three layouts use them or the exact value:
  the data layout (positional from 1e-5 up to 1e16, an exponent beyond, ".0" on whole
  numbers), the plain layout (always positional, no ".0") and fixed places (exact value,
  half to even).
Main exports: DecimalDigits, shortestDigits, Float.dataText, Float.plainText,
  Float.fixedText.
-/
import Handoff.Float.Binary

namespace Handoff

/-- A decimal `digits * 10^exponent`. -/
structure DecimalDigits where
  digits : Nat
  exponent : Int
  deriving Repr, DecidableEq

namespace DecimalDigits

/-- Whether `10^e ≤ num / den`. -/
def tenPowLe (e : Int) (num den : Nat) : Bool :=
  10 ^ e.toNat * den ≤ num * 10 ^ (-e).toNat

/-- Moves an estimate of the decimal exponent to the exact one, one step at a time. -/
def settleExponent : Nat → Int → Nat → Nat → Int
  | 0, e, _, _ => e
  | fuel + 1, e, num, den =>
      if !tenPowLe e num den then settleExponent fuel (e - 1) num den
      else if tenPowLe (e + 1) num den then settleExponent fuel (e + 1) num den
      else e

/-- The `E` with `10^E ≤ num / den < 10^(E+1)`, for positive `num` and `den`. -/
def decimalExponent (num den : Nat) : Int :=
  let estimate : Int := ((num.log2 : Int) - den.log2) * 30103 / 100000
  settleExponent 8 estimate num den

/-- Drops trailing zero digits into the exponent. -/
def normalize : Nat → DecimalDigits → DecimalDigits
  | 0, d => d
  | fuel + 1, d =>
      if d.digits != 0 && d.digits % 10 == 0 then
        normalize fuel ⟨d.digits / 10, d.exponent + 1⟩
      else d

/-- Number of decimal digits of a positive natural. -/
def digitCount (n : Nat) : Nat := (Nat.repr n).length

end DecimalDigits

/-- The rounding interval of a positive double `m * 2^e` in units of `2^(e-2)`:
the value, its lower and upper ends, and whether the ends read back to it (even `m`). -/
structure RoundingInterval where
  value : Nat
  low : Nat
  high : Nat
  closed : Bool
  shift : Int

/-- The interval of reals that read back to the positive double `m * 2^e`. The gap below
is halved at a power of two, except at the least exponent. -/
def RoundingInterval.ofBinary64 (m : Nat) (e : Int) : RoundingInterval :=
  let tight := m == 2 ^ (52 : Nat) && e > BinaryFormat.binary64.minExponent
  { value := 4 * m
    low := if tight then 4 * m - 1 else 4 * m - 2
    high := 4 * m + 2
    closed := m % 2 == 0
    shift := e - 2 }

namespace RoundingInterval

/-- `c * 10^k` in the interval's units, scaled by a common factor. -/
def decimalSide (i : RoundingInterval) (c : Nat) (k : Int) : Nat :=
  c * 10 ^ k.toNat * 2 ^ (-i.shift).toNat

/-- A count of interval units, scaled by the same common factor. -/
def unitSide (i : RoundingInterval) (x : Nat) (k : Int) : Nat :=
  x * 2 ^ i.shift.toNat * 10 ^ (-k).toNat

/-- Whether `c * 10^k` reads back to the value. -/
def contains (i : RoundingInterval) (c : Nat) (k : Int) : Bool :=
  let a := i.decimalSide c k
  if i.closed then i.unitSide i.low k ≤ a && a ≤ i.unitSide i.high k
  else i.unitSide i.low k < a && a < i.unitSide i.high k

/-- The value's two neighbours on the grid `10^k`, and the value itself over the grid:
`(floor, numerator, denominator)`. -/
def onGrid (i : RoundingInterval) (k : Int) : Nat × Nat × Nat :=
  let num := i.value * 2 ^ i.shift.toNat * 10 ^ (-k).toNat
  let den := 2 ^ (-i.shift).toNat * 10 ^ k.toNat
  (num / den, num, den)

/-- The best candidate on the grid `10^k`, if one reads back. -/
def pick (i : RoundingInterval) (k : Int) : Option Nat :=
  let (below, num, den) := i.onGrid k
  if num % den == 0 then some below
  else
    let above := below + 1
    match i.contains below k, i.contains above k with
    | true, true =>
        let dBelow := num - below * den
        let dAbove := above * den - num
        if dBelow < dAbove then some below
        else if dAbove < dBelow then some above
        else if below % 2 == 0 then some below else some above
    | true, false => some below
    | false, true => some above
    | false, false => none

/-- Tries grids of `n, n+1, ...` significant digits below the decimal exponent `top`. -/
def search (i : RoundingInterval) (top : Int) : Nat → Nat → Option DecimalDigits
  | 0, _ => none
  | fuel + 1, n =>
      let k := top - n + 1
      match i.pick k with
      | some c => some ⟨c, k⟩
      | none => search i top fuel (n + 1)

end RoundingInterval

/-- The shortest decimal that reads back to the positive double `m * 2^e`, nearest of
those, ties to the even last digit; trailing zeros are moved into the exponent. -/
def shortestDigits (m : Nat) (e : Int) : DecimalDigits :=
  let i := RoundingInterval.ofBinary64 m e
  let top := DecimalDigits.decimalExponent (m * 2 ^ e.toNat) (2 ^ (-e).toNat)
  let found := (i.search top 17 1).getD ⟨m * 2 ^ e.toNat, 0⟩
  DecimalDigits.normalize 400 found

/-- `n` zero digits. -/
def zeroDigits (n : Nat) : String := String.ofList (List.replicate n '0')

/-- Signed decimal text of an integer exponent. -/
def exponentText (e : Int) : String :=
  if e < 0 then "-" ++ Nat.repr e.natAbs else Nat.repr e.natAbs

/-- The data layout of shortest digits: positional when the decimal point falls from
five places left of the digits to sixteen places right of the first, with ".0" on a
whole number; otherwise one digit, an optional fraction and an exponent. -/
def DecimalDigits.dataLayout (d : DecimalDigits) : String :=
  let s := Nat.repr d.digits
  let length : Int := s.length
  let k := d.exponent
  let kk := length + k
  if 0 ≤ k && kk ≤ 16 then
    s ++ zeroDigits k.toNat ++ ".0"
  else if 0 < kk && kk ≤ 16 then
    String.ofList (s.toList.take kk.toNat) ++ "." ++ String.ofList (s.toList.drop kk.toNat)
  else if -5 < kk && kk ≤ 0 then
    "0." ++ zeroDigits (-kk).toNat ++ s
  else if length == 1 then
    s ++ "e" ++ exponentText (kk - 1)
  else
    String.ofList (s.toList.take 1) ++ "." ++ String.ofList (s.toList.drop 1) ++ "e"
      ++ exponentText (kk - 1)

/-- The plain layout of shortest digits: always positional, no fraction on whole numbers. -/
def DecimalDigits.plainLayout (d : DecimalDigits) : String :=
  let s := Nat.repr d.digits
  let length : Int := s.length
  let kk := length + d.exponent
  if kk ≤ 0 then
    "0." ++ zeroDigits (-kk).toNat ++ s
  else if kk < length then
    String.ofList (s.toList.take kk.toNat) ++ "." ++ String.ofList (s.toList.drop kk.toNat)
  else
    s ++ zeroDigits (kk - length).toNat

/-- Rounds `num / den` to an integer, half to even. -/
def roundHalfEven (num den : Nat) : Nat :=
  let q := num / den
  let r := num % den
  if 2 * r > den || (2 * r == den && q % 2 == 1) then q + 1 else q

/-- Decimal text of `n / 10^places` with exactly `places` fraction digits. -/
def placesText (n places : Nat) : String :=
  if places == 0 then Nat.repr n
  else
    let whole := n / 10 ^ places
    let frac := Nat.repr (n % 10 ^ places)
    Nat.repr whole ++ "." ++ zeroDigits (places - frac.length) ++ frac

end Handoff

namespace Float

open Handoff

/-- Data text of a double: the shortest digits in the data layout, "-0.0" for negative
zero; "NaN", "inf" and "-inf" otherwise. -/
def dataText (x : Float) : String :=
  match x.decode with
  | .nan => "NaN"
  | .infinite negative => if negative then "-inf" else "inf"
  | .finite negative m e =>
      let sign := if negative then "-" else ""
      if m == 0 then sign ++ "0.0" else sign ++ (shortestDigits m e).dataLayout

/-- Plain text of a double: the shortest digits, never an exponent, "-0" for negative
zero; "NaN", "inf" and "-inf" otherwise. -/
def plainText (x : Float) : String :=
  match x.decode with
  | .nan => "NaN"
  | .infinite negative => if negative then "-inf" else "inf"
  | .finite negative m e =>
      let sign := if negative then "-" else ""
      if m == 0 then sign ++ "0" else sign ++ (shortestDigits m e).plainLayout

/-- The exact value of a double rounded to `places` fraction digits, half to even, with the
sign of the double kept even when the digits are all zero. -/
def fixedText (x : Float) (places : Nat) : String :=
  match x.decode with
  | .nan => "NaN"
  | .infinite negative => if negative then "-inf" else "inf"
  | .finite negative m e =>
      let sign := if negative then "-" else ""
      let n := roundHalfEven (m * 2 ^ e.toNat * 10 ^ places) (2 ^ (-e).toNat)
      sign ++ placesText n places

end Float
