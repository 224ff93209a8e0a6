/-
Module: Handoff.Float.Parse
Purpose: Reading a double from decimal text. The text is an optional sign followed by
  `inf`, `infinity` or `nan` in any case, or by digits with at most one decimal point (at
  least one digit in all) and an optional exponent (`e` or `E`, an optional sign, at least one
  digit). The value is the double nearest to the exact decimal, ties to even; beyond the
  largest double it is an infinity, and the sign of zero is kept.
Main exports: Float.ofDecimalText?.
-/
import Handoff.Float.Arith

namespace Handoff

/-- The parts of a decimal number: its digits as a natural, the number of digits, and the
power of ten they are scaled by. -/
structure DecimalParts where
  digits : Nat
  count : Nat
  scale : Int

/-- Digits at the front of a text, as a value and a count, and the rest. -/
def leadingDigits : List Char → Nat × Nat × List Char
  | c :: rest =>
      if c.isDigit then
        let (v, n, r) := leadingDigits rest
        (v + (c.toNat - 48) * 10 ^ n, n + 1, r)
      else (0, 0, c :: rest)
  | [] => (0, 0, [])

/-- An exponent: an optional sign and at least one digit, with nothing after. -/
def exponentOf : List Char → Option Int
  | '+' :: rest => exponentOf' rest
  | '-' :: rest => (exponentOf' rest).map (- ·)
  | rest => exponentOf' rest
where
  /-- Digits and nothing after. -/
  exponentOf' (cs : List Char) : Option Int :=
    match leadingDigits cs with
    | (v, n, []) => if n > 0 then some (Int.ofNat v) else none
    | _ => none

/-- The parts of an unsigned decimal number, if the text is one. -/
def decimalParts (cs : List Char) : Option DecimalParts :=
  let (whole, wholeCount, rest) := leadingDigits cs
  let (frac, fracCount, rest) :=
    match rest with
    | '.' :: after => leadingDigits after
    | _ => (0, 0, rest)
  let pointless := match cs.drop wholeCount with
    | '.' :: _ => false
    | _ => true
  let rest := if pointless then cs.drop wholeCount else rest
  if wholeCount + fracCount == 0 then none
  else
    let exponent :=
      match rest with
      | [] => some 0
      | c :: more => if c == 'e' || c == 'E' then exponentOf more else none
    exponent.map fun e =>
      ⟨whole * 10 ^ fracCount + frac, wholeCount + fracCount, e - fracCount⟩

/-- The double nearest to a decimal number, negated when asked. -/
def DecimalParts.toFloat (p : DecimalParts) (negative : Bool) : Float :=
  let zero := if negative then -0.0 else 0.0
  if p.digits == 0 then zero
  else if p.scale > 400 then (if negative then -Float.infinity else Float.infinity)
  else if p.scale + p.count < -400 then zero
  else if p.scale ≥ 0 then Float.ofRatio negative (p.digits * 10 ^ p.scale.toNat) 1
  else Float.ofRatio negative p.digits (10 ^ (-p.scale).toNat)

/-- Whether two texts are equal ignoring ASCII case. -/
def sameWordIgnoringCase (a b : List Char) : Bool :=
  a.length == b.length && (a.zip b).all fun (x, y) => x.toLower == y.toLower

/-- The double a decimal text stands for, if it is one. -/
def Float.ofDecimalText? (s : String) : Option Float :=
  let (negative, body) :=
    match s.toList with
    | '+' :: rest => (false, rest)
    | '-' :: rest => (true, rest)
    | rest => (false, rest)
  if sameWordIgnoringCase body "inf".toList || sameWordIgnoringCase body "infinity".toList then
    some (if negative then -Float.infinity else Float.infinity)
  else if sameWordIgnoringCase body "nan".toList then some Float.quietNaN
  else (decimalParts body).map (·.toFloat negative)

end Handoff
