/-
Module: Handoff.Json.Lexeme
Purpose: Reading the leaves of JSON text: strings and numbers, and skipping them.
  A string takes the escapes of JSON; a leading surrogate escape must be followed by a
  trailing one, and a control character may not appear raw. A number is a natural while
  it fits 64 bits, a negative integer while it fits 64 bits signed, and a double
  otherwise: its digits give a significand of at most 64 bits (later digits only move the
  exponent), which is rounded to a double and scaled by the power of ten, one product or
  quotient with a correctly rounded power (and quotients by 1e308 for very small ones);
  a result beyond the doubles is out of range.
Main exports: Json.Reader.readStringBody, Json.Reader.skipStringBody, Json.Reader.readNumber,
  Json.Reader.skipNumber, Json.powerOfTen.
-/
import Handoff.Json.Cursor
import Handoff.Json.Value

namespace Handoff.Json

/-- Whether a byte is an ASCII digit. -/
def isDigitByte (b : UInt8) : Bool := 48 ≤ b && b ≤ 57

/-- The value of a hexadecimal digit byte. -/
def hexValue (b : UInt8) : Option Nat :=
  if 48 ≤ b && b ≤ 57 then some (b - 48).toNat
  else if 97 ≤ b && b ≤ 102 then some (b - 87).toNat
  else if 65 ≤ b && b ≤ 70 then some (b - 55).toNat
  else none

/-- Whether appending `digit` to `significand` would pass `2^64 - 1`. -/
def overflows64 (significand digit : Nat) : Bool :=
  significand ≥ 1844674407370955161 && (significand > 1844674407370955161 || digit > 5)

/-- Whether appending `digit` to `e` would pass `2^31 - 1`. -/
def overflows32 (e digit : Nat) : Bool :=
  e ≥ 214748364 && (e > 214748364 || digit > 7)

/-- The double nearest to `10^k`. -/
def powerOfTen (k : Nat) : Float := Float.ofRatio false (10 ^ k) 1

/-- An integer clamped to the 32-bit signed range. -/
def clamp32 (e : Int) : Int :=
  if e > 2147483647 then 2147483647 else if e < -2147483648 then -2147483648 else e

namespace Cursor

/-- Takes digits into a significand while the next one would not overflow 64 bits;
returns the significand, the digits taken, whether a digit was left for overflowing, and
the cursor. -/
def takeDigits (c : Cursor) (significand count : Nat) : Nat × Nat × Bool × Cursor :=
  if h : c.index < c.bytes.size then
    let b := c.bytes[c.index]
    if isDigitByte b then
      let d := (b - 48).toNat
      if overflows64 significand d then (significand, count, true, c)
      else takeDigits { c with index := c.index + 1 } (significand * 10 + d) (count + 1)
    else (significand, count, false, c)
  else (significand, count, false, c)
termination_by c.bytes.size - c.index

/-- Takes exponent digits, each consumed before the overflow check; returns the exponent,
whether it overflowed, and the cursor. -/
def takeExponentDigits (c : Cursor) (e : Nat) : Nat × Bool × Cursor :=
  if h : c.index < c.bytes.size then
    let b := c.bytes[c.index]
    if isDigitByte b then
      let d := (b - 48).toNat
      let c' := { c with index := c.index + 1 }
      if overflows32 e d then (e, true, c')
      else takeExponentDigits c' (e * 10 + d)
    else (e, false, c)
  else (e, false, c)
termination_by c.bytes.size - c.index

/-- Skips digits; returns how many and the cursor. -/
def skipDigits (c : Cursor) (count : Nat) : Nat × Cursor :=
  if h : c.index < c.bytes.size then
    if isDigitByte (c.bytes[c.index]) then
      skipDigits { c with index := c.index + 1 } (count + 1)
    else (count, c)
  else (count, c)
termination_by c.bytes.size - c.index

/-- The UTF-8 character at the cursor and the cursor after it (the bytes come from a text,
so they are well formed). -/
def takeChar (c : Cursor) : Char × Cursor :=
  let b (k : Nat) : Nat := (c.bytes.get! (c.index + k)).toNat
  let b0 := b 0
  if b0 < 0x80 then (Char.ofNat b0, { c with index := c.index + 1 })
  else if b0 < 0xE0 then
    (Char.ofNat ((b0 % 32) * 64 + b 1 % 64), { c with index := c.index + 2 })
  else if b0 < 0xF0 then
    (Char.ofNat ((b0 % 16) * 4096 + (b 1 % 64) * 64 + b 2 % 64), { c with index := c.index + 3 })
  else
    (Char.ofNat ((b0 % 8) * 262144 + (b 1 % 64) * 4096 + (b 2 % 64) * 64 + b 3 % 64),
      { c with index := c.index + 4 })

end Cursor

namespace Reader

/-- Four hexadecimal digits of an escape: stops at the end of the text when fewer than four
bytes remain, and after the four bytes when one is not a hexadecimal digit. -/
def hexEscape : Reader Nat := do
  let c ← get
  if c.index + 4 > c.bytes.size then
    set { c with index := c.bytes.size }
    malformed .eofWhileParsingString
  else
    let digits := [0, 1, 2, 3].map fun k => hexValue (c.bytes.get! (c.index + k))
    set { c with index := c.index + 4 }
    match digits with
    | [some a, some b, some d, some e] => return ((a * 16 + b) * 16 + d) * 16 + e
    | _ => malformed .invalidEscape

/-- The byte at the cursor, stopping at the end of the text as inside a string. -/
def peekInString : Reader UInt8 := do
  match ← peek with
  | some b => return b
  | none => malformed .eofWhileParsingString

/-- A `\u` escape (the `\u` consumed), joining a surrogate pair into one character. -/
def unicodeEscape : Reader Char := do
  let n ← hexEscape
  if 0xDC00 ≤ n && n ≤ 0xDFFF then malformed .loneLeadingSurrogateInHexEscape
  else if n < 0xD800 || n > 0xDBFF then return Char.ofNat n
  else
    if (← peekInString) != 92 then
      eat
      malformed .unexpectedEndOfHexEscape
    else
      eat
      if (← peekInString) != 117 then
        eat
        malformed .unexpectedEndOfHexEscape
      else
        eat
        let low ← hexEscape
        if low < 0xDC00 || low > 0xDFFF then malformed .loneLeadingSurrogateInHexEscape
        else return Char.ofNat ((n - 0xD800) * 1024 + (low - 0xDC00) + 0x10000)

/-- An escape after its backslash. -/
def escape : Reader Char := do
  match ← next with
  | none => malformed .eofWhileParsingString
  | some 34 => return '"'
  | some 92 => return '\\'
  | some 47 => return '/'
  | some 98 => return Char.ofNat 8
  | some 102 => return Char.ofNat 12
  | some 110 => return '\n'
  | some 114 => return '\r'
  | some 116 => return '\t'
  | some 117 => unicodeEscape
  | some _ => malformed .invalidEscape

/-- The rest of a string after its opening quote, with at most `fuel` more pieces. -/
def stringLoop : Nat → List Char → Reader String
  | 0, _ => malformed .eofWhileParsingString
  | fuel + 1, acc => do
      match ← peek with
      | none => malformed .eofWhileParsingString
      | some 34 => eat; return String.ofList acc.reverse
      | some 92 => eat; let ch ← escape; stringLoop fuel (ch :: acc)
      | some b =>
          if b < 32 then eat; malformed .controlCharacterWhileParsingString
          else
            let (ch, c') := (← get).takeChar
            set c'
            stringLoop fuel (ch :: acc)

/-- A string after its opening quote. -/
def readStringBody : Reader String := do stringLoop (← remaining) []

/-- Skips an escape after its backslash, checking only its form. -/
def skipEscape : Reader Unit := do
  match ← next with
  | none => malformed .eofWhileParsingString
  | some b =>
      if b == 34 || b == 92 || b == 47 || b == 98 || b == 102 || b == 110 || b == 114
          || b == 116 then return
      else if b == 117 then do let _ ← hexEscape; return
      else malformed .invalidEscape

/-- Skips the rest of a string, with at most `fuel` more pieces; a raw control character
stops the reading at itself. -/
def skipStringLoop : Nat → Reader Unit
  | 0 => malformed .eofWhileParsingString
  | fuel + 1 => do
      match ← peek with
      | none => malformed .eofWhileParsingString
      | some 34 => eat
      | some 92 => eat; skipEscape; skipStringLoop fuel
      | some b =>
          if b < 32 then malformed .controlCharacterWhileParsingString
          else eat; skipStringLoop fuel

/-- Skips a string after its opening quote. -/
def skipStringBody : Reader Unit := do skipStringLoop (← remaining)

/-- The double of a significand scaled by a power of ten, as the reader computes it. -/
def scaleLoop (positive : Bool) : Nat → Float → Int → Reader Float
  | 0, f, _ => return if positive then f else -f
  | fuel + 1, f, e => do
      if e.natAbs ≤ 308 && e != -2147483648 then
        if e ≥ 0 then
          let f := f * powerOfTen e.toNat
          if f.isInf then malformed .numberOutOfRange
          else return if positive then f else -f
        else
          let f := f / powerOfTen e.natAbs
          return if positive then f else -f
      else if f == 0.0 then return if positive then f else -f
      else if e ≥ 0 then malformed .numberOutOfRange
      else scaleLoop positive fuel (f / powerOfTen 308) (e + 308)

/-- The double of `significand * 10^e`. -/
def fromParts (positive : Bool) (significand : Nat) (e : Int) : Reader Float :=
  scaleLoop positive 16 (Float.ofNatNearest significand) e

/-- The exponent part after the significand (at the `e`). -/
def exponentPart (positive : Bool) (significand : Nat) (start : Int) : Reader Float := do
  eat
  let sign ← peekOrNull
  let positiveExp ← if sign == 43 then do eat; pure true
    else if sign == 45 then do eat; pure false
    else pure true
  match ← next with
  | none => malformed .eofWhileParsingValue
  | some b =>
      if !isDigitByte b then malformed .invalidNumber
      else
        let (e, overflowed, c') := (← get).takeExponentDigits (b - 48).toNat
        set c'
        if overflowed then
          if significand != 0 && positiveExp then malformed .numberOutOfRange
          else
            modify fun c => (c.skipDigits 0).2
            return if positive then 0.0 else -0.0
        else
          let final := if positiveExp then clamp32 (start + e) else clamp32 (start - e)
          fromParts positive significand final

/-- The fraction part after the significand (at the point). -/
def fractionPart (positive : Bool) (significand : Nat) (before : Int) : Reader Float := do
  eat
  let (significand, count, overflowed, c') := (← get).takeDigits significand 0
  set c'
  let e := before - count
  if overflowed then
    modify fun c => (c.skipDigits 0).2
    let p ← peekOrNull
    if p == 101 || p == 69 then exponentPart positive significand e
    else fromParts positive significand e
  else if count == 0 then
    match ← peek with
    | some _ => malformedPeek .invalidNumber
    | none => malformedPeek .eofWhileParsingValue
  else
    let p ← peekOrNull
    if p == 101 || p == 69 then exponentPart positive significand e
    else fromParts positive significand e

/-- What follows the integer digits: a fraction, an exponent, or the end of an integer. -/
def numberTail (positive : Bool) (significand : Nat) : Reader Number := do
  let p ← peekOrNull
  if p == 46 then return .double (← fractionPart positive significand 0)
  else if p == 101 || p == 69 then return .double (← exponentPart positive significand 0)
  else if positive then return .natural significand
  else if significand == 0 then return .double (-0.0)
  else if significand > 2 ^ (63 : Nat) then return .double (-(Float.ofNatNearest significand))
  else return .negative (-(significand : Int))

/-- Integer digits beyond 64 bits: they only move the exponent. -/
def longInteger (positive : Bool) (significand : Nat) : Reader Float := do
  let (extra, c') := (← get).skipDigits 0
  set c'
  let p ← peekOrNull
  if p == 46 then fractionPart positive significand extra
  else if p == 101 || p == 69 then exponentPart positive significand extra
  else fromParts positive significand extra

/-- A number after its sign (a minus sign already consumed when `positive` is false). -/
def readNumber (positive : Bool) : Reader Number := do
  match ← next with
  | none => malformed .eofWhileParsingValue
  | some b =>
      if b == 48 then
        if isDigitByte (← peekOrNull) then malformedPeek .invalidNumber
        else numberTail positive 0
      else if isDigitByte b then
        let (significand, _, overflowed, c') := (← get).takeDigits (b - 48).toNat 1
        set c'
        if overflowed then return .double (← longInteger positive significand)
        else numberTail positive significand
      else malformed .invalidNumber

/-- Skips an exponent part (at the `e`). -/
def skipExponent : Reader Unit := do
  eat
  let s ← peekOrNull
  if s == 43 || s == 45 then eat
  match ← next with
  | some b =>
      if isDigitByte b then modify fun c => (c.skipDigits 0).2
      else malformed .invalidNumber
  | none => malformed .invalidNumber

/-- Skips a number after its sign, checking only its form. -/
def skipNumber : Reader Unit := do
  match ← next with
  | some 48 =>
      if isDigitByte (← peekOrNull) then malformedPeek .invalidNumber
  | some b =>
      if isDigitByte b then modify fun c => (c.skipDigits 0).2
      else malformed .invalidNumber
  | none => malformed .invalidNumber
  let p ← peekOrNull
  if p == 46 then
    eat
    let (count, c') := (← get).skipDigits 0
    set c'
    if count == 0 then malformedPeek .invalidNumber
    let q ← peekOrNull
    if q == 101 || q == 69 then skipExponent
  else if p == 101 || p == 69 then skipExponent

end Reader

end Handoff.Json
