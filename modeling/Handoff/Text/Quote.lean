/-
Module: Handoff.Text.Quote
Purpose: A text quoted for a diagnostic message: in double quotes, with backslash escapes
  for NUL, tab, carriage return, line feed, backslash and double quote, and a braced
  hexadecimal escape for every grapheme extender and every character that is not
  printable (controls, format and private-use characters, unassigned code points and
  separators other than the space).
Main exports: Text.isPrintable, Text.quoteForMessage.
-/
import Handoff.Text.Unicode.Printable

namespace Handoff.Text

/-- Whether a character is shown as it is in a quoted message. -/
def isPrintable (c : Char) : Bool :=
  let n := c.toNat
  if n < 0x20 then false
  else if n < 0x7F then true
  else !Unicode.notPrintable.contains n

/-- Lowercase hexadecimal digits of a natural, without leading zeros. -/
def hexDigits (n : Nat) : String := String.ofList (Nat.toDigits 16 n)

/-- The braced hexadecimal escape of a character. -/
def braceEscape (c : Char) : String := "\\u\x7b" ++ hexDigits c.toNat ++ "\x7d"

/-- A character inside a quoted message. -/
def messageChar (c : Char) : String :=
  if c.toNat == 0 then "\\0"
  else if c == '\t' then "\\t"
  else if c == '\r' then "\\r"
  else if c == '\n' then "\\n"
  else if c == '\\' then "\\\\"
  else if c == '"' then "\\\""
  else if Unicode.graphemeExtend.contains c.toNat then braceEscape c
  else if isPrintable c then String.singleton c
  else braceEscape c

/-- A text in double quotes with its characters escaped for a message. -/
def quoteForMessage (s : String) : String :=
  "\"" ++ s.toList.foldl (fun acc c => acc ++ messageChar c) "" ++ "\""

end Handoff.Text
