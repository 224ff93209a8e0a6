/-
Module: Handoff.Json.Value
Purpose: JSON values as the reader classifies them and as answers are written. A number
  keeps the reader's three kinds (a natural below 2^64, a negative integer from -2^63, a
  double otherwise); an object keeps one member per key in increasing key order, a later
  member replacing an earlier one. Writing escapes quotes, backslashes and control
  characters and gives doubles their shortest data text; a double that is not finite is
  written as null.
Main exports: Json.Number, Json.Value, Json.Value.insertMember, Json.Value.render,
  Json.escapeText.
-/
import Handoff.Float.Decimal

namespace Handoff.Json

/-- A JSON number as it was read. -/
inductive Number where
  /-- A natural number below `2^64`. -/
  | natural (n : Nat)
  /-- A negative integer not below `-2^63`. -/
  | negative (n : Int)
  /-- Any other number: a fraction, an exponent, a larger integer, or `-0`. -/
  | double (x : Float)
  deriving Inhabited

namespace Number

/-- The double a number stands for: integers are rounded to the nearest double. -/
def toFloat : Number → Float
  | natural n => Float.ofNatNearest n
  | negative n => Float.ofIntNearest n
  | double x => x

end Number

/-- A JSON value. -/
inductive Value where
  | null
  | bool (b : Bool)
  | number (n : Number)
  | string (s : String)
  | array (items : List Value)
  | object (members : List (String × Value))
  deriving Inhabited

namespace Value

/-- A double as a value: `null` when it is not finite. -/
def ofFloat (x : Float) : Value := if x.isFinite then .number (.double x) else .null

/-- A natural number as a value. -/
def ofNat (n : Nat) : Value := .number (.natural n)

/-- An optional value, `null` when absent. -/
def ofOption {α : Type} (f : α → Value) : Option α → Value
  | some a => f a
  | none => .null

end Value

/-- Adds a member to members kept in increasing key order; a member with the same key is
replaced in place. -/
def insertMember (key : String) (v : Value) : List (String × Value) → List (String × Value)
  | [] => [(key, v)]
  | (k, w) :: rest =>
      if key < k then (key, v) :: (k, w) :: rest
      else if key == k then (key, v) :: rest
      else (k, w) :: insertMember key v rest

/-- The member stored under a key. -/
def lookupMember (key : String) : List (String × Value) → Option Value
  | [] => none
  | (k, w) :: rest => if k == key then some w else lookupMember key rest

/-- Lowercase hexadecimal digit. -/
def hexDigit (n : Nat) : Char :=
  if n < 10 then Char.ofNat (48 + n) else Char.ofNat (87 + n)

/-- A character as it appears inside a written string: quote and backslash escaped, the
usual short escapes for backspace, tab, newline, form feed and carriage return, other
control characters as four hexadecimal digits. -/
def escapeChar (c : Char) : String :=
  if c == '"' then "\\\""
  else if c == '\\' then "\\\\"
  else if c == '\n' then "\\n"
  else if c == '\r' then "\\r"
  else if c == '\t' then "\\t"
  else if c.toNat == 8 then "\\b"
  else if c.toNat == 12 then "\\f"
  else if c.toNat < 32 then
    "\\u00" ++ String.singleton (hexDigit (c.toNat / 16)) ++
      String.singleton (hexDigit (c.toNat % 16))
  else String.singleton c

/-- The body of a written string. -/
def escapeText (s : String) : String :=
  s.toList.foldl (fun acc c => acc ++ escapeChar c) ""

/-- A written string with its quotes. -/
def quoteText (s : String) : String := "\"" ++ escapeText s ++ "\""

/-- The text of a number. -/
def Number.render : Number → String
  | .natural n => Nat.repr n
  | .negative n => "-" ++ Nat.repr n.natAbs
  | .double x => if x.isFinite then x.dataText else "null"

mutual

/-- The compact text of a value. -/
def Value.render : Value → String
  | .null => "null"
  | .bool b => if b then "true" else "false"
  | .number n => n.render
  | .string s => quoteText s
  | .array items => "[" ++ renderItems items ++ "]"
  | .object members => "\x7b" ++ renderMembers members ++ "\x7d"

/-- Items separated by commas. -/
def renderItems : List Value → String
  | [] => ""
  | [v] => v.render
  | v :: rest => v.render ++ "," ++ renderItems rest

/-- Members separated by commas. -/
def renderMembers : List (String × Value) → String
  | [] => ""
  | [(k, v)] => quoteText k ++ ":" ++ v.render
  | (k, v) :: rest => quoteText k ++ ":" ++ v.render ++ "," ++ renderMembers rest

end

end Handoff.Json
