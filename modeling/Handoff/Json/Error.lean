/-
Module: Handoff.Json.Error
Purpose: Why reading JSON stopped, and the message for it. A malformed text stops with one
  of the reader's fixed causes; well-formed text that does not fit the expected shape stops
  with a data problem (wrong kind of value, value out of range, wrong length, unknown
  variant, missing or repeated field). Errors met while reading text carry the line and
  the byte column; the message appends them.
Main exports: Json.Malformed, Json.Found, Json.Problem, Json.Position, Json.ReadError,
  Json.ReadError.message.
-/
import Handoff.Float.Decimal
import Handoff.Text.Quote

namespace Handoff.Json

/-- The fixed causes for which the reader rejects a text. -/
inductive Malformed where
  | eofWhileParsingList
  | eofWhileParsingObject
  | eofWhileParsingString
  | eofWhileParsingValue
  | expectedColon
  | expectedListCommaOrEnd
  | expectedObjectCommaOrEnd
  | expectedSomeIdent
  | expectedSomeValue
  | invalidEscape
  | invalidNumber
  | numberOutOfRange
  | controlCharacterWhileParsingString
  | keyMustBeAString
  | loneLeadingSurrogateInHexEscape
  | trailingComma
  | trailingCharacters
  | unexpectedEndOfHexEscape
  | recursionLimitExceeded
  deriving DecidableEq, Repr

/-- The message of a malformed-text cause. -/
def Malformed.message : Malformed → String
  | .eofWhileParsingList => "EOF while parsing a list"
  | .eofWhileParsingObject => "EOF while parsing an object"
  | .eofWhileParsingString => "EOF while parsing a string"
  | .eofWhileParsingValue => "EOF while parsing a value"
  | .expectedColon => "expected `:`"
  | .expectedListCommaOrEnd => "expected `,` or `]`"
  | .expectedObjectCommaOrEnd => "expected `,` or `\x7d`"
  | .expectedSomeIdent => "expected ident"
  | .expectedSomeValue => "expected value"
  | .invalidEscape => "invalid escape"
  | .invalidNumber => "invalid number"
  | .numberOutOfRange => "number out of range"
  | .controlCharacterWhileParsingString =>
      "control character (\\u0000-\\u001F) found while parsing a string"
  | .keyMustBeAString => "key must be a string"
  | .loneLeadingSurrogateInHexEscape => "lone leading surrogate in hex escape"
  | .trailingComma => "trailing comma"
  | .trailingCharacters => "trailing characters"
  | .unexpectedEndOfHexEscape => "unexpected end of hex escape"
  | .recursionLimitExceeded => "recursion limit exceeded"

/-- The value that was met where another kind was expected. -/
inductive Found where
  | bool (b : Bool)
  | unsigned (n : Nat)
  | signed (n : Int)
  | float (x : Float)
  | string (s : String)
  | null
  | sequence
  | map
  deriving Inhabited

/-- How a met value is named in a message. -/
def Found.describe : Found → String
  | .bool b => "boolean `" ++ (if b then "true" else "false") ++ "`"
  | .unsigned n => "integer `" ++ Nat.repr n ++ "`"
  | .signed n => "integer `" ++ (if n < 0 then "-" else "") ++ Nat.repr n.natAbs ++ "`"
  | .float x => "floating point `" ++ x.dataText ++ "`"
  | .string s => "string " ++ Text.quoteForMessage s
  | .null => "null"
  | .sequence => "sequence"
  | .map => "map"

/-- Names in backquotes: one, two joined by "or", or "one of" a list. -/
def oneOf (names : List String) : String :=
  let quoted := names.map fun n => "`" ++ n ++ "`"
  match quoted with
  | [a] => a
  | [a, b] => a ++ " or " ++ b
  | _ => "one of " ++ ", ".intercalate quoted

/-- Why reading stopped. -/
inductive Problem where
  /-- The text is not JSON. -/
  | malformed (cause : Malformed)
  /-- A value of another kind was met. -/
  | invalidType (found : Found) (expected : String)
  /-- A value of the right kind was out of range. -/
  | invalidValue (found : Found) (expected : String)
  /-- A sequence had too few elements. -/
  | invalidLength (length : Nat) (expected : String)
  /-- A name is not among the variants. -/
  | unknownVariant (name : String) (variants : List String)
  /-- A required field is absent. -/
  | missingField (name : String)
  /-- A field appears twice. -/
  | duplicateField (name : String)
  deriving Inhabited

/-- The message of a problem, without position. -/
def Problem.message : Problem → String
  | .malformed cause => cause.message
  | .invalidType found expected => "invalid type: " ++ found.describe ++ ", expected " ++ expected
  | .invalidValue found expected =>
      "invalid value: " ++ found.describe ++ ", expected " ++ expected
  | .invalidLength n expected => "invalid length " ++ Nat.repr n ++ ", expected " ++ expected
  | .unknownVariant name [] => "unknown variant `" ++ name ++ "`, there are no variants"
  | .unknownVariant name variants =>
      "unknown variant `" ++ name ++ "`, expected " ++ oneOf variants
  | .missingField name => "missing field `" ++ name ++ "`"
  | .duplicateField name => "duplicate field `" ++ name ++ "`"

/-- A place in a text: the line (from 1) and the bytes before it on that line. -/
structure Position where
  line : Nat
  column : Nat
  deriving DecidableEq, Repr

/-- A reading error, placed when it was met while reading text. -/
structure ReadError where
  problem : Problem
  position : Option Position
  deriving Inhabited

/-- The message of a reading error, with its place when it has one. -/
def ReadError.message (e : ReadError) : String :=
  match e.position with
  | some p => e.problem.message ++ " at line " ++ Nat.repr p.line ++ " column " ++ Nat.repr p.column
  | none => e.problem.message

end Handoff.Json
