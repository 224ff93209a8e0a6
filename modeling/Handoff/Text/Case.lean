/-
Module: Handoff.Text.Case
Purpose: Full Unicode case conversion of texts and the white-space class. Uppercasing maps
  every character on its own; lowercasing does too, except that a capital sigma becomes
  the final form when it ends a word: cased letters come before it (past any
  case-ignorable marks) and none follow it (past the same marks).
Main exports: Text.isWhiteSpace, Text.upperChars, Text.lowerChars, Text.toUpper,
  Text.toLower, Text.trim, Text.trimStart, Text.isBlank.
-/
import Handoff.Text.Unicode.Blank
import Handoff.Text.Unicode.Cased
import Handoff.Text.Unicode.CaseMapping

namespace Handoff.Text

/-- The White_Space property. -/
def isWhiteSpace (c : Char) : Bool := Unicode.whiteSpace.contains c.toNat

/-- The Cased property. -/
def isCased (c : Char) : Bool := Unicode.cased.contains c.toNat

/-- The Case_Ignorable property. -/
def isCaseIgnorable (c : Char) : Bool := Unicode.caseIgnorable.contains c.toNat

/-- The full uppercase of one character. -/
def upperChars (c : Char) : List Char := (Unicode.upperTable.apply c.toNat).map Char.ofNat

/-- The full lowercase of one character, without context. -/
def lowerChars (c : Char) : List Char := (Unicode.lowerTable.apply c.toNat).map Char.ofNat

/-- Whether, skipping case-ignorable characters, the next character is cased. -/
def casedAfterIgnorable : List Char → Bool
  | [] => false
  | c :: rest => if isCaseIgnorable c then casedAfterIgnorable rest else isCased c

/-- A capital sigma with `before` (nearest first) and `after` around it ends a word. -/
def endsWord (before after : List Char) : Bool :=
  casedAfterIgnorable before && !casedAfterIgnorable after

/-- Lowercase of the characters after `before` (the characters already passed, nearest
first). -/
def lowerFrom : List Char → List Char → List Char
  | _, [] => []
  | before, c :: after =>
      let here :=
        if c == 'Σ' then [if endsWord before after then 'ς' else 'σ']
        else lowerChars c
      here ++ lowerFrom (c :: before) after

/-- The full uppercase of a text. -/
def toUpper (s : String) : String := String.ofList (s.toList.flatMap upperChars)

/-- The full lowercase of a text, with the final form of sigma at the end of a word. -/
def toLower (s : String) : String := String.ofList (lowerFrom [] s.toList)

/-- A text without its leading white space. -/
def trimStart (s : String) : String := String.ofList (s.toList.dropWhile isWhiteSpace)

/-- A text without its trailing white space. -/
def trimEnd (s : String) : String :=
  String.ofList ((s.toList.reverse.dropWhile isWhiteSpace).reverse)

/-- A text without white space at either end. -/
def trim (s : String) : String := trimEnd (trimStart s)

/-- Whether a text is white space only (or empty). -/
def isBlank (s : String) : Bool := s.toList.all isWhiteSpace

end Handoff.Text
