/-
Module: Handoff.Text.Lines
Purpose: Lines of a text and block indentation. A text splits after each line feed; the
  line feed is dropped and so is one carriage return right before it; a last line without
  a line feed keeps everything, and an empty text has no lines. Indenting puts spaces
  before every line that is not blank and empties the blank ones.
Main exports: Text.lines, Text.indentBlock, Text.spaces.
-/
import Handoff.Text.Case

namespace Handoff.Text

/-- Drops one trailing carriage return. -/
def dropCarriageReturn (line : List Char) : List Char :=
  match line.reverse with
  | '\r' :: rest => rest.reverse
  | _ => line

/-- Lines of the characters after the open line `current` (reversed). -/
def linesFrom (current : List Char) : List Char → List String
  | [] => if current.isEmpty then [] else [String.ofList current.reverse]
  | '\n' :: rest => String.ofList (dropCarriageReturn current.reverse) :: linesFrom [] rest
  | c :: rest => linesFrom (c :: current) rest

/-- The lines of a text. -/
def lines (s : String) : List String := linesFrom [] s.toList

/-- `n` spaces. -/
def spaces (n : Nat) : String := String.ofList (List.replicate n ' ')

/-- Every line not blank prefixed by `n` spaces, blank lines emptied, joined by line
feeds. -/
def indentBlock (content : String) (n : Nat) : String :=
  "\n".intercalate ((lines content).map fun line =>
    if isBlank line then "" else spaces n ++ line)

end Handoff.Text
