/-
Module: Handoff.Emit.Template
Purpose: Identifier spelling and block indentation for the generated wrappers. A type name is
  the Pascal case of a text kept to ASCII letters and digits, `Component` when nothing is
  left and prefixed by `Component` when it would start with a digit. Indenting a block
  prefixes every line that is not blank and empties the blank ones.
Main exports: toPascalCase, indentBlock.
-/
import Handoff.Text.Words
import Handoff.Text.Lines

namespace Handoff

/-- A text as a Pascal-case identifier. -/
def toPascalCase (s : String) : String :=
  let pascal := String.ofList ((Text.pascalCase s).toList.filter Char.isAlphanum)
  match pascal.toList with
  | [] => "Component"
  | c :: _ => if c.isDigit then "Component" ++ pascal else pascal

/-- Every line that is not blank prefixed by `spaces` spaces; blank lines emptied. -/
def indentBlock (content : String) (spaces : Nat) : String := Text.indentBlock content spaces

end Handoff
