/-
Module: Handoff.Text.Search
Purpose: Finding a text inside another, character by character. A pattern occurs in a text
  when it is a prefix of one of the text's suffixes (the empty pattern occurs everywhere);
  replacing the first occurrence puts the replacement where the earliest match starts.
Main exports: Text.occursIn, Text.includes, Text.replaceFirst.
-/

namespace Handoff.Text

/-- Whether `pattern` occurs in a list of characters as a run of consecutive ones. -/
def occursIn (pattern : List Char) : List Char → Bool
  | [] => pattern.isEmpty
  | c :: rest => pattern.isPrefixOf (c :: rest) || occursIn pattern rest

/-- Whether `pattern` occurs in `s`. -/
def includes (s pattern : String) : Bool := occursIn pattern.toList s.toList

/-- The characters with the earliest occurrence of `pattern` replaced. -/
def replaceFirstChars (pattern replacement : List Char) : List Char → List Char
  | [] => if pattern.isEmpty then replacement else []
  | c :: rest =>
      if pattern.isPrefixOf (c :: rest) then replacement ++ (c :: rest).drop pattern.length
      else c :: replaceFirstChars pattern replacement rest

/-- `s` with the earliest occurrence of `pattern` replaced by `replacement`. -/
def replaceFirst (s pattern replacement : String) : String :=
  String.ofList (replaceFirstChars pattern.toList replacement.toList s.toList)

end Handoff.Text
