/-
Module: Handoff.Text.Words
Purpose: Splitting an identifier-like text into words and joining them in a naming
  convention. Words break at hyphens, underscores and spaces (which are dropped), between
  a lowercase and an uppercase cluster, between letters and ASCII digits either way, and
  before the last capital of a run of capitals that a lowercase cluster follows. A cluster
  is uppercase when its upper and lower forms differ and it equals its upper form, and
  lowercase likewise. Kebab case lowercases the words and joins them with hyphens; Pascal
  case capitalises the first cluster of each word, lowercases the rest, and joins them.
Main exports: Text.splitWords, Text.kebabCase, Text.pascalCase.
-/
import Handoff.Text.Case
import Handoff.Text.Grapheme

namespace Handoff.Text

/-- A cluster of ASCII digits only. -/
def clusterIsDigit (g : String) : Bool := g.toList.all Char.isDigit

/-- A cluster that has case and is in its upper form. -/
def clusterIsUpper (g : String) : Bool := toUpper g != toLower g && g == toUpper g

/-- A cluster that has case and is in its lower form. -/
def clusterIsLower (g : String) : Bool := toUpper g != toLower g && g == toLower g

/-- A separator cluster: hyphen, underscore or space. -/
def isSeparator (g : String) : Bool := g == "-" || g == "_" || g == " "

/-- A boundary between two neighbouring clusters. -/
def pairBoundary (a b : String) : Bool :=
  (clusterIsLower a && clusterIsUpper b) ||
  (clusterIsUpper a && clusterIsDigit b) ||
  (clusterIsDigit a && clusterIsUpper b) ||
  (clusterIsDigit a && clusterIsLower b) ||
  (clusterIsLower a && clusterIsDigit b)

/-- A boundary before `b` in an acronym run `a b c`: two capitals then a lowercase. -/
def acronymBoundary (a b c : String) : Bool :=
  clusterIsUpper a && clusterIsUpper b && clusterIsLower c

/-- Where a word ends at a cluster. -/
inductive Cut where
  /-- The cluster continues the current word. -/
  | keep
  /-- The cluster is a separator: the word ends and the cluster is dropped. -/
  | drop
  /-- A new word starts with the cluster. -/
  | before

/-- The cut at cluster `g`, given the cluster before it and the clusters after it. -/
def cutAt (previous : Option String) (g : String) (after : List String) : Cut :=
  if isSeparator g then .drop
  else
    match previous with
    | none => .keep
    | some p =>
        if pairBoundary p g then .before
        else
          match after with
          | c :: _ => if acronymBoundary p g c then .before else .keep
          | [] => .keep

/-- The words of the clusters after `previous`, the current word still open (possibly
empty words included). -/
def wordsFrom (previous : Option String) (current : String) : List String → List String
  | [] => [current]
  | g :: rest =>
      match cutAt previous g rest with
      | .keep => wordsFrom (some g) (current ++ g) rest
      | .drop => current :: wordsFrom (some g) "" rest
      | .before => current :: wordsFrom (some g) g rest

/-- The nonempty words of a text. -/
def splitWords (s : String) : List String :=
  (wordsFrom none "" (graphemes s)).filter (fun w => !w.isEmpty)

/-- A word with its first cluster uppercased and the rest lowercased. -/
def capitalize (word : String) : String :=
  match graphemes word with
  | [] => ""
  | first :: rest => toUpper first ++ toLower (String.join rest)

/-- Lowercase words joined by hyphens. -/
def kebabCase (s : String) : String := "-".intercalate ((splitWords s).map toLower)

/-- Capitalised words joined together. -/
def pascalCase (s : String) : String := String.join ((splitWords s).map capitalize)

end Handoff.Text
