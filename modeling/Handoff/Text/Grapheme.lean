/-
Module: Handoff.Text.Grapheme
Purpose: Splitting a text into extended grapheme clusters, the user-perceived characters:
  a carriage return keeps its line feed, controls stand alone, Hangul jamo join into
  syllables, extenders, joiners and spacing marks attach to what precedes them, prepended
  marks to what follows, a joiner between pictographs keeps them together, and regional
  indicators pair up.
Main exports: Text.BreakClass, Text.breakClass, Text.graphemes.
-/
import Handoff.Text.Unicode.GraphemeBreak

namespace Handoff.Text

/-- The grapheme-cluster break class of a character. -/
inductive BreakClass where
  | other | cr | lf | control | extend | zwj | regionalIndicator | prepend | spacingMark
  | l | v | t | lv | lvt
  deriving DecidableEq, Repr

/-- The class of a code point: Hangul syllables by their arithmetic, the rest by table. -/
def breakClass (c : Char) : BreakClass :=
  let n := c.toNat
  if 0xAC00 ≤ n && n ≤ 0xD7A3 then
    if (n - 0xAC00) % 28 == 0 then .lv else .lvt
  else
    match Unicode.graphemeBreakClasses.classOf n with
    | some 0 => .cr
    | some 1 => .lf
    | some 2 => .control
    | some 3 => .extend
    | some 4 => .zwj
    | some 5 => .regionalIndicator
    | some 6 => .prepend
    | some 7 => .spacingMark
    | some 8 => .l
    | some 9 => .v
    | some 10 => .t
    | _ => .other

/-- The Extended_Pictographic property. -/
def isPictographic (c : Char) : Bool := Unicode.extendedPictographic.contains c.toNat

/-- What the rules need to know about the text before a break opportunity. -/
structure ClusterContext where
  /-- Class of the previous character. -/
  previous : BreakClass
  /-- Since the last pictograph only extenders followed. -/
  pictographTail : Bool
  /-- The previous character is a joiner right after such a tail. -/
  joinerAfterPictograph : Bool
  /-- Regional indicators in a row just before. -/
  indicatorRun : Nat

/-- Whether no cluster boundary falls before a character of class `k`. -/
def ClusterContext.joins (ctx : ClusterContext) (k : BreakClass) (pictograph : Bool) : Bool :=
  match ctx.previous, k with
  | .cr, .lf => true
  | .cr, _ => false
  | .lf, _ => false
  | .control, _ => false
  | _, .cr => false
  | _, .lf => false
  | _, .control => false
  | .l, .l => true
  | .l, .v => true
  | .l, .lv => true
  | .l, .lvt => true
  | .lv, .v => true
  | .lv, .t => true
  | .v, .v => true
  | .v, .t => true
  | .lvt, .t => true
  | .t, .t => true
  | _, .extend => true
  | _, .zwj => true
  | _, .spacingMark => true
  | .prepend, _ => true
  | .zwj, _ => pictograph && ctx.joinerAfterPictograph
  | .regionalIndicator, .regionalIndicator => ctx.indicatorRun % 2 == 1
  | _, _ => false

/-- The context after a character. -/
def ClusterContext.step (ctx : ClusterContext) (c : Char) : ClusterContext :=
  let k := breakClass c
  { previous := k
    pictographTail := isPictographic c || (k == .extend && ctx.pictographTail)
    joinerAfterPictograph := k == .zwj && ctx.pictographTail
    indicatorRun := if k == .regionalIndicator then ctx.indicatorRun + 1 else 0 }

/-- Clusters of the characters after `ctx`, the current cluster (reversed) still open. -/
def clustersFrom (ctx : ClusterContext) (current : List Char) : List Char → List (List Char)
  | [] => if current.isEmpty then [] else [current.reverse]
  | c :: rest =>
      if ctx.joins (breakClass c) (isPictographic c) then
        clustersFrom (ctx.step c) (c :: current) rest
      else
        current.reverse :: clustersFrom (ctx.step c) [c] rest

/-- The grapheme clusters of a text, in order; their concatenation is the text. -/
def graphemes (s : String) : List String :=
  match s.toList with
  | [] => []
  | c :: rest =>
      let start : ClusterContext :=
        { previous := .control, pictographTail := false, joinerAfterPictograph := false,
          indicatorRun := 0 }
      (clustersFrom (start.step c) [c] rest).map String.ofList

end Handoff.Text
