/-
Module: Handoff.Normalize.Text
Purpose: A text node's content as styled runs. Without segments the node is one run in its
  own style. With segments each becomes a run (segment style over node style over the
  defaults 12 px, weight 400, Inter), adjacent runs of the same style merge, and a
  segment's fill joins the node's fills so the run can point at it; segments whose
  characters do not spell the node's characters are dropped for one run, with a warning.
Main exports: buildText, defaultFontSize, defaultFontWeight, defaultFontFamily.
-/
import Handoff.Paint.Convert
import Handoff.Text.Search

namespace Handoff

/-- Font size when none is given. -/
def defaultFontSize : Float := 12.0

/-- Font weight when none is given. -/
def defaultFontWeight : Nat := 400

/-- Font family when none is given. -/
def defaultFontFamily : String := "Inter"

/-- The decoration a tool setting names. -/
def textDecorationOf : Option String → TextDecoration
  | some "UNDERLINE" => .underline
  | some "STRIKETHROUGH" => .strikethrough
  | _ => .plain

/-- The case transform a tool setting names. -/
def textCaseOf : Option String → TextCase
  | some "UPPER" => .upper
  | some "LOWER" => .lower
  | some "TITLE" => .title
  | _ => .original

/-- Letter spacing in pixels: percentages are of the font size. -/
def letterSpacingOf (value : Option RawUnitValue) (fontSize : Float) : Float :=
  match value with
  | some ⟨v, .percent⟩ => v / 100.0 * fontSize
  | some ⟨v, .pixels⟩ => v
  | _ => 0.0

/-- The line height a measured value gives. -/
def lineHeightOf : Option RawUnitValue → LineHeight
  | some ⟨v, .pixels⟩ => .pixels v
  | some ⟨v, .percent⟩ => .percent v
  | _ => .auto

/-- The family of a font name, the default when absent or empty. -/
def fontFamilyOf : Option RawFontName → String
  | some n => if n.family.isEmpty then defaultFontFamily else n.family
  | none => defaultFontFamily

/-- ASCII lowercase. -/
def asciiLower (s : String) : String :=
  String.map (fun c => if 'A' ≤ c && c ≤ 'Z' then Char.ofNat (c.toNat + 32) else c) s

/-- Whether a font's style names italics. -/
def isItalicOf : Option RawFontName → Bool
  | some n => Text.includes (asciiLower n.style) "italic"
  | none => false

/-- The run of a node without per-segment styling. -/
def baseRun (raw : NodeAttrs) (characters : String) (fillRef : Option Nat) : TextRun where
  characters := characters
  fontSize := raw.fontSize.getD defaultFontSize
  fontWeight := raw.fontWeight.getD defaultFontWeight
  fontFamily := fontFamilyOf raw.fontName
  italic := isItalicOf raw.fontName
  decoration := .plain
  caseTransform := .original
  fillRef := fillRef
  letterSpacing := 0.0
  lineHeight := .auto

/-- The index of a paint among fills, appending it when absent. -/
def fillIndex (fills : List PaintEntry) (entry : PaintEntry) : Nat × List PaintEntry :=
  match fills.findIdx? (· == entry) with
  | some i => (i, fills)
  | none => (fills.length, fills ++ [entry])

/-- The first paint of a list that converts, with the reports of those tried before it. -/
def firstPaint (node : Nat) : List RawPaint → Option PaintEntry × List Diagnostic
  | [] => (none, [])
  | p :: rest =>
      match convertPaint p node with
      | (some e, ds) => (some e, ds)
      | (none, ds) =>
          let (found, more) := firstPaint node rest
          (found, ds ++ more)

/-- The run of a segment; its fill joins the node's fills. -/
def segmentRun (raw : NodeAttrs) (segment : RawTextSegment) (fills : List PaintEntry) (id : Nat) :
    TextRun × List PaintEntry × List Diagnostic :=
  let fontSize := (segment.fontSize.orElse fun _ => raw.fontSize).getD defaultFontSize
  let fontName := segment.fontName.orElse fun _ => raw.fontName
  let (segmentFill, ds) := firstPaint id segment.fills
  let (fillRef, fills) : Option Nat × List PaintEntry :=
    match segmentFill with
    | some entry => let (i, fs) := fillIndex fills entry; (some i, fs)
    | none => if fills.isEmpty then (none, fills) else (some 0, fills)
  let run : TextRun :=
    { characters := segment.characters
      fontSize := fontSize
      fontWeight := (segment.fontWeight.orElse fun _ => raw.fontWeight).getD defaultFontWeight
      fontFamily := fontFamilyOf fontName
      italic := isItalicOf fontName
      decoration := textDecorationOf segment.textDecoration
      caseTransform := textCaseOf segment.textCase
      fillRef := fillRef
      letterSpacing := letterSpacingOf segment.letterSpacing fontSize
      lineHeight := lineHeightOf segment.lineHeight }
  (run, fills, ds)

/-- The runs of segments in order, threading the fills. -/
def segmentRuns (raw : NodeAttrs) (id : Nat) :
    List RawTextSegment → List PaintEntry → List TextRun × List PaintEntry × List Diagnostic
  | [], fills => ([], fills, [])
  | s :: rest, fills =>
      let (run, fills, ds) := segmentRun raw s fills id
      let (runs, fills, more) := segmentRuns raw id rest fills
      (run :: runs, fills, ds ++ more)

/-- Adjacent runs of the same style merged, `acc` holding the merged runs reversed. -/
def mergeRunsInto : List TextRun → List TextRun → List TextRun
  | acc, [] => acc.reverse
  | [], r :: rest => mergeRunsInto [r] rest
  | last :: done, r :: rest =>
      if last.sameStyle r then
        mergeRunsInto ({ last with characters := last.characters ++ r.characters } :: done) rest
      else mergeRunsInto (r :: last :: done) rest

/-- Adjacent runs of the same style merged. -/
def mergeRuns (runs : List TextRun) : List TextRun := mergeRunsInto [] runs

/-- The text alignment a tool setting names. -/
def textAlignOf : Option String → TextAlign
  | some "CENTER" => .center
  | some "RIGHT" => .right
  | some "JUSTIFIED" => .justified
  | _ => .left

/-- The auto-resize mode a tool setting names. -/
def textAutoResizeOf : Option String → TextAutoResize
  | some "HEIGHT" => .height
  | some "WIDTH_AND_HEIGHT" => .widthAndHeight
  | _ => .fixedBox

/-- A text node's content and its fills with the segments' fills added. -/
def buildText (raw : NodeAttrs) (fills : List PaintEntry) (id : Nat) :
    TextContent × List PaintEntry × List Diagnostic :=
  let characters := raw.characters.getD ""
  let defaultFill : Option Nat := if fills.isEmpty then none else some 0
  let (runs, fills, ds) : List TextRun × List PaintEntry × List Diagnostic :=
    if raw.segments.isEmpty then ([baseRun raw characters defaultFill], fills, [])
    else
      let (runs, grown, ds) := segmentRuns raw id raw.segments fills
      let joined := String.join (runs.map TextRun.characters)
      if joined == characters then (mergeRuns runs, grown, ds)
      else
        -- the fills the segments added are cut off again
        ([baseRun raw characters defaultFill], grown.take fills.length,
          ds ++ [Diagnostic.warning id
            "text segments do not reproduce the node's characters; using a single run"])
  (⟨runs, textAlignOf raw.textAlignHorizontal, textAutoResizeOf raw.textAutoResize⟩, fills, ds)

end Handoff
