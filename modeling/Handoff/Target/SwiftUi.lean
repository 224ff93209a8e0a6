/-
Module: Handoff.Target.SwiftUi
Purpose: SwiftUI view hierarchies. A fragment is an initializer call (the empty argument
  name is positional), or its content lines written as a raw expression; the children of a
  stack go in its trailing view builder, indented four spaces; modifiers follow as a
  `.modifier(…)` chain in the order applied. Shapes are drawn by their outline view (a
  rectangle, a rounded or unevenly rounded rectangle, or an ellipse), flex layouts become
  vertical or horizontal stacks, absolute children an overlay `ZStack`. Vector markup has no
  SwiftUI form: an asset image stands in for it, with a warning. A snippet is the views one
  after another; a view struct (optionally with a preview) wraps them.
Main exports: SwiftUi.color, SwiftUi.view, SwiftUi.frameAlignment, SwiftUi.target.
-/
import Handoff.Emit.Scene
import Handoff.Emit.Template

namespace Handoff

namespace SwiftUi

/-- Views whose children go in a trailing view builder. -/
def stackViews : List String := ["VStack", "HStack", "ZStack"]

/-- A colour from its unit components, with three decimals; the opacity only when
translucent. -/
def color (c : Color) : String :=
  let unit (v : Float32) : String := fixed v.toBinary64 3
  if c.isOpaque then
    "Color(red: " ++ unit c.r ++ ", green: " ++ unit c.g ++ ", blue: " ++ unit c.b ++ ")"
  else
    "Color(red: " ++ unit c.r ++ ", green: " ++ unit c.g ++ ", blue: " ++ unit c.b ++
      ", opacity: " ++ unit c.a ++ ")"

/-- A unit point. -/
def unitPoint (x y : Float) : String := "UnitPoint(x: " ++ num x ++ ", y: " ++ num y ++ ")"

/-- A gradient view; a radial one reaches the given width times its radius. -/
def gradient (g : Gradient) (width : Float) : String :=
  let stops := ", ".intercalate (g.stops.map fun s =>
    ".init(color: " ++ color s.effectiveColor ++ ", location: " ++ num s.offset ++ ")")
  match g with
  | .linear angle _ =>
      let ((sx, sy), (ex, ey)) := unitPoints angle
      "LinearGradient(stops: [" ++ stops ++ "], startPoint: " ++ unitPoint sx sy ++
        ", endPoint: " ++ unitPoint ex ey ++ ")"
  | .radial cx cy rx _ _ =>
      "RadialGradient(stops: [" ++ stops ++ "], center: " ++ unitPoint cx cy ++
        ", startRadius: 0, endRadius: " ++ num (rx * width) ++ ")"
  | .angular cx cy start _ =>
      "AngularGradient(stops: [" ++ stops ++ "], center: " ++ unitPoint cx cy ++
        ", angle: .degrees(" ++ num (start - 90.0) ++ "))"

/-- The outline of a node as a shape view. -/
def outlineView (node : AltNode) : Fragment :=
  if node.kind == .ellipse then Fragment.new "Ellipse"
  else match node.cornerRadius with
    | .uniform r =>
        if r > 0.0 then (Fragment.new "RoundedRectangle").withArg "cornerRadius" (num r)
        else Fragment.new "Rectangle"
    | .perCorner tl tr br bl =>
        if !node.cornerRadius.isZero then
          (Fragment.new "UnevenRoundedRectangle").withArg "topLeadingRadius" (num tl)
            |>.withArg "bottomLeadingRadius" (num bl) |>.withArg "bottomTrailingRadius" (num br)
            |>.withArg "topTrailingRadius" (num tr)
        else Fragment.new "Rectangle"

/-- An argument: its value alone when positional, `name: value` otherwise. -/
def argPart (arg : String × String) : String :=
  if arg.1.isEmpty then arg.2 else arg.1 ++ ": " ++ arg.2

mutual

/-- A view with its children and modifier chain, after its comment. -/
def view : Fragment → String
  | ⟨element, args, _, modifiers, children, content, comment⟩ =>
      let isStack := stackViews.contains element
      let parts := args.map argPart
      let head :=
        if !content.isEmpty then "\n".intercalate content
        else if isStack && parts.isEmpty then element ++ " \x7b"
        else if isStack then element ++ "(" ++ ", ".intercalate parts ++ ") \x7b"
        else element ++ "(" ++ ", ".intercalate parts ++ ")"
      let body :=
        if isStack then
          String.join ((views children).map fun v => "\n" ++ indentBlock v 4) ++ "\n\x7d"
        else ""
      let pad := if isStack then "" else "    "
      let chain := String.join (modifiers.map fun (name, margs) =>
        "\n" ++ pad ++ "." ++ name ++ "(" ++ margs ++ ")")
      let out := head ++ body ++ chain
      match comment with
      | some c => "// " ++ c ++ "\n" ++ out
      | none => out

/-- Views of a list of fragments. -/
def views : List Fragment → List String
  | [] => []
  | f :: rest => view f :: views rest

end

/-- The outline of a node as source. -/
def outline (node : AltNode) : String := view (outlineView node)

/-- Where a container's frame places its content, from its layout's alignments. -/
def frameAlignment (layout : LayoutDescriptor) : String :=
  let primary : Nat := match layout.primaryAlign with
    | .atStart | .spaceBetween => 0
    | .center => 1
    | .atEnd => 2
  let counter : Nat := match layout.counterAlign with
    | .atStart | .baseline => 0
    | .center => 1
    | .atEnd => 2
  let (horizontal, vertical) := match layout.direction with
    | .row => (primary, counter)
    | .column => (counter, primary)
  let names := [["topLeading", "top", "topTrailing"], ["leading", "center", "trailing"],
    ["bottomLeading", "bottom", "bottomTrailing"]]
  ((names.getD vertical []).getD horizontal "center")

/-- Padding modifiers: one for a uniform padding, one per non-zero axis for a symmetric one,
edge insets otherwise. -/
def paddingModifiers (f : Fragment) (p : Padding) : Fragment :=
  if p.isZero then f
  else if p.isUniform then f.withModifier "padding" (num p.top)
  else if p.isSymmetric then
    let f := if p.left != 0.0 then f.withModifier "padding" (".horizontal, " ++ num p.left) else f
    if p.top != 0.0 then f.withModifier "padding" (".vertical, " ++ num p.top) else f
  else
    f.withModifier "padding" ("EdgeInsets(top: " ++ num p.top ++ ", leading: " ++ num p.left ++
      ", bottom: " ++ num p.bottom ++ ", trailing: " ++ num p.right ++ ")")

/-- The weight of a font by name, rounded to a hundred between 100 and 900. -/
def fontWeight (weight : Nat) : String :=
  match min 9 (max 1 ((weight + 50) / 100)) with
  | 1 => "ultraLight"
  | 2 => "thin"
  | 3 => "light"
  | 4 => "regular"
  | 5 => "medium"
  | 6 => "semibold"
  | 7 => "bold"
  | 8 => "heavy"
  | _ => "black"

/-- A frame from the node's sizing; `alignment` places content inside it unless centred. -/
def framed (f : Fragment) (node : AltNode) (alignment : Option String) : Fragment :=
  let (width, height) := dims node
  let axis (fixedName fillName : String) : Dim → List String
    | .fixed value => [fixedName ++ ": " ++ num value]
    | .fill => [fillName ++ ": .infinity"]
    | .hug => []
  let args := axis "width" "maxWidth" width ++ axis "height" "maxHeight" height
  if args.isEmpty then f
  else
    let args := match alignment with
      | some a => if a != "center" then args ++ ["alignment: ." ++ a] else args
      | none => args
    f.withModifier "frame" (", ".intercalate args)

/-- A run as a text view with its font, decoration, spacing and colour modifiers. -/
def runText (node : AltNode) (run : TextRun) : Emit Fragment := do
  let characters := applyCase run.characters run.caseTransform
  let mut f := (Fragment.new "Text").withArg "" ("\"" ++ escapeLiteral characters false ++ "\"")
    |>.withModifier "font" (".custom(\"" ++ escapeLiteral run.fontFamily false ++ "\", size: " ++
      num run.fontSize ++ ")")
  if run.fontWeight != 400 then f := f.withModifier "fontWeight" ("." ++ fontWeight run.fontWeight)
  if run.italic then f := f.withModifier "italic" ""
  f := match run.decoration with
    | .plain => f
    | .underline => f.withModifier "underline" ""
    | .strikethrough => f.withModifier "strikethrough" ""
  if run.letterSpacing != 0.0 then f := f.withModifier "tracking" (num run.letterSpacing)
  if let some c ← nativeTextColor node run "SwiftUI" then
    f := f.withModifier "foregroundColor" (color c)
  return f

/-- Line spacing beyond the font's own height, when there is some. -/
def lineSpacing (run : TextRun) : Option Float :=
  let height := match run.lineHeight with
    | .auto => none
    | .pixels v => some v
    | .percent v => some (run.fontSize * v / 100.0)
  height.bind fun h =>
    let extra := h - run.fontSize
    if extra > 0.0 then some extra else none

/-- The flow children with a spacer between each two. -/
def spaced : List Fragment → List Fragment
  | [] => []
  | [last] => [last]
  | f :: rest => f :: (Fragment.new "Spacer").withArg "minLength" "0" :: spaced rest

/-- The stack view of a layout's direction, aligned across it, with no children yet. -/
def stackView (layout : LayoutDescriptor) : Fragment :=
  match layout.direction with
  | .column =>
      let f := Fragment.new "VStack"
      match layout.counterAlign with
      | .atStart | .baseline => f.withArg "alignment" ".leading"
      | .center => f
      | .atEnd => f.withArg "alignment" ".trailing"
  | .row =>
      let f := Fragment.new "HStack"
      match layout.counterAlign with
      | .atStart => f.withArg "alignment" ".top"
      | .center => f
      | .atEnd => f.withArg "alignment" ".bottom"
      | .baseline => f.withArg "alignment" ".firstTextBaseline"

/-- A stack holding the flow children, with its padding. -/
def stack (node : AltNode) (layout : LayoutDescriptor) (flow : List Fragment) : Emit Fragment := do
  if layout.wrap then
    Emit.warn node "wrapping layouts are not supported by SwiftUI; emitted a non-wrapping stack"
  let gap ← if layout.gap < 0.0 then do
      Emit.warn node ("negative gap " ++ num layout.gap ++ " clamped to 0")
      pure 0.0
    else pure layout.gap
  let f := stackView layout
  let f :=
    if layout.primaryAlign == .spaceBetween then
      (f.withArg "spacing" "0").withChildren (spaced flow)
    else (f.withArg "spacing" (num gap)).withChildren flow
  return paddingModifiers f layout.padding

/-- Opacity, rotation and absolute offset. -/
def positionStyles (node : AltNode) (f : Fragment) : Emit Fragment := do
  let scene ← read
  let mut f := f
  if node.opacity < 1.0 then f := f.withModifier "opacity" (num node.opacity)
  if node.geometry.isRotated then
    f := f.withModifier "rotationEffect" (".degrees(" ++ num node.geometry.rotationDegrees ++ ")")
  if scene.isAbsolute node then
    f := f.withModifier "offset" ("x: " ++ num node.geometry.x ++ ", y: " ++ num node.geometry.y)
  return f

/-- The style of a fill, if SwiftUI can draw it. -/
def fillStyle (node : AltNode) (fill : PaintEntry) : Emit (Option String) :=
  match fill.kind with
  | .solid _ => return fill.solidColor.map color
  | .gradient g => return some (gradient g node.geometry.width)
  | .image _ => do
      Emit.warn node "image fills are not supported by SwiftUI; skipped"
      return none

/-- The stroke overlay of an outline. -/
def strokeOverlay (node : AltNode) (shape : String) (c : Color) : String :=
  let weight := num node.stroke.weight
  match node.stroke.align with
  | .inside => shape ++ ".strokeBorder(" ++ color c ++ ", lineWidth: " ++ weight ++ ")"
  | .center => shape ++ ".stroke(" ++ color c ++ ", lineWidth: " ++ weight ++ ")"
  | .outside => shape ++ ".stroke(" ++ color c ++ ", lineWidth: " ++ weight ++ ").padding(" ++
      num (-node.stroke.weight / 2.0) ++ ")"

/-- Fill, clipping, stroke, shadow and blur modifiers. -/
def shapeStyles (node : AltNode) (f : Fragment) : Emit Fragment := do
  let isShape := node.kind.isShape
  let shape := outline node
  let mut f := f
  if node.kind != .text then
    if let some fill := topPaint node.paint.fills then
      if let some style ← fillStyle node fill then
        f := if isShape then f.withModifier "fill" style
          else if shape == "Rectangle()" then f.withModifier "background" style
          else f.withModifier "background" (style ++ ", in: " ++ shape)
  if !isShape && node.clipsContent && node.kind != .text then
    f := if shape != "Rectangle()" then f.withModifier "clipShape" shape
      else f.withModifier "clipped" ""
  if node.hasVisibleStroke then
    match node.paint.strokes.reverse.findSome? PaintEntry.solidColor with
    | some c => f := f.withModifier "overlay" (strokeOverlay node shape c)
    | none => Emit.warn node "only solid strokes are supported; stroke skipped"
  for effect in node.effects do
    match effect with
    | .dropShadow s =>
        f := f.withModifier "shadow" ("color: " ++ color s.color ++ ", radius: " ++
          num (s.radius / 2.0) ++ ", x: " ++ num s.offsetX ++ ", y: " ++ num s.offsetY)
    | .innerShadow _ => Emit.warn node "inner shadows are not supported by SwiftUI; skipped"
    | .layerBlur r => f := f.withModifier "blur" ("radius: " ++ num (r / 2.0))
    | .backgroundBlur _ => f := f.withModifier "background" ".ultraThinMaterial"
  return f

/-- A shape view with its styles, framed. -/
def shape (node : AltNode) : Emit Fragment := do
  let f ← shapeStyles node (outlineView node)
  positionStyles node (framed f node none)

/-- A run as one expression: the text view and its modifier chain on one line. -/
def runExpression (f : Fragment) : String :=
  view { f with modifiers := [] } ++
    String.join (f.modifiers.map fun (name, margs) => "." ++ name ++ "(" ++ margs ++ ")")

/-- A text view; several runs are concatenated text views. -/
def text (node : AltNode) : Emit Fragment := do
  match node.text with
  | none => shape node
  | some content =>
      let mut f ← match content.runs with
        | [] => pure ((Fragment.new "Text").withArg "" "\"\"")
        | [run] => runText node run
        | runs => do
            let mut parts := []
            for run in runs do
              parts := parts ++ [runExpression (← runText node run)]
            let lines := match parts with
              | [] => []
              | first :: rest => first :: rest.map ("+ " ++ ·)
            pure { Fragment.new "Text" with content := lines }
      if let some spacing := content.runs.head?.bind lineSpacing then
        f := f.withModifier "lineSpacing" (num spacing)
      match content.align with
      | .left => pure ()
      | .center => f := f.withModifier "multilineTextAlignment" ".center"
      | .right => f := f.withModifier "multilineTextAlignment" ".trailing"
      | .justified =>
          Emit.warn node "justified text is not supported by SwiftUI; using leading alignment"
      positionStyles node (← shapeStyles node (framed f node none))

/-- An asset image standing in for vector markup, with a warning. -/
def vector (node : AltNode) (_markup : String) : Emit Fragment := do
  Emit.warn node "inline SVG is not supported by SwiftUI; emitted an asset image placeholder"
  let f := (Fragment.new "Image").withArg "" ("\"" ++ resourceName node.uniqueName ++ "\"")
    |>.withModifier "resizable" ""
  positionStyles node (framed f node none)

/-- A container: the stack of its layout (under an overlay with the absolute children, if
any), or an overlay of all children. -/
def container (node : AltNode) (children : List (AltNode × Fragment)) : Emit Fragment := do
  let (flow, absolute) := partitionChildren children
  let (f, alignment) ← match node.layout with
    | some layout => do
        let s ← stack node layout flow
        if absolute.isEmpty then pure (s, frameAlignment layout)
        else pure ((Fragment.new "ZStack").withArg "alignment" ".topLeading" |>.withChild s
          |>.withChildren absolute, "topLeading")
    | none => pure ((Fragment.new "ZStack").withArg "alignment" ".topLeading" |>.withChildren flow
        |>.withChildren absolute, "topLeading")
  positionStyles node (← shapeStyles node (framed f node (some alignment)))

/-- The views one after another, or wrapped in a view struct with an optional preview. -/
def document (config : RunConfig) (name : String) (bodies : List String) : String :=
  if config.swiftuiMode == .snippet then "\n\n".intercalate bodies
  else
    let body :=
      match bodies with
      | [] => "EmptyView()"
      | [single] => single
      | many => "VStack(alignment: .leading, spacing: 0) \x7b\n" ++
          indentBlock ("\n".intercalate many) 4 ++ "\n\x7d"
    let typeName := toPascalCase name
    let viewStruct := "import SwiftUI\n\nstruct " ++ typeName ++
      ": View \x7b\n    var body: some View \x7b\n" ++ indentBlock body 8 ++ "\n    \x7d\n\x7d\n"
    if config.swiftuiMode == .preview then
      viewStruct ++ "\n#Preview \x7b\n    " ++ typeName ++ "()\n\x7d\n"
    else viewStruct

/-- The SwiftUI target. -/
def target : Target where
  text := text
  vector := vector
  shape := shape
  container := container
  withLayerName node f := f.withComment node.name
  render _ f := view f
  document := document

end SwiftUi

end Handoff
