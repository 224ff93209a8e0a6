/-
Module: Handoff.Target.Flutter
Purpose: Flutter widget trees. A fragment is a constructor call: its arguments are named
  arguments (the empty name is the positional one), its children the `children` list of a
  multi-child widget or the `child` of any other, and its modifiers wrapper widgets applied
  innermost first. A call stays on one line when it fits in 80 bytes and has no line break,
  and otherwise puts one argument per line. Boxes are `Container`s with a `BoxDecoration`;
  flex layouts are `Row`, `Column` or `Wrap` inside a `Padding`; absolute children go on a
  `Stack`. A snippet is the widgets one after another; a stateless widget or a full app wraps
  them, importing the SVG and blur libraries when they are used.
Main exports: Flutter.invocation, Flutter.widget, Flutter.call, Flutter.target.
-/
import Handoff.Emit.Scene
import Handoff.Emit.Template
import Handoff.Text.Search

namespace Handoff

namespace Flutter

/-- Widgets whose children form a list. -/
def multiChild : List String := ["Row", "Column", "Stack", "Wrap"]

/-- The widest call kept on one line, in bytes. -/
def inlineWidth : Nat := 80

/-- A colour literal. -/
def color (c : Color) : String := "Color(" ++ argbHex c ++ ")"

/-- Radians of an angle in degrees, with four decimals and trailing zeros trimmed. -/
def radians (degrees : Float) : String := fixed degrees.toRadians 4

/-- An alignment from unit coordinates. -/
def alignment (x y : Float) : String :=
  "Alignment(" ++ num (x * 2.0 - 1.0) ++ ", " ++ num (y * 2.0 - 1.0) ++ ")"

/-- A list literal, one item per line. -/
def list (items : List String) : String :=
  if items.isEmpty then "[]"
  else "[\n" ++ indentBlock ("\n".intercalate (items.map (· ++ ","))) 2 ++ "\n]"

/-- A call on one line when it fits, one argument per line otherwise. -/
def invocation (name : String) (parts : List String) : String :=
  let inline := ", ".intercalate parts
  if !inline.contains '\n' && name.utf8ByteSize + inline.utf8ByteSize + 2 ≤ inlineWidth then
    name ++ "(" ++ inline ++ ")"
  else name ++ "(\n" ++ indentBlock ("\n".intercalate (parts.map (· ++ ","))) 2 ++ "\n)"

/-- An argument: its value alone when positional, `name: value` otherwise. -/
def argPart (arg : String × String) : String :=
  if arg.1.isEmpty then arg.2 else arg.1 ++ ": " ++ arg.2

mutual

/-- A widget inside its wrappers, after its comment. -/
def widget : Fragment → String
  | ⟨element, args, _, modifiers, children, _, comment⟩ =>
      let childParts :=
        if multiChild.contains element then ["children: " ++ list (widgets children)]
        else match widgets children with
          | first :: _ => ["child: " ++ first]
          | [] => []
      let out := invocation element (args.map argPart ++ childParts)
      let out := modifiers.foldl (fun out (name, margs) =>
        invocation name ((if margs.isEmpty then [] else [margs]) ++ ["child: " ++ out])) out
      match comment with
      | some c => "// " ++ c ++ "\n" ++ out
      | none => out

/-- Widgets of a list of fragments. -/
def widgets : List Fragment → List String
  | [] => []
  | f :: rest => widget f :: widgets rest

end

/-- A fragment's own constructor call, without wrappers or comment. -/
def call (f : Fragment) : String := widget { f with modifiers := [], comment := none }

/-- Padding as edge insets. -/
def edgeInsets (p : Padding) : String :=
  if p.isUniform then "EdgeInsets.all(" ++ num p.top ++ ")"
  else if p.isSymmetric then
    "EdgeInsets.symmetric(horizontal: " ++ num p.left ++ ", vertical: " ++ num p.top ++ ")"
  else
    "EdgeInsets.fromLTRB(" ++ num p.left ++ ", " ++ num p.top ++ ", " ++ num p.right ++ ", " ++
      num p.bottom ++ ")"

/-- A gradient constructor call. -/
def gradient (g : Gradient) : String :=
  let colors := g.stops.map fun s => color s.effectiveColor
  let stops := g.stops.map fun s => num s.offset
  let f :=
    match g with
    | .linear angle _ =>
        let ((sx, sy), (ex, ey)) := unitPoints angle
        (Fragment.new "LinearGradient").withArg "begin" (alignment sx sy)
          |>.withArg "end" (alignment ex ey)
    | .radial cx cy rx _ _ =>
        (Fragment.new "RadialGradient").withArg "center" (alignment cx cy)
          |>.withArg "radius" (num rx)
    | .angular cx cy start _ =>
        (Fragment.new "SweepGradient").withArg "center" (alignment cx cy)
          |>.withArg "transform" ("GradientRotation(" ++ radians (start - 90.0) ++ ")")
  call (f.withArg "colors" ("[" ++ ", ".intercalate colors ++ "]")
    |>.withArg "stops" ("[" ++ ", ".intercalate stops ++ "]"))

/-- A circular corner radius. -/
def radius (r : Float) : String := "Radius.circular(" ++ num r ++ ")"

/-- Width and height arguments: fixed sizes, and infinite ones for a node stretching across
its parent's flow. -/
def sized (f : Fragment) (node : AltNode) (scene : Scene) : Fragment :=
  let (width, height) := dims node
  [("width", width, true), ("height", height, false)].foldl (fun f (name, dim, horizontal) =>
    match dim with
    | .fixed value => f.withArg name (num value)
    | .fill => if !fillsMainAxis scene node horizontal then f.withArg name "double.infinity" else f
    | .hug => f) f

/-- The decoration image of an image fill. -/
def decorationImage (image : ImageFill) : String :=
  let img := (Fragment.new "DecorationImage").withArg "image"
    ("AssetImage(\"" ++ escapeLiteral image.imageRef true ++ "\")")
  call (match image.scaleMode with
    | .fill | .crop => img.withArg "fit" "BoxFit.cover"
    | .fit => img.withArg "fit" "BoxFit.contain"
    | .tile => img.withArg "repeat" "ImageRepeat.repeat")

/-- A box shadow of a drop shadow. -/
def boxShadow (s : Shadow) : String :=
  call ((Fragment.new "BoxShadow").withArg "color" (color s.color)
    |>.withArg "offset" ("Offset(" ++ num s.offsetX ++ ", " ++ num s.offsetY ++ ")")
    |>.withArg "blurRadius" (num s.radius) |>.withArg "spreadRadius" (num s.spread))

/-- The box decoration of a node, if it has anything to decorate. -/
def decoration (node : AltNode) : Emit (Option Fragment) := do
  let mut d := Fragment.new "BoxDecoration"
  if let some fill := topPaint node.paint.fills then
    d := match fill.kind with
      | .solid _ =>
          match fill.solidColor with
          | some c => d.withArg "color" (color c)
          | none => d
      | .gradient g => d.withArg "gradient" (gradient g)
      | .image image => d.withArg "image" (decorationImage image)
  if node.hasVisibleStroke then
    match node.paint.strokes.reverse.findSome? PaintEntry.solidColor with
    | some c =>
        let border := (Fragment.new "Border.all").withArg "color" (color c)
          |>.withArg "width" (num node.stroke.weight)
        let border := match node.stroke.align with
          | .inside => border
          | .center => border.withArg "strokeAlign" "BorderSide.strokeAlignCenter"
          | .outside => border.withArg "strokeAlign" "BorderSide.strokeAlignOutside"
        d := d.withArg "border" (call border)
    | none => Emit.warn node "only solid strokes are supported; stroke skipped"
  if node.kind == .ellipse then
    d := d.withArg "borderRadius" ("BorderRadius.all(Radius.elliptical(" ++
      num (node.geometry.width / 2.0) ++ ", " ++ num (node.geometry.height / 2.0) ++ "))")
  else if !node.cornerRadius.isZero then
    d := match node.cornerRadius with
      | .uniform r => d.withArg "borderRadius" ("BorderRadius.circular(" ++ num r ++ ")")
      | .perCorner tl tr br bl =>
          d.withArg "borderRadius" (call ((Fragment.new "BorderRadius.only")
            |>.withArg "topLeft" (radius tl) |>.withArg "topRight" (radius tr)
            |>.withArg "bottomRight" (radius br) |>.withArg "bottomLeft" (radius bl)))
  let mut shadows := []
  for effect in node.effects do
    match effect with
    | .dropShadow s => shadows := shadows ++ [boxShadow s]
    | .innerShadow _ => Emit.warn node "inner shadows are not supported by Flutter; skipped"
    | _ => pure ()
  if !shadows.isEmpty then d := d.withArg "boxShadow" (list shadows)
  return if d.args.isEmpty then none else some d

/-- The weight of a font rounded to a hundred between 100 and 900. -/
def weightName (weight : Nat) : String :=
  "FontWeight.w" ++ Nat.repr (min 900 (max 100 ((weight + 50) / 100 * 100)))

/-- The text style of a run. -/
def textStyle (node : AltNode) (run : TextRun) (shadows : List String) : Emit Fragment := do
  let mut style := (Fragment.new "TextStyle")
    |>.withArg "fontFamily" ("\"" ++ escapeLiteral run.fontFamily true ++ "\"")
    |>.withArg "fontSize" (num run.fontSize)
  if run.fontWeight != 400 then style := style.withArg "fontWeight" (weightName run.fontWeight)
  if run.italic then style := style.withArg "fontStyle" "FontStyle.italic"
  style := match run.decoration with
    | .plain => style
    | .underline => style.withArg "decoration" "TextDecoration.underline"
    | .strikethrough => style.withArg "decoration" "TextDecoration.lineThrough"
  if run.letterSpacing != 0.0 then style := style.withArg "letterSpacing" (num run.letterSpacing)
  style := match run.lineHeight with
    | .auto => style
    | .pixels v =>
        if run.fontSize > 0.0 then style.withArg "height" (num (v / run.fontSize)) else style
    | .percent v => style.withArg "height" (num (v / 100.0))
  if let some c ← nativeTextColor node run "Flutter" then style := style.withArg "color" (color c)
  if !shadows.isEmpty then style := style.withArg "shadows" (list shadows)
  return style

/-- The flex widget of a layout with its alignment and spacing arguments, before its
children: a wrap when the layout wraps, a row or a column otherwise. -/
def flexWidget (node : AltNode) (layout : LayoutDescriptor) (gap : Float) : Emit Fragment :=
  if layout.wrap then do
    let mut f := Fragment.new "Wrap"
    if layout.direction == .column then f := f.withArg "direction" "Axis.vertical"
    f := match layout.primaryAlign with
      | .atStart => f
      | .center => f.withArg "alignment" "WrapAlignment.center"
      | .atEnd => f.withArg "alignment" "WrapAlignment.end"
      | .spaceBetween => f.withArg "alignment" "WrapAlignment.spaceBetween"
    match layout.counterAlign with
    | .atStart => pure ()
    | .center => f := f.withArg "crossAxisAlignment" "WrapCrossAlignment.center"
    | .atEnd => f := f.withArg "crossAxisAlignment" "WrapCrossAlignment.end"
    | .baseline => Emit.warn node "baseline alignment is not supported by Wrap; using start"
    if gap > 0.0 then f := f.withArg "spacing" (num gap) |>.withArg "runSpacing" (num gap)
    pure f
  else do
    let mut f := Fragment.new (match layout.direction with
      | .row => "Row"
      | .column => "Column")
    f := match layout.primaryAlign with
      | .atStart => f
      | .center => f.withArg "mainAxisAlignment" "MainAxisAlignment.center"
      | .atEnd => f.withArg "mainAxisAlignment" "MainAxisAlignment.end"
      | .spaceBetween => f.withArg "mainAxisAlignment" "MainAxisAlignment.spaceBetween"
    f := match layout.counterAlign with
      | .center => f
      | .atStart => f.withArg "crossAxisAlignment" "CrossAxisAlignment.start"
      | .atEnd => f.withArg "crossAxisAlignment" "CrossAxisAlignment.end"
      | .baseline => f.withArg "crossAxisAlignment" "CrossAxisAlignment.baseline"
          |>.withArg "textBaseline" "TextBaseline.alphabetic"
    if layout.primarySizing == .hug then f := f.withArg "mainAxisSize" "MainAxisSize.min"
    if gap > 0.0 && layout.primaryAlign != .spaceBetween then f := f.withArg "spacing" (num gap)
    pure f

/-- A flex widget holding the flow children, inside a padding when there is one. -/
def flex (node : AltNode) (layout : LayoutDescriptor) (flow : List Fragment) : Emit Fragment := do
  let gap ← if layout.gap < 0.0 then do
      Emit.warn node ("negative gap " ++ num layout.gap ++ " clamped to 0")
      pure 0.0
    else pure layout.gap
  let f ← flexWidget node layout gap
  let f := f.withChildren flow
  if layout.padding.isZero then return f
  else return f.withModifier "Padding" ("padding: " ++ edgeInsets layout.padding)

/-- Sizing, rotation, opacity, expansion along the flow and absolute placement, as
wrappers. -/
def positionStyles (node : AltNode) (f : Fragment) : Emit Fragment := do
  let scene ← read
  let mut f := f
  if !(f.element == "Container" || f.element == "SvgPicture.string") then
    let box := sized (Fragment.new "SizedBox") node scene
    if !box.args.isEmpty then
      f := f.withModifier "SizedBox" (", ".intercalate (box.args.map fun (k, v) => k ++ ": " ++ v))
  if node.geometry.isRotated then
    f := f.withModifier "Transform.rotate" ("angle: " ++ radians node.geometry.rotationDegrees)
  if node.opacity < 1.0 then f := f.withModifier "Opacity" ("opacity: " ++ num node.opacity)
  let (width, height) := dims node
  let expands :=
    (width.isFill && fillsMainAxis scene node true) ||
      (height.isFill && fillsMainAxis scene node false)
  if expands then f := f.withModifier "Expanded" ""
  if scene.isAbsolute node then
    f := f.withModifier "Positioned"
      ("left: " ++ num node.geometry.x ++ ", top: " ++ num node.geometry.y)
  return f

/-- Decoration and clipping of a container, and blurs. -/
def shapeStyles (node : AltNode) (f : Fragment) : Emit Fragment := do
  let mut f := f
  if f.element == "Container" then
    match ← decoration node with
    | some d =>
        f := f.withArg "decoration" (call d)
        if node.clipsContent then f := f.withArg "clipBehavior" "Clip.hardEdge"
    | none => if node.clipsContent then f := f.withModifier "ClipRect" ""
  for effect in node.effects do
    match effect with
    | .layerBlur r =>
        f := f.withModifier "ImageFiltered" ("imageFilter: ImageFilter.blur(sigmaX: " ++
          num (r / 2.0) ++ ", sigmaY: " ++ num (r / 2.0) ++ ")")
    | .backgroundBlur _ => Emit.warn node "background blur is not supported by Flutter; skipped"
    | _ => pure ()
  return f

/-- A container box sized by its arguments, with decoration. -/
def shape (node : AltNode) : Emit Fragment := do
  let f := sized (Fragment.new "Container") node (← read)
  positionStyles node (← shapeStyles node f)

/-- The quoted characters of a run, case transform applied. -/
def literal (run : TextRun) : String :=
  "\"" ++ escapeLiteral (applyCase run.characters run.caseTransform) true ++ "\""

/-- A text widget, rich text when there are several runs. -/
def text (node : AltNode) : Emit Fragment := do
  match node.text with
  | none => shape node
  | some content =>
      let mut shadows := []
      for effect in node.effects do
        match effect with
        | .dropShadow s =>
            shadows := shadows ++ ["Shadow(color: " ++ color s.color ++ ", offset: Offset(" ++
              num s.offsetX ++ ", " ++ num s.offsetY ++ "), blurRadius: " ++ num s.radius ++ ")"]
        | .innerShadow _ => Emit.warn node "inner shadows on text are not supported; skipped"
        | _ => pure ()
      let mut f ← match content.runs with
        | [] => pure ((Fragment.new "Text").withArg "" "\"\"")
        | [run] => do
            let style ← textStyle node run shadows
            pure ((Fragment.new "Text").withArg "" (literal run) |>.withArg "style" (call style))
        | runs => do
            let mut spans := []
            for run in runs do
              let style ← textStyle node run shadows
              spans := spans ++ [call ((Fragment.new "TextSpan").withArg "text" (literal run)
                |>.withArg "style" (call style))]
            let root := (Fragment.new "TextSpan").withArg "children" (list spans)
            pure ((Fragment.new "Text.rich").withArg "" (call root))
      f := match content.align with
        | .left => f
        | .center => f.withArg "textAlign" "TextAlign.center"
        | .right => f.withArg "textAlign" "TextAlign.right"
        | .justified => f.withArg "textAlign" "TextAlign.justify"
      positionStyles node (← shapeStyles node f)

/-- Vector markup as an SVG picture sized by its arguments. -/
def vector (node : AltNode) (markup : String) : Emit Fragment := do
  let f := (Fragment.new "SvgPicture.string").withArg "" ("r'''" ++ Text.trim markup ++ "'''")
  positionStyles node (sized f node (← read))

/-- A container: the flex widget of its layout (on a stack with the absolute children, if
any), or a stack of all children. -/
def container (node : AltNode) (children : List (AltNode × Fragment)) : Emit Fragment := do
  let (flow, absolute) := partitionChildren children
  let body ← match node.layout with
    | some layout => do
        let f ← flex node layout flow
        if absolute.isEmpty then pure f
        else pure ((Fragment.new "Stack").withChild f |>.withChildren absolute)
    | none =>
        if flow.isEmpty && absolute.isEmpty then pure Fragment.empty
        else pure ((Fragment.new "Stack").withChildren flow |>.withChildren absolute)
  let f := sized (Fragment.new "Container") node (← read)
  let f := (← shapeStyles node f).withChild body
  positionStyles node f

/-- The stateless widget wrapper. -/
def statelessTemplate (header name body : String) : String :=
  header ++ "class " ++ name ++ " extends StatelessWidget \x7b\n  const " ++ name ++
    "(\x7bsuper.key\x7d);\n\n  @override\n  Widget build(BuildContext context) \x7b\n    return " ++
    body ++ ";\n  \x7d\n\x7d\n"

/-- The full application wrapper. -/
def appTemplate (header name body : String) : String :=
  header ++ "void main() \x7b\n  runApp(const MyApp());\n\x7d\n\n" ++
    "class MyApp extends StatelessWidget \x7b\n  const MyApp(\x7bsuper.key\x7d);\n\n" ++
    "  @override\n  Widget build(BuildContext context) \x7b\n" ++
    "    return MaterialApp(\n      debugShowCheckedModeBanner: false,\n      home: Scaffold(\n" ++
    "        body: SingleChildScrollView(\n          child: " ++ name ++ "(),\n        ),\n" ++
    "      ),\n    );\n  \x7d\n\x7d\n\n" ++ statelessTemplate "" name body

/-- The widgets one after another, or wrapped in a widget class or an application. -/
def document (config : RunConfig) (name : String) (bodies : List String) : String :=
  if config.flutterMode == .snippet then "\n\n".intercalate bodies
  else
    let body :=
      match bodies with
      | [] => "const SizedBox.shrink()"
      | [single] => single
      | many => invocation "Column"
          ["crossAxisAlignment: CrossAxisAlignment.start", "children: " ++ list many]
    let imports := ["package:flutter/material.dart"] ++
      (if Text.includes body "SvgPicture" then ["package:flutter_svg/flutter_svg.dart"] else [])
    let imports := (if Text.includes body "ImageFilter" then ["dart:ui"] else []) ++ imports
    let header := String.join (imports.map fun i => "import '" ++ i ++ "';\n") ++ "\n"
    let hung := Text.trimStart (indentBlock body 4)
    if config.flutterMode == .fullApp then appTemplate header (toPascalCase name) hung
    else statelessTemplate header (toPascalCase name) hung

/-- The Flutter target. -/
def target : Target where
  text := text
  vector := vector
  shape := shape
  container := container
  withLayerName node f := f.withComment node.name
  render _ f := widget f
  document := document

end Flutter

end Handoff
