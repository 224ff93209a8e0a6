/-
Module: Handoff.Target.Compose
Purpose: Jetpack Compose composables. A fragment is a call whose positional arguments come
  first, then its `modifier` chain, then its named arguments; the children of a layout
  composable form its trailing content lambda. A call stays on one line when it fits in 100
  bytes and has no line break; a modifier chain stays on one line up to 80 bytes. Flex
  layouts become rows, columns or flow rows and columns whose own modifiers are those of the
  node; absolute children sit in a `Box` above the flow. Vector markup has no Compose form: a
  drawable resource stands in for it, with a warning. A snippet is the composables one after
  another; a composable function wraps them with the imports its text needs.
Main exports: Compose.invocation, Compose.composable, Compose.arrangement, Compose.target.
-/
import Handoff.Emit.Scene
import Handoff.Emit.Template
import Handoff.Text.Search

namespace Handoff

namespace Compose

/-- Composables whose children form a content lambda. -/
def containers : List String := ["Row", "Column", "Box", "FlowRow", "FlowColumn"]

/-- The widest call kept on one line, in bytes. -/
def inlineWidth : Nat := 100

/-- The widest modifier chain kept on one line, in bytes. -/
def chainWidth : Nat := 80

/-- Imports, each with the texts that make it necessary. -/
def imports : List (List String × String) :=
  [(["Image("], "androidx.compose.foundation.Image"),
    ([".background("], "androidx.compose.foundation.background"),
    ([".border("], "androidx.compose.foundation.border"),
    (["Arrangement."], "androidx.compose.foundation.layout.Arrangement"),
    (["Box(", "Box \x7b"], "androidx.compose.foundation.layout.Box"),
    (["Column(", "Column \x7b"], "androidx.compose.foundation.layout.Column"),
    (["FlowColumn("], "androidx.compose.foundation.layout.FlowColumn"),
    (["FlowRow("], "androidx.compose.foundation.layout.FlowRow"),
    (["Row(", "Row \x7b"], "androidx.compose.foundation.layout.Row"),
    ([".fillMaxHeight("], "androidx.compose.foundation.layout.fillMaxHeight"),
    ([".fillMaxWidth("], "androidx.compose.foundation.layout.fillMaxWidth"),
    ([".height("], "androidx.compose.foundation.layout.height"),
    ([".offset("], "androidx.compose.foundation.layout.offset"),
    ([".padding("], "androidx.compose.foundation.layout.padding"),
    ([".size("], "androidx.compose.foundation.layout.size"),
    ([".width("], "androidx.compose.foundation.layout.width"),
    (["CircleShape"], "androidx.compose.foundation.shape.CircleShape"),
    (["RoundedCornerShape"], "androidx.compose.foundation.shape.RoundedCornerShape"),
    (["Text("], "androidx.compose.material3.Text"),
    (["@Composable"], "androidx.compose.runtime.Composable"),
    (["Alignment."], "androidx.compose.ui.Alignment"),
    (["Modifier"], "androidx.compose.ui.Modifier"),
    ([".alpha("], "androidx.compose.ui.draw.alpha"),
    ([".blur("], "androidx.compose.ui.draw.blur"),
    ([".clip("], "androidx.compose.ui.draw.clip"),
    ([".clipToBounds("], "androidx.compose.ui.draw.clipToBounds"),
    ([".rotate("], "androidx.compose.ui.draw.rotate"),
    ([".shadow("], "androidx.compose.ui.draw.shadow"),
    (["Offset("], "androidx.compose.ui.geometry.Offset"),
    (["Brush."], "androidx.compose.ui.graphics.Brush"),
    (["Color("], "androidx.compose.ui.graphics.Color"),
    (["Shadow("], "androidx.compose.ui.graphics.Shadow"),
    (["painterResource("], "androidx.compose.ui.res.painterResource"),
    (["SpanStyle("], "androidx.compose.ui.text.SpanStyle"),
    (["TextStyle("], "androidx.compose.ui.text.TextStyle"),
    (["buildAnnotatedString"], "androidx.compose.ui.text.buildAnnotatedString"),
    (["FontStyle."], "androidx.compose.ui.text.font.FontStyle"),
    (["FontWeight"], "androidx.compose.ui.text.font.FontWeight"),
    (["TextAlign."], "androidx.compose.ui.text.style.TextAlign"),
    (["TextDecoration."], "androidx.compose.ui.text.style.TextDecoration"),
    (["withStyle("], "androidx.compose.ui.text.withStyle"),
    ([".dp"], "androidx.compose.ui.unit.dp"),
    ([".sp,", ".sp)", ".sp\n"], "androidx.compose.ui.unit.sp")]

/-- A colour literal. -/
def color (c : Color) : String := "Color(" ++ argbHex c ++ ")"

/-- Density-independent pixels. -/
def dp (v : Float) : String := num v ++ ".dp"

/-- Scale-independent pixels. -/
def sp (v : Float) : String := num v ++ ".sp"

/-- A float literal. -/
def float (v : Float) : String := num v ++ "f"

/-- A call on one line when it fits, one argument per line otherwise. -/
def invocation (name : String) (parts : List String) : String :=
  let inline := ", ".intercalate parts
  if !inline.contains '\n' && name.utf8ByteSize + inline.utf8ByteSize + 2 ≤ inlineWidth then
    name ++ "(" ++ inline ++ ")"
  else name ++ "(\n" ++ indentBlock ("\n".intercalate (parts.map (· ++ ","))) 4 ++ "\n)"

/-- A modifier chain, on one line when it fits and one call per line otherwise. -/
def modifierChain (modifiers : List (String × String)) : Option String :=
  if modifiers.isEmpty then none
  else
    let calls := modifiers.map fun (name, args) => "." ++ name ++ "(" ++ args ++ ")"
    let inline := "Modifier" ++ String.join calls
    if inline.utf8ByteSize ≤ chainWidth then some inline
    else some ("Modifier\n" ++ indentBlock ("\n".intercalate calls) 4)

mutual

/-- A composable call with its content lambda, after its comment. -/
def composable : Fragment → String
  | ⟨element, args, _, modifiers, children, _, comment⟩ =>
      let positional := (args.filter fun a => a.1.isEmpty).map Prod.snd
      let chain := match modifierChain modifiers with
        | some c => ["modifier = " ++ c]
        | none => []
      let named := (args.filter fun a => !a.1.isEmpty).map fun (n, v) => n ++ " = " ++ v
      let parts := positional ++ chain ++ named
      let out :=
        if containers.contains element && !children.isEmpty then
          let head := if parts.isEmpty then element else invocation element parts
          head ++ " \x7b\n" ++ indentBlock ("\n".intercalate (composables children)) 4 ++ "\n\x7d"
        else invocation element parts
      match comment with
      | some c => "// " ++ c ++ "\n" ++ out
      | none => out

/-- Composables of a list of fragments. -/
def composables : List Fragment → List String
  | [] => []
  | f :: rest => composable f :: composables rest

end

/-- The shape of a node's corners, if it is rounded. -/
def cornerShape (node : AltNode) : Option String :=
  if node.kind == .ellipse then some "CircleShape"
  else match node.cornerRadius with
    | .uniform r => if r > 0.0 then some ("RoundedCornerShape(" ++ dp r ++ ")") else none
    | .perCorner tl tr br bl =>
        if !node.cornerRadius.isZero then
          some ("RoundedCornerShape(topStart = " ++ dp tl ++ ", topEnd = " ++ dp tr ++
            ", bottomEnd = " ++ dp br ++ ", bottomStart = " ++ dp bl ++ ")")
        else none

/-- A gradient brush in the node's pixel space. -/
def brush (g : Gradient) (node : AltNode) : String :=
  let width := node.geometry.width
  let height := node.geometry.height
  let offset (x y : Float) : String :=
    "Offset(" ++ float (x * width) ++ ", " ++ float (y * height) ++ ")"
  let stops := ", ".intercalate (g.stops.map fun s =>
    float s.offset ++ " to " ++ color s.effectiveColor)
  match g with
  | .linear angle _ =>
      let ((sx, sy), (ex, ey)) := unitPoints angle
      "Brush.linearGradient(" ++ stops ++ ", start = " ++ offset sx sy ++ ", end = " ++
        offset ex ey ++ ")"
  | .radial cx cy rx _ _ =>
      "Brush.radialGradient(" ++ stops ++ ", center = " ++ offset cx cy ++ ", radius = " ++
        float (rx * width) ++ ")"
  | .angular cx cy _ _ => "Brush.sweepGradient(" ++ stops ++ ", center = " ++ offset cx cy ++ ")"

/-- The padding modifier of a layout. -/
def paddingModifier (f : Fragment) (p : Padding) : Fragment :=
  if p.isZero then f
  else if p.isUniform then f.withModifier "padding" (dp p.top)
  else if p.isSymmetric then
    f.withModifier "padding" ("horizontal = " ++ dp p.left ++ ", vertical = " ++ dp p.top)
  else
    f.withModifier "padding" ("start = " ++ dp p.left ++ ", top = " ++ dp p.top ++ ", end = " ++
      dp p.right ++ ", bottom = " ++ dp p.bottom)

/-- A font weight: named when it is a multiple of a hundred up to 900. -/
def fontWeight : Nat → String
  | 100 => "FontWeight.Thin"
  | 200 => "FontWeight.ExtraLight"
  | 300 => "FontWeight.Light"
  | 400 => "FontWeight.Normal"
  | 500 => "FontWeight.Medium"
  | 600 => "FontWeight.SemiBold"
  | 700 => "FontWeight.Bold"
  | 800 => "FontWeight.ExtraBold"
  | 900 => "FontWeight.Black"
  | other => "FontWeight(" ++ Nat.repr other ++ ")"

/-- The main-axis arrangement of a layout, or nothing for the default packed start. -/
def arrangement (layout : LayoutDescriptor) (horizontal : Bool) : Option String :=
  let gap := layout.gap
  let anchor : PrimaryAlign → String
    | .center => if horizontal then "Alignment.CenterHorizontally" else "Alignment.CenterVertically"
    | .atEnd => if horizontal then "Alignment.End" else "Alignment.Bottom"
    | _ => if horizontal then "Alignment.Start" else "Alignment.Top"
  match layout.primaryAlign with
  | .spaceBetween => some "Arrangement.SpaceBetween"
  | .atStart => if gap != 0.0 then some ("Arrangement.spacedBy(" ++ dp gap ++ ")") else none
  | align =>
      if gap != 0.0 then some ("Arrangement.spacedBy(" ++ dp gap ++ ", " ++ anchor align ++ ")")
      else match align with
        | .center => some "Arrangement.Center"
        | _ => if horizontal then some "Arrangement.End" else some "Arrangement.Bottom"

/-- Size modifiers: one `size` when both axes are fixed, else one per axis (a weight along
the parent's flow, a fill across it). -/
def sized (f : Fragment) (node : AltNode) (scene : Scene) : Fragment :=
  match dims node with
  | (.fixed w, .fixed h) =>
      if w == h then f.withModifier "size" (dp w) else f.withModifier "size" (dp w ++ ", " ++ dp h)
  | (width, height) =>
      [(true, width), (false, height)].foldl (fun f (horizontal, dim) =>
        match dim with
        | .fixed value => f.withModifier (if horizontal then "width" else "height") (dp value)
        | .fill =>
            if fillsMainAxis scene node horizontal then f.withModifier "weight" "1f"
            else f.withModifier (if horizontal then "fillMaxWidth" else "fillMaxHeight") ""
        | .hug => f) f

/-- The style arguments of a run, colour first. -/
def spanArgs (node : AltNode) (run : TextRun) : Emit (List (String × String)) := do
  let colorArg := match ← nativeTextColor node run "Compose" with
    | some c => [("color", color c)]
    | none => []
  let weight := if run.fontWeight != 400 then [("fontWeight", fontWeight run.fontWeight)] else []
  let italic := if run.italic then [("fontStyle", "FontStyle.Italic")] else []
  let decoration := match run.decoration with
    | .plain => []
    | .underline => [("textDecoration", "TextDecoration.Underline")]
    | .strikethrough => [("textDecoration", "TextDecoration.LineThrough")]
  let spacing := if run.letterSpacing != 0.0 then [("letterSpacing", sp run.letterSpacing)] else []
  return colorArg ++ [("fontSize", sp run.fontSize)] ++ weight ++ italic ++ decoration ++ spacing

/-- The quoted characters of a run, case transform applied. -/
def literal (run : TextRun) : String :=
  "\"" ++ escapeLiteral (applyCase run.characters run.caseTransform) true ++ "\""

/-- The text style of the first drop shadow; later ones are dropped with a warning. -/
def textShadow (node : AltNode) : Emit (Option String) := do
  let shadows := node.effects.filterMap fun e => match e with
    | .dropShadow s => some s
    | _ => none
  match shadows with
  | [] => return none
  | first :: rest =>
      if !rest.isEmpty then
        Emit.warn node "Compose supports one shadow per element; extra shadows skipped"
      return some ("TextStyle(shadow = Shadow(color = " ++ color first.color ++
        ", offset = Offset(" ++ float first.offsetX ++ ", " ++ float first.offsetY ++
        "), blurRadius = " ++ float first.radius ++ "))")

/-- The composable of a flex layout: a row or a column, flowing when the layout wraps. -/
def flowElement (layout : LayoutDescriptor) : String :=
  match layout.direction, layout.wrap with
  | .row, false => "Row"
  | .column, false => "Column"
  | .row, true => "FlowRow"
  | .column, true => "FlowColumn"

/-- The flex composable of a layout with its arrangement and alignment arguments, before its
children. -/
def flowComposable (node : AltNode) (layout : LayoutDescriptor) : Emit Fragment := do
  let horizontal := layout.direction == .row
  let mut f := Fragment.new (flowElement layout)
  let main := if horizontal then "horizontalArrangement" else "verticalArrangement"
  if let some a := arrangement layout horizontal then f := f.withArg main a
  if layout.wrap && layout.gap != 0.0 then
    let cross := if horizontal then "verticalArrangement" else "horizontalArrangement"
    f := f.withArg cross ("Arrangement.spacedBy(" ++ dp layout.gap ++ ")")
  let counter ← match layout.counterAlign with
    | .atStart => pure none
    | .center =>
        pure (some (if horizontal then "Alignment.CenterVertically"
          else "Alignment.CenterHorizontally"))
    | .atEnd => pure (some (if horizontal then "Alignment.Bottom" else "Alignment.End"))
    | .baseline => do
        Emit.warn node "baseline alignment is not supported by Compose; using start"
        pure none
  if let some c := counter then
    if !layout.wrap then
      f := f.withArg (if horizontal then "verticalAlignment" else "horizontalAlignment") c
  return f

/-- A flex composable holding the flow children. -/
def flow (node : AltNode) (layout : LayoutDescriptor) (children : List Fragment) :
    Emit Fragment := do
  return (← flowComposable node layout).withChildren children

/-- Offset, rotation, opacity and size modifiers. -/
def positionStyles (node : AltNode) (f : Fragment) : Emit Fragment := do
  let scene ← read
  let mut f := f
  if scene.isAbsolute node then
    f := f.withModifier "offset" ("x = " ++ dp node.geometry.x ++ ", y = " ++ dp node.geometry.y)
  if node.geometry.isRotated then f := f.withModifier "rotate" (float node.geometry.rotationDegrees)
  if node.opacity < 1.0 then f := f.withModifier "alpha" (float node.opacity)
  return sized f node scene

/-- Shadow, clipping, background, border and blur modifiers. -/
def shapeStyles (node : AltNode) (f : Fragment) : Emit Fragment := do
  let shape := cornerShape node
  let withShape (value : String) : String :=
    match shape with
    | some s => value ++ ", " ++ s
    | none => value
  let isText := node.kind == .text
  let mut f := f
  if !isText then
    let mut shadows := 0
    for effect in node.effects do
      match effect with
      | .dropShadow s =>
          shadows := shadows + 1
          if shadows == 1 then f := f.withModifier "shadow" (withShape (dp (s.radius / 2.0)))
      | .innerShadow _ => Emit.warn node "inner shadows are not supported by Compose; skipped"
      | _ => pure ()
    if shadows > 1 then
      Emit.warn node "Compose supports one shadow per element; extra shadows skipped"
  if node.clipsContent then
    f := match shape with
      | some s => f.withModifier "clip" s
      | none => f.withModifier "clipToBounds" ""
  if !isText then
    if let some fill := topPaint node.paint.fills then
      match fill.kind with
      | .solid _ =>
          if let some c := fill.solidColor then
            f := f.withModifier "background" (withShape (color c))
      | .gradient g => f := f.withModifier "background" (withShape (brush g node))
      | .image _ => Emit.warn node "image fills are not supported by Compose; skipped"
  if node.hasVisibleStroke then
    match node.paint.strokes.reverse.findSome? PaintEntry.solidColor with
    | some c => f := f.withModifier "border" (withShape (dp node.stroke.weight ++ ", " ++ color c))
    | none => Emit.warn node "only solid strokes are supported; stroke skipped"
  for effect in node.effects do
    match effect with
    | .layerBlur r => f := f.withModifier "blur" (dp (r / 2.0))
    | .backgroundBlur _ => Emit.warn node "background blur is not supported by Compose; skipped"
    | _ => pure ()
  return f

/-- A styled box. -/
def shape (node : AltNode) : Emit Fragment := do
  shapeStyles node (← positionStyles node (Fragment.new "Box"))

/-- One styled span of an annotated string. -/
def span (node : AltNode) (run : TextRun) : Emit String := do
  let args := (← spanArgs node run).map fun (n, v) => n ++ " = " ++ v
  return "withStyle(" ++ invocation "SpanStyle" args ++ ") \x7b\n    append(" ++ literal run ++
    ")\n\x7d"

/-- A text composable; several runs make an annotated string. -/
def text (node : AltNode) : Emit Fragment := do
  match node.text with
  | none => shape node
  | some content =>
      let mut f ← shapeStyles node (← positionStyles node (Fragment.new "Text"))
      match content.runs with
      | [] => f := f.withArg "text" "\"\""
      | [run] =>
          f := f.withArg "text" (literal run)
          for (name, value) in ← spanArgs node run do
            f := f.withArg name value
      | runs =>
          let mut spans := []
          for run in runs do
            spans := spans ++ [← span node run]
          f := f.withArg "text"
            ("buildAnnotatedString \x7b\n" ++ indentBlock ("\n".intercalate spans) 4 ++ "\n\x7d")
      if let some run := content.runs.head? then
        let height := match run.lineHeight with
          | .auto => none
          | .pixels v => some v
          | .percent v => some (run.fontSize * v / 100.0)
        if let some h := height then f := f.withArg "lineHeight" (sp h)
      f := match content.align with
        | .left => f
        | .center => f.withArg "textAlign" "TextAlign.Center"
        | .right => f.withArg "textAlign" "TextAlign.End"
        | .justified => f.withArg "textAlign" "TextAlign.Justify"
      for effect in node.effects do
        match effect with
        | .innerShadow _ => Emit.warn node "inner shadows on text are not supported; skipped"
        | _ => pure ()
      match ← textShadow node with
      | some style => return f.withArg "style" style
      | none => return f

/-- A drawable resource standing in for vector markup, with a warning. -/
def vector (node : AltNode) (_markup : String) : Emit Fragment := do
  Emit.warn node "inline SVG is not supported by Compose; emitted a drawable resource placeholder"
  let f := (Fragment.new "Image").withArg "painter"
    ("painterResource(id = R.drawable." ++ resourceName node.uniqueName ++ ")")
  return (← positionStyles node f).withArg "contentDescription"
    ("\"" ++ escapeLiteral node.name true ++ "\"")

/-- A container: its flex composable carrying the node's own modifiers, or a box over the
flow with the absolute children, or a box of all children. -/
def container (node : AltNode) (children : List (AltNode × Fragment)) : Emit Fragment := do
  let (flowChildren, absolute) := partitionChildren children
  let outer (element : String) : Emit Fragment := do
    shapeStyles node (← positionStyles node (Fragment.new element))
  match node.layout with
  | some layout =>
      if absolute.isEmpty then
        let inner ← flow node layout flowChildren
        let styled ← outer inner.element
        let merged := { styled with args := inner.args, children := inner.children }
        return paddingModifier merged layout.padding
      else
        let inner ← flow node layout flowChildren
        let (width, height) := dims node
        let inner :=
          if width.isFixed && height.isFixed then inner.withModifier "matchParentSize" "" else inner
        return (← outer "Box").withChild (paddingModifier inner layout.padding)
          |>.withChildren absolute
  | none => return (← outer "Box").withChildren flowChildren |>.withChildren absolute

/-- The composables one after another, or wrapped in a composable function with its
imports. -/
def document (config : RunConfig) (name : String) (bodies : List String) : String :=
  if config.composeMode == .snippet then "\n\n".intercalate bodies
  else
    let body :=
      match bodies with
      | [] => "Box(modifier = Modifier)"
      | [single] => single
      | many => "Column \x7b\n" ++ indentBlock ("\n".intercalate many) 4 ++ "\n\x7d"
    let scanned := "@Composable\n" ++ body ++ "\n"
    let needed := imports.filter fun (needles, _) => needles.any (Text.includes scanned ·)
    let header := String.join (needed.map fun (_, i) => "import " ++ i ++ "\n") ++ "\n"
    header ++ "@Composable\nfun " ++ toPascalCase name ++ "() \x7b\n" ++ indentBlock body 4 ++
      "\n\x7d\n"

/-- The Compose target. -/
def target : Target where
  text := text
  vector := vector
  shape := shape
  container := container
  withLayerName node f := f.withComment node.name
  render _ f := composable f
  document := document

end Compose

end Handoff
