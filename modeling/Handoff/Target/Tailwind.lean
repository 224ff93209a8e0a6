/-
Module: Handoff.Target.Tailwind
Purpose: Markup styled by utility classes. Lengths snap onto the configured spacing, font
  size and radius scales when within the rounding threshold (the token `DEFAULT` names the
  bare prefix) and are written as arbitrary values such as `w-[137px]` otherwise; a negative
  value takes a leading minus unless its class ends in `-0`. Solid colours become a bound
  variable's custom property, the nearest named palette colour (with an opacity suffix when
  translucent), or an arbitrary colour. Spaces inside arbitrary values become underscores.
Main exports: Tailwind.arbitrary, Tailwind.scaled, Tailwind.colorClass, Tailwind.target.
-/
import Handoff.Target.Html
import Handoff.Text.Search

namespace Handoff

namespace Tailwind

/-- Rotations with a class of their own. -/
def rotations : List Float := [0.0, 1.0, 2.0, 3.0, 6.0, 12.0, 45.0, 90.0, 180.0]

/-- A text with every occurrence of one character replaced by a text. -/
def replaceChar (s : String) (c : Char) (by_ : String) : String :=
  String.join (s.toList.map fun d => if d == c then by_ else String.singleton d)

/-- A text with every occurrence of a comma and a space replaced by a comma. -/
def tightCommas (s : String) : String :=
  let rec go : List Char → List Char
    | [] => []
    | ',' :: ' ' :: rest => ',' :: go rest
    | c :: rest => c :: go rest
  String.ofList (go s.toList)

/-- An arbitrary-value class; spaces become underscores. -/
def arbitrary (pfx value : String) : String := pfx ++ "-[" ++ replaceChar value ' ' "_" ++ "]"

/-- The scale class of a value: its token on the scale, or an arbitrary length; negated with a
leading minus unless the class ends in `-0`. -/
def scaled (pfx : String) (value : Float) (scale : Option NumericScale) (threshold : Float) :
    String :=
  let cls :=
    match scale.bind (·.nearest value.abs threshold) with
    | some ("DEFAULT", _) => pfx
    | some (token, _) => pfx ++ "-" ++ token
    | none => arbitrary pfx (px value.abs)
  if value < 0.0 && !cls.endsWith "-0" then "-" ++ cls else cls

/-- The scales of a run: those of the utility-class table, when rounding is on. -/
structure Scales where
  spacing : Option NumericScale
  fontSize : Option NumericScale
  radius : Option NumericScale
  threshold : Float

/-- The scales configured for the utility-class target. -/
def Scales.ofConfig (config : RunConfig) : Scales :=
  let table := config.scaleTable .tailwind
  ⟨table.map ScaleTable.spacing, table.map ScaleTable.fontSize, table.map ScaleTable.radius,
    config.scaleThreshold⟩

/-- A spacing class. -/
def Scales.spacingClass (s : Scales) (pfx : String) (value : Float) : String :=
  scaled pfx value s.spacing s.threshold

/-- The colour class of a solid paint: a bound variable's custom property, a palette name
(with the opacity in percent, or as an arbitrary fraction when not a multiple of five), or
an arbitrary colour. -/
def colorClass (pfx : String) (entry : PaintEntry) (scene : Scene) : Option String := do
  let color ← entry.solidColor
  match entry.binding with
  | some binding =>
      if scene.config.useVariables then
        let value := "var(--" ++ tokenIdent binding.name ++ "," ++ cssColor color ++ ")"
        return arbitrary pfx (tightCommas value)
      else named color
  | none => named color
where
  /-- The palette or arbitrary class of a colour. -/
  named (color : Color) : Option String :=
    let full : Color := { color with a := 1.0 }
    match scene.palette.nearest full scene.config.paletteThreshold with
    | some entry =>
        if color.isOpaque then some (pfx ++ "-" ++ entry.name)
        else
          let pct := (color.a.toBinary64 * 100.0).roundHalfAway.toNatClamped 32
          if pct % 5 == 0 then some (pfx ++ "-" ++ entry.name ++ "/" ++ Nat.repr pct)
          else some (pfx ++ "-" ++ entry.name ++ "/[" ++ num color.a.toBinary64 ++ "]")
    | none => some (arbitrary pfx (tightCommas (cssColor color)))

/-- A size along one axis as a class. -/
def withSize (f : Fragment) (pfx : String) (dim : Dim) (mainAxis : Bool) (scales : Scales) :
    Fragment :=
  match dim with
  | .fixed value => f.withClass (scales.spacingClass pfx value)
  | .hug => f
  | .fill => if mainAxis then f.withClass "flex-1" else f.withClass "self-stretch"

/-- Flex classes of a layout; a negative gap is dropped with a warning. -/
def withLayout (f : Fragment) (node : AltNode) (layout : LayoutDescriptor) : Emit Fragment := do
  let scales := Scales.ofConfig (← Emit.config)
  let mut f := f.withClass "flex"
  if layout.direction == .column then f := f.withClass "flex-col"
  if layout.wrap then f := f.withClass "flex-wrap"
  f := match layout.primaryAlign with
    | .atStart => f
    | .center => f.withClass "justify-center"
    | .atEnd => f.withClass "justify-end"
    | .spaceBetween => f.withClass "justify-between"
  f := f.withClass (match layout.counterAlign with
    | .atStart => "items-start"
    | .center => "items-center"
    | .atEnd => "items-end"
    | .baseline => "items-baseline")
  if layout.primaryAlign != .spaceBetween then
    if layout.gap < 0.0 then Emit.warn node ("negative gap " ++ num layout.gap ++ " clamped to 0")
    else if layout.gap > 0.0 then f := f.withClass (scales.spacingClass "gap" layout.gap)
  let p := layout.padding
  if p.isZero then return f
  else if p.isUniform then return f.withClass (scales.spacingClass "p" p.top)
  else if p.isSymmetric then
    return f.withClass (scales.spacingClass "px" p.left)
      |>.withClass (scales.spacingClass "py" p.top)
  else
    return ([("pt", p.top), ("pr", p.right), ("pb", p.bottom), ("pl", p.left)].filter
      (fun e => e.2 != 0.0)).foldl (fun f (pfx, v) => f.withClass (scales.spacingClass pfx v)) f

/-- The font-weight class of a weight other than 400. -/
def weightClass : Nat → Option String
  | 400 => none
  | 100 => some "font-thin"
  | 200 => some "font-extralight"
  | 300 => some "font-light"
  | 500 => some "font-medium"
  | 600 => some "font-semibold"
  | 700 => some "font-bold"
  | 800 => some "font-extrabold"
  | 900 => some "font-black"
  | other => some ("font-[" ++ Nat.repr other ++ "]")

/-- Font, decoration, spacing and colour classes of a run. -/
def runClasses (f : Fragment) (node : AltNode) (run : TextRun) : Emit Fragment := do
  let scene ← read
  let scales := Scales.ofConfig scene.config
  let mut f := f.withClass (arbitrary "font" (cssString run.fontFamily))
    |>.withClass (scaled "text" run.fontSize scales.fontSize scales.threshold)
  if let some cls := weightClass run.fontWeight then f := f.withClass cls
  if run.italic then f := f.withClass "italic"
  f := match run.decoration with
    | .plain => f
    | .underline => f.withClass "underline"
    | .strikethrough => f.withClass "line-through"
  f := match run.caseTransform with
    | .original => f
    | .upper => f.withClass "uppercase"
    | .lower => f.withClass "lowercase"
    | .title => f.withClass "capitalize"
  if run.letterSpacing != 0.0 then f := f.withClass (arbitrary "tracking" (px run.letterSpacing))
  f := match run.lineHeight with
    | .auto => f
    | .pixels v => f.withClass (arbitrary "leading" (px v))
    | .percent v => f.withClass (arbitrary "leading" (num v ++ "%"))
  match runFill node run with
  | none => return f
  | some fill =>
      match fill.kind with
      | .solid _ =>
          match colorClass "text" fill scene with
          | some cls => return f.withClass cls
          | none => return f
      | .gradient g =>
          return f.withClass (arbitrary "bg" (tightCommas (cssGradient g)))
            |>.withClass "bg-clip-text" |>.withClass "text-transparent"
      | .image _ => do
          Emit.warn node "image fills on text are not supported; skipped"
          return f

/-- Placement, size, rotation and opacity classes. -/
def positionStyles (node : AltNode) (f : Fragment) : Emit Fragment := do
  let scene ← read
  let scales := Scales.ofConfig scene.config
  let mut f := f
  if scene.isAbsolute node then
    f := f.withClass "absolute" |>.withClass (scales.spacingClass "left" node.geometry.x)
      |>.withClass (scales.spacingClass "top" node.geometry.y)
  let (width, height) := dims node
  f := withSize f "w" width (fillsMainAxis scene node true) scales
  f := withSize f "h" height (fillsMainAxis scene node false) scales
  if node.geometry.isRotated then
    let degrees := node.geometry.rotationDegrees
    let cls :=
      if rotations.contains degrees.abs then "rotate-" ++ num degrees.abs
      else arbitrary "rotate" (num degrees.abs ++ "deg")
    f := f.withClass (if degrees < 0.0 then "-" ++ cls else cls)
  if node.opacity < 1.0 then
    let pct := (node.opacity * 100.0).roundHalfAway.toNatClamped 32
    f := if pct % 5 == 0 then f.withClass ("opacity-" ++ Nat.repr pct)
      else f.withClass (arbitrary "opacity" (num node.opacity))
  return f

/-- The background classes of a node that is not text. -/
def withBackground (f : Fragment) (fill : PaintEntry) (scene : Scene) : Fragment :=
  match fill.kind with
  | .solid _ =>
      match colorClass "bg" fill scene with
      | some cls => f.withClass cls
      | none => f
  | .gradient g => f.withClass (arbitrary "bg" (tightCommas (cssGradient g)))
  | .image image =>
      let f := f.withClass (arbitrary "bg" ("url('" ++ image.imageRef ++ "')"))
      match image.scaleMode with
      | .fill | .crop => f.withClass "bg-cover"
      | .fit => f.withClass "bg-contain" |>.withClass "bg-no-repeat"
      | .tile => f.withClass "bg-repeat"

/-- The border-width class of a stroke weight. -/
def borderWidth (w : Float) : String :=
  if w == 1.0 then "border"
  else if w == 2.0 || w == 4.0 || w == 8.0 then "border-" ++ num w
  else arbitrary "border" (px w)

/-- Fill, stroke, corner, shadow, blur and clipping classes. -/
def shapeStyles (node : AltNode) (f : Fragment) : Emit Fragment := do
  let scene ← read
  let scales := Scales.ofConfig scene.config
  let mut f := f
  if node.kind != .text then
    if let some fill := topPaint node.paint.fills then f := withBackground f fill scene
  if node.hasVisibleStroke then
    match node.paint.strokes.reverse.findSome? (colorClass "border" · scene) with
    | some color =>
        let weight := node.stroke.weight
        f := if node.stroke.align == .outside then
            f.withClass "outline" |>.withClass (arbitrary "outline" (px weight))
              |>.withClass (Text.replaceFirst color "border" "outline")
          else f.withClass (borderWidth weight) |>.withClass color
    | none => Emit.warn node "only solid strokes are supported; stroke skipped"
  if node.kind == .ellipse then f := f.withClass "rounded-full"
  else if !node.cornerRadius.isZero then
    f := match node.cornerRadius with
      | .uniform r => f.withClass (scaled "rounded" r scales.radius scales.threshold)
      | .perCorner tl tr br bl =>
          ([("rounded-tl", tl), ("rounded-tr", tr), ("rounded-br", br), ("rounded-bl", bl)].filter
            (fun e => e.2 != 0.0)).foldl
            (fun f (pfx, r) => f.withClass (scaled pfx r scales.radius scales.threshold)) f
  let shadows := node.effects.filterMap Html.cssShadow
  if !shadows.isEmpty then
    let value := tightCommas (",".intercalate shadows)
    f := if node.kind == .text then
        f.withClass ("[text-shadow:" ++ replaceChar value ' ' "_" ++ "]")
      else f.withClass (arbitrary "shadow" value)
  for effect in node.effects do
    match effect with
    | .layerBlur r => f := f.withClass (arbitrary "blur" (px r))
    | .backgroundBlur r => f := f.withClass (arbitrary "backdrop-blur" (px r))
    | _ => pure ()
  if node.clipsContent then f := f.withClass "overflow-hidden"
  return f

/-- A paragraph, one span per run when there are several. -/
def text (node : AltNode) : Emit Fragment := do
  let mode := (← Emit.config).markupMode
  let mut f := Fragment.new "p"
  if let some content := node.text then
    f := match content.align with
      | .left => f
      | .center => f.withClass "text-center"
      | .right => f.withClass "text-right"
      | .justified => f.withClass "text-justify"
    match content.runs with
    | [] => pure ()
    | [run] => f := (← runClasses f node run).withContent (Markup.escapeText run.characters mode)
    | runs =>
        for run in runs do
          let span := (Fragment.new "span").withContent (Markup.escapeText run.characters mode)
          f := f.withChild (← runClasses span node run)
  positionStyles node (← shapeStyles node f)

/-- Vector markup, placed and sized. -/
def vector (node : AltNode) (markup : String) : Emit Fragment := do
  positionStyles node (Markup.vectorFragment markup (← Emit.config).markupMode)

/-- A styled box. -/
def shape (node : AltNode) : Emit Fragment := do
  positionStyles node (← shapeStyles node (Fragment.new "div"))

/-- A box with its children, a flex box when it has a layout, positioned relative when a
child is placed absolutely and the box itself is not. -/
def container (node : AltNode) (children : List (AltNode × Fragment)) : Emit Fragment := do
  let scene ← read
  let mut f := Fragment.new "div"
  if let some layout := node.layout then f ← withLayout f node layout
  if children.any (fun (child, _) => scene.isAbsolute child) && !scene.isAbsolute node then
    f := f.withClass "relative"
  f := f.withChildren (children.map Prod.snd)
  positionStyles node (← shapeStyles node f)

/-- The utility-class target. -/
def target : Target where
  text := text
  vector := vector
  shape := shape
  container := container
  withLayerName := Html.withLayerName
  render config f := Markup.render f config.markupMode .classes
  document config name bodies := Markup.document name bodies config.markupMode

end Tailwind

end Handoff
