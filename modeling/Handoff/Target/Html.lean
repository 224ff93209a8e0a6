/-
Module: Handoff.Target.Html
Purpose: HTML with inline CSS, or a React component when the markup mode is JSX. Containers
  with a layout are flex boxes; sizes are pixels, or `flex: 1 1 0` along the parent's flow and
  `align-self: stretch` across it; text is a paragraph, one span per run when there are
  several; vectors are inlined. Fills, strokes, corners, shadows and blurs map onto their CSS
  properties; what CSS cannot say on a node (non-solid strokes, image fills or inner shadows
  on text) is skipped with a warning.
Main exports: Html.cssPadding, Html.cssShadow, Html.target.
-/
import Handoff.Emit.Scene
import Handoff.Emit.Markup

namespace Handoff

namespace Html

/-- A size along one axis as a declaration. -/
def withSize (f : Fragment) (property : String) (dim : Dim) (mainAxis : Bool) : Fragment :=
  match dim with
  | .fixed value => f.withStyle property (px value)
  | .hug => f
  | .fill => if mainAxis then f.withStyle "flex" "1 1 0" else f.withStyle "align-self" "stretch"

/-- The shorthand padding value, or nothing when there is no padding. -/
def cssPadding (p : Padding) : Option String :=
  if p.isZero then none
  else if p.isUniform then some (px p.top)
  else if p.isSymmetric then some (px p.top ++ " " ++ px p.left)
  else some (px p.top ++ " " ++ px p.right ++ " " ++ px p.bottom ++ " " ++ px p.left)

/-- A box shadow value: offsets, blur, spread and colour, inset for inner shadows. -/
def cssShadow : Effect → Option String
  | .dropShadow s => some (px s.offsetX ++ " " ++ px s.offsetY ++ " " ++ px s.radius ++ " " ++
      px s.spread ++ " " ++ cssColor s.color)
  | .innerShadow s => some ("inset " ++ px s.offsetX ++ " " ++ px s.offsetY ++ " " ++
      px s.radius ++ " " ++ px s.spread ++ " " ++ cssColor s.color)
  | _ => none

/-- Flex declarations of a layout; a negative gap is dropped with a warning. -/
def withLayout (f : Fragment) (node : AltNode) (layout : LayoutDescriptor) : Emit Fragment := do
  let mut f := f.withStyle "display" "flex"
  if layout.direction == .column then f := f.withStyle "flex-direction" "column"
  if layout.wrap then f := f.withStyle "flex-wrap" "wrap"
  f := match layout.primaryAlign with
    | .atStart => f
    | .center => f.withStyle "justify-content" "center"
    | .atEnd => f.withStyle "justify-content" "flex-end"
    | .spaceBetween => f.withStyle "justify-content" "space-between"
  f := f.withStyle "align-items" (match layout.counterAlign with
    | .atStart => "flex-start"
    | .center => "center"
    | .atEnd => "flex-end"
    | .baseline => "baseline")
  if layout.primaryAlign != .spaceBetween then
    if layout.gap < 0.0 then Emit.warn node ("negative gap " ++ num layout.gap ++ " clamped to 0")
    else if layout.gap > 0.0 then f := f.withStyle "gap" (px layout.gap)
  match cssPadding layout.padding with
  | some padding => return f.withStyle "padding" padding
  | none => return f

/-- The colour declarations of a text fill. -/
def textFill (f : Fragment) (node : AltNode) (fill : PaintEntry) : Emit Fragment := do
  match fill.kind with
  | .solid _ =>
      match cssSolid fill (← Emit.config).useVariables with
      | some color => return f.withStyle "color" color
      | none => return f
  | .gradient g =>
      return f.withStyle "background" (cssGradient g) |>.withStyle "-webkit-background-clip" "text"
        |>.withStyle "color" "transparent"
  | .image _ => do
      Emit.warn node "image fills on text are not supported; skipped"
      return f

/-- The font, decoration, spacing and colour declarations of a run. -/
def runStyles (f : Fragment) (node : AltNode) (run : TextRun) : Emit Fragment := do
  let mut f := f.withStyle "font-family" (cssString run.fontFamily)
    |>.withStyle "font-size" (px run.fontSize)
  if run.fontWeight != 400 then f := f.withStyle "font-weight" (Nat.repr run.fontWeight)
  if run.italic then f := f.withStyle "font-style" "italic"
  f := match run.decoration with
    | .plain => f
    | .underline => f.withStyle "text-decoration" "underline"
    | .strikethrough => f.withStyle "text-decoration" "line-through"
  f := match run.caseTransform with
    | .original => f
    | .upper => f.withStyle "text-transform" "uppercase"
    | .lower => f.withStyle "text-transform" "lowercase"
    | .title => f.withStyle "text-transform" "capitalize"
  if run.letterSpacing != 0.0 then f := f.withStyle "letter-spacing" (px run.letterSpacing)
  f := match run.lineHeight with
    | .auto => f
    | .pixels v => f.withStyle "line-height" (px v)
    | .percent v => f.withStyle "line-height" (num v ++ "%")
  match runFill node run with
  | some fill => textFill f node fill
  | none => return f

/-- Placement, size, rotation and opacity. -/
def positionStyles (node : AltNode) (f : Fragment) : Emit Fragment := do
  let scene ← read
  let mut f := f
  if scene.isAbsolute node then
    f := f.withStyle "position" "absolute" |>.withStyle "left" (px node.geometry.x)
      |>.withStyle "top" (px node.geometry.y)
  let (width, height) := dims node
  f := withSize f "width" width (fillsMainAxis scene node true)
  f := withSize f "height" height (fillsMainAxis scene node false)
  if node.geometry.isRotated then
    f := f.withStyle "transform" ("rotate(" ++ num node.geometry.rotationDegrees ++ "deg)")
  if node.opacity < 1.0 then f := f.withStyle "opacity" (num node.opacity)
  return f

/-- The background of a node that is not text. -/
def withBackground (f : Fragment) (fill : PaintEntry) (useVariables : Bool) : Fragment :=
  match fill.kind with
  | .solid _ =>
      match cssSolid fill useVariables with
      | some color => f.withStyle "background-color" color
      | none => f
  | .gradient g => f.withStyle "background" (cssGradient g)
  | .image image =>
      let f := f.withStyle "background-image" ("url('" ++ image.imageRef ++ "')")
      match image.scaleMode with
      | .fill | .crop => f.withStyle "background-size" "cover"
      | .fit => f.withStyle "background-size" "contain" |>.withStyle "background-repeat" "no-repeat"
      | .tile => f.withStyle "background-repeat" "repeat"

/-- A text shadow value of a drop shadow. -/
def textShadow : Effect → Option String
  | .dropShadow s => some (px s.offsetX ++ " " ++ px s.offsetY ++ " " ++ px s.radius ++ " " ++
      cssColor s.color)
  | _ => none

/-- Fills, strokes, corners, shadows, blurs and clipping. -/
def shapeStyles (node : AltNode) (f : Fragment) : Emit Fragment := do
  let useVariables := (← Emit.config).useVariables
  let mut f := f
  if node.kind != .text then
    if let some fill := topPaint node.paint.fills then f := withBackground f fill useVariables
  if node.hasVisibleStroke then
    match node.paint.strokes.reverse.findSome? (cssSolid · useVariables) with
    | some color =>
        let property := if node.stroke.align == .outside then "outline" else "border"
        f := f.withStyle property (px node.stroke.weight ++ " solid " ++ color)
    | none => Emit.warn node "only solid strokes are supported; stroke skipped"
  if node.kind == .ellipse then f := f.withStyle "border-radius" "50%"
  else if !node.cornerRadius.isZero then
    f := match node.cornerRadius with
      | .uniform r => f.withStyle "border-radius" (px r)
      | .perCorner tl tr br bl =>
          f.withStyle "border-radius" (px tl ++ " " ++ px tr ++ " " ++ px br ++ " " ++ px bl)
  let shadows := node.effects.filterMap cssShadow
  if !shadows.isEmpty then
    if node.kind == .text then
      let textShadows := node.effects.filterMap textShadow
      if textShadows.length < shadows.length then
        Emit.warn node "inner shadows on text are not supported; skipped"
      if !textShadows.isEmpty then f := f.withStyle "text-shadow" (", ".intercalate textShadows)
    else f := f.withStyle "box-shadow" (", ".intercalate shadows)
  for effect in node.effects do
    match effect with
    | .layerBlur r => f := f.withStyle "filter" ("blur(" ++ px r ++ ")")
    | .backgroundBlur r => f := f.withStyle "backdrop-filter" ("blur(" ++ px r ++ ")")
    | _ => pure ()
  if node.clipsContent then f := f.withStyle "overflow" "hidden"
  return f

/-- A paragraph, one span per run when there are several. -/
def text (node : AltNode) : Emit Fragment := do
  let mode := (← Emit.config).markupMode
  let mut f := (Fragment.new "p").withStyle "margin" "0"
  if let some content := node.text then
    f := match content.align with
      | .left => f
      | .center => f.withStyle "text-align" "center"
      | .right => f.withStyle "text-align" "right"
      | .justified => f.withStyle "text-align" "justify"
    match content.runs with
    | [] => pure ()
    | [run] => f := (← runStyles f node run).withContent (Markup.escapeText run.characters mode)
    | runs =>
        for run in runs do
          let span := (Fragment.new "span").withContent (Markup.escapeText run.characters mode)
          f := f.withChild (← runStyles span node run)
  positionStyles node (← shapeStyles node f)

/-- Vector markup, placed and sized. -/
def vector (node : AltNode) (markup : String) : Emit Fragment := do
  positionStyles node (Markup.vectorFragment markup (← Emit.config).markupMode)

/-- A styled box. -/
def shape (node : AltNode) : Emit Fragment := do
  positionStyles node (← shapeStyles node (Fragment.new "div"))

/-- A box with its children, a flex box when it has a layout, positioned relative when a
child is placed absolutely. -/
def container (node : AltNode) (children : List (AltNode × Fragment)) : Emit Fragment := do
  let scene ← read
  let mut f := Fragment.new "div"
  if let some layout := node.layout then f ← withLayout f node layout
  if children.any (fun (child, _) => scene.isAbsolute child) then
    f := f.withStyle "position" "relative"
  f := f.withChildren (children.map Prod.snd)
  positionStyles node (← shapeStyles node f)

/-- The layer name as a data attribute. -/
def withLayerName (node : AltNode) (f : Fragment) : Fragment :=
  f.withArg "data-layer" (escapeHtml node.name)

/-- The inline-style target. -/
def target : Target where
  text := text
  vector := vector
  shape := shape
  container := container
  withLayerName := withLayerName
  render config f := Markup.render f config.markupMode .inline
  document config name bodies := Markup.document name bodies config.markupMode

end Html

end Handoff
