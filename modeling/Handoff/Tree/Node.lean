/-
Module: Handoff.Tree.Node
Purpose: The framework-independent description of a design that every backend reads: node
  kinds, un-rotated geometry in the parent's frame, paints (solid, gradient, image, with a
  bound variable), strokes, corners, effects, flow layout, placement and sizing, and text
  as styled runs. Rotations follow the CSS convention (clockwise positive).
Main exports: NodeKind, Geometry, Gradient, GradientStop, PaintKind, PaintEntry, Paint,
  Stroke, CornerRadius, Shadow, Effect, LayoutDescriptor, Positioning, ChildSizing,
  TextRun, TextContent, AltNode.
-/
import Handoff.Color

namespace Handoff

deriving instance BEq for Color

/-- The kinds of nodes. -/
inductive NodeKind where
  | container
  | rectangle
  | ellipse
  | text
  | vector
  | booleanOp
  deriving DecidableEq, Repr

namespace NodeKind

/-- Rectangles and ellipses. -/
def isPrimitiveShape : NodeKind → Bool
  | .rectangle | .ellipse => true
  | _ => false

/-- Kinds that draw geometry rather than hold structure or text. -/
def isShape : NodeKind → Bool
  | .rectangle | .ellipse | .vector | .booleanOp => true
  | _ => false

/-- The name of a kind. -/
def name : NodeKind → String
  | .container => "Container"
  | .rectangle => "Rectangle"
  | .ellipse => "Ellipse"
  | .text => "Text"
  | .vector => "Vector"
  | .booleanOp => "BooleanOp"

end NodeKind

/-- A node's own un-rotated box, offset from the parent's un-rotated top-left. -/
structure Geometry where
  x : Float
  y : Float
  width : Float
  height : Float
  /-- Own rotation, clockwise positive. -/
  rotationDegrees : Float
  /-- Own rotation plus every ancestor's. -/
  cumulativeRotationDegrees : Float

/-- Whether a node is turned by more than rounding noise. -/
def Geometry.isRotated (g : Geometry) : Bool := g.rotationDegrees.abs > Float.machineEpsilon

/-- A design token bound to a paint, with the literal colour as fallback. -/
structure VariableBinding where
  name : String
  fallbackHex : String
  deriving BEq

/-- How an image fill is scaled. -/
inductive ImageScaleMode where
  | fill
  | fit
  | tile
  | crop
  deriving DecidableEq, Repr

instance : BEq ImageScaleMode := instBEqOfDecidableEq

/-- An image fill. -/
structure ImageFill where
  imageRef : String
  scaleMode : ImageScaleMode
  deriving BEq

/-- A colour stop of a gradient. -/
structure GradientStop where
  /-- Position along the gradient, nominally in `[0, 1]`. -/
  offset : Float
  color : Color
  opacity : Float
  deriving BEq

/-- The stop colour with the stop opacity as alpha. -/
def GradientStop.effectiveColor (s : GradientStop) : Color :=
  { s.color with a := s.opacity.toBinary32 }

/-- A gradient with its geometry. -/
inductive Gradient where
  /-- CSS angle in degrees: 0 towards the top, 90 towards the right. -/
  | linear (angle : Float) (stops : List GradientStop)
  /-- Centre and radii relative to the bounds. -/
  | radial (centerX centerY radiusX radiusY : Float) (stops : List GradientStop)
  /-- Centre relative to the bounds and starting angle in CSS degrees. -/
  | angular (centerX centerY startAngle : Float) (stops : List GradientStop)
  deriving BEq

/-- The stops of a gradient. -/
def Gradient.stops : Gradient → List GradientStop
  | .linear _ s => s
  | .radial _ _ _ _ s => s
  | .angular _ _ _ s => s

/-- What a paint paints. -/
inductive PaintKind where
  | solid (color : Color)
  | gradient (g : Gradient)
  | image (fill : ImageFill)
  deriving BEq

/-- One fill or stroke. -/
structure PaintEntry where
  kind : PaintKind
  opacity : Float
  /-- Set once the bound variable resolves. -/
  binding : Option VariableBinding
  /-- The bound variable's id, awaiting resolution. -/
  variableRef : Option String
  deriving BEq

namespace PaintEntry

/-- A solid paint at full opacity. -/
def solid (c : Color) : PaintEntry := ⟨.solid c, 1.0, none, none⟩

/-- The colour of a solid paint with the paint opacity folded into alpha. -/
def solidColor (e : PaintEntry) : Option Color :=
  match e.kind with
  | .solid c => some (c.withOpacity e.opacity)
  | _ => none

end PaintEntry

/-- Fills and strokes, each listed bottom to top. -/
structure Paint where
  fills : List PaintEntry
  strokes : List PaintEntry

/-- Fills, then strokes. -/
def Paint.entries (p : Paint) : List PaintEntry := p.fills ++ p.strokes

/-- Where a stroke lies relative to the outline. -/
inductive StrokeAlign where
  | inside
  | center
  | outside
  deriving DecidableEq, Repr

/-- A stroke's weight and alignment. -/
structure Stroke where
  weight : Float
  align : StrokeAlign

/-- Corner rounding. -/
inductive CornerRadius where
  | uniform (r : Float)
  /-- Top-left, top-right, bottom-right, bottom-left. -/
  | perCorner (topLeft topRight bottomRight bottomLeft : Float)

/-- Whether no corner is rounded. -/
def CornerRadius.isZero : CornerRadius → Bool
  | .uniform r => r == 0.0
  | .perCorner a b c d => a == 0.0 && b == 0.0 && c == 0.0 && d == 0.0

/-- A shadow. -/
structure Shadow where
  color : Color
  offsetX : Float
  offsetY : Float
  radius : Float
  spread : Float

/-- A shadow or blur. -/
inductive Effect where
  | dropShadow (s : Shadow)
  | innerShadow (s : Shadow)
  | layerBlur (radius : Float)
  | backgroundBlur (radius : Float)

/-- The main axis of a flow container. -/
inductive Direction where
  | row
  | column
  deriving DecidableEq, Repr

/-- Distribution along the main axis. -/
inductive PrimaryAlign where
  | atStart
  | center
  | atEnd
  | spaceBetween
  deriving DecidableEq, Repr

/-- Alignment across the main axis. -/
inductive CounterAlign where
  | atStart
  | center
  | atEnd
  | baseline
  deriving DecidableEq, Repr

/-- How a node is sized along an axis. -/
inductive SizingMode where
  | fixed
  | hug
  | fill
  deriving DecidableEq, Repr

/-- Padding on the four sides. -/
structure Padding where
  top : Float
  right : Float
  bottom : Float
  left : Float

namespace Padding

/-- No padding. -/
def zero : Padding := ⟨0.0, 0.0, 0.0, 0.0⟩

/-- Whether every side is zero. -/
def isZero (p : Padding) : Bool :=
  p.top == 0.0 && p.right == 0.0 && p.bottom == 0.0 && p.left == 0.0

/-- Whether every side is the same. -/
def isUniform (p : Padding) : Bool := p.top == p.right && p.right == p.bottom && p.bottom == p.left

/-- Whether left equals right and top equals bottom. -/
def isSymmetric (p : Padding) : Bool := p.left == p.right && p.top == p.bottom

end Padding

/-- How a flow container arranges its children. -/
structure LayoutDescriptor where
  direction : Direction
  primaryAlign : PrimaryAlign
  counterAlign : CounterAlign
  wrap : Bool
  gap : Float
  padding : Padding
  primarySizing : SizingMode
  counterSizing : SizingMode
  /-- Some children are placed on top of the flow. -/
  hasAbsoluteChildren : Bool

namespace LayoutDescriptor

/-- Sizing along the horizontal axis. -/
def horizontalSizing (l : LayoutDescriptor) : SizingMode :=
  match l.direction with
  | .row => l.primarySizing
  | .column => l.counterSizing

/-- Sizing along the vertical axis. -/
def verticalSizing (l : LayoutDescriptor) : SizingMode :=
  match l.direction with
  | .row => l.counterSizing
  | .column => l.primarySizing

end LayoutDescriptor

/-- How a node is placed in its parent. -/
inductive Positioning where
  /-- By the parent's flow, or as a root. -/
  | flow
  /-- At its own coordinates. -/
  | absolute
  deriving DecidableEq, Repr

/-- A node's sizing as a child. -/
structure ChildSizing where
  horizontal : SizingMode
  vertical : SizingMode

/-- Text decoration lines. -/
inductive TextDecoration where
  | plain
  | underline
  | strikethrough
  deriving DecidableEq, Repr

/-- Case transforms of text. -/
inductive TextCase where
  | original
  | upper
  | lower
  | title
  deriving DecidableEq, Repr

/-- Horizontal text alignment. -/
inductive TextAlign where
  | left
  | center
  | right
  | justified
  deriving DecidableEq, Repr

/-- How a text box follows its content. -/
inductive TextAutoResize where
  | fixedBox
  | height
  | widthAndHeight
  deriving DecidableEq, Repr

/-- Line height of a run. -/
inductive LineHeight where
  | auto
  | pixels (v : Float)
  | percent (v : Float)
  deriving BEq

/-- A maximal span of uniformly styled characters. -/
structure TextRun where
  characters : String
  fontSize : Float
  fontWeight : Nat
  fontFamily : String
  italic : Bool
  decoration : TextDecoration
  caseTransform : TextCase
  /-- Index into the node's fills. -/
  fillRef : Option Nat
  /-- In pixels. -/
  letterSpacing : Float
  lineHeight : LineHeight

/-- Same styling, characters aside (numbers compare as numbers, NaN equal to nothing). -/
def TextRun.sameStyle (a b : TextRun) : Bool :=
  a.fontSize == b.fontSize && a.fontWeight == b.fontWeight && a.fontFamily == b.fontFamily &&
    a.italic == b.italic && a.decoration == b.decoration && a.caseTransform == b.caseTransform &&
    a.fillRef == b.fillRef && a.letterSpacing == b.letterSpacing && a.lineHeight == b.lineHeight

/-- A text node's content. -/
structure TextContent where
  runs : List TextRun
  align : TextAlign
  autoResize : TextAutoResize

/-- The characters of every run, in order. -/
def TextContent.characters (t : TextContent) : String :=
  String.join (t.runs.map TextRun.characters)

/-- A node of the description. -/
structure AltNode where
  id : Nat
  /-- The tool's id of the node. -/
  sourceId : String
  /-- The tool's kind of the node. -/
  sourceKind : String
  kind : NodeKind
  name : String
  uniqueName : String
  parent : Option Nat
  children : List Nat
  geometry : Geometry
  paint : Paint
  stroke : Stroke
  cornerRadius : CornerRadius
  opacity : Float
  clipsContent : Bool
  layout : Option LayoutDescriptor
  positioning : Positioning
  sizing : ChildSizing
  effects : List Effect
  text : Option TextContent
  exportAsVector : Bool
  canFlattenToVector : Bool
  embeddedVectorMarkup : Option String

namespace AltNode

/-- Whether a node has no parent. -/
def isRoot (n : AltNode) : Bool := n.parent.isNone

/-- Whether a node has a stroke with weight and paint. -/
def hasVisibleStroke (n : AltNode) : Bool := n.stroke.weight > 0.0 && !n.paint.strokes.isEmpty

end AltNode

end Handoff
