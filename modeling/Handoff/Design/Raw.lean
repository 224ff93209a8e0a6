/-
Module: Handoff.Design.Raw
Purpose: The design tree as the design tool exports it, before normalisation: loose records
  whose fields are nearly all optional, with the tool's own spellings for kinds, modes and
  units kept as texts. A node's children are design nodes again. A document holds the
  selected roots and the data the tool would answer later questions from: resolved
  variables by id and exported vector markup by node id.
Main exports: Rect, RawVector, RawGradientStop, RawPaint, RawEffect, RawFontName, RawUnit,
  RawUnitValue, RawTextSegment, RawExportSetting, NodeAttrs, DesignNode, RawVariable,
  RawDocument.
-/
import Handoff.Color

namespace Handoff

/-- An axis-aligned rectangle, with coordinates in `α` (doubles in a design). -/
structure Rect (α : Type) where
  x : α
  y : α
  width : α
  height : α

namespace Rect

/-- Finite coordinates and a size that is not negative. -/
def isWellFormed (r : Rect Float) : Bool :=
  r.x.isFinite && r.y.isFinite && r.width.isFinite && r.height.isFinite &&
    r.width ≥ 0.0 && r.height ≥ 0.0

/-- The horizontal centre. -/
def centerX (r : Rect Float) : Float := r.x + r.width / 2.0

/-- The vertical centre. -/
def centerY (r : Rect Float) : Float := r.y + r.height / 2.0

end Rect

/-- A point in a node's normalised space. -/
structure RawVector where
  x : Float
  y : Float

/-- A colour stop of a gradient paint. -/
structure RawGradientStop where
  position : Float
  color : Color

/-- A fill or stroke paint. -/
structure RawPaint where
  kind : String
  visible : Option Bool
  opacity : Option Float
  color : Option Color
  gradientStops : List RawGradientStop
  /-- Start, end and width handles, in normalised node space. -/
  gradientHandlePositions : List RawVector
  imageRef : Option String
  scaleMode : Option String
  /-- A variable id bound to the paint. -/
  boundVariable : Option String

/-- Whether a paint is shown (shown unless marked otherwise). -/
def RawPaint.isVisible (p : RawPaint) : Bool := p.visible.getD true

/-- A shadow or blur effect. -/
structure RawEffect where
  kind : String
  visible : Option Bool
  color : Option Color
  offset : Option RawVector
  radius : Float
  spread : Option Float

/-- Whether an effect is shown. -/
def RawEffect.isVisible (e : RawEffect) : Bool := e.visible.getD true

/-- A font family and style. -/
structure RawFontName where
  family : String
  style : String

/-- The unit of a measured text value. -/
inductive RawUnit where
  | pixels
  | percent
  | auto
  deriving DecidableEq, Repr

/-- A value with its unit. -/
structure RawUnitValue where
  value : Float
  unit : RawUnit

/-- A run of uniformly styled characters. -/
structure RawTextSegment where
  characters : String
  fontSize : Option Float
  fontWeight : Option Nat
  fontName : Option RawFontName
  textDecoration : Option String
  textCase : Option String
  letterSpacing : Option RawUnitValue
  lineHeight : Option RawUnitValue
  fills : List RawPaint

/-- An export the tool is asked to produce for a node. -/
structure RawExportSetting where
  format : String

/-- Every field of a design node except its children. -/
structure NodeAttrs where
  id : String
  name : String
  kind : String
  visible : Option Bool
  /-- The axis-aligned box around the rotated shape, in document space. -/
  absoluteBoundingBox : Option (Rect Float)
  /-- Rotation in the tool's degrees, counter-clockwise positive. -/
  rotation : Float
  opacity : Option Float
  fills : List RawPaint
  strokes : List RawPaint
  strokeWeight : Option Float
  strokeAlign : Option String
  cornerRadius : Option Float
  /-- Top-left, top-right, bottom-right, bottom-left. -/
  rectangleCornerRadii : Option (List Float)
  effects : List RawEffect
  clipsContent : Bool
  layoutMode : Option String
  layoutWrap : Option String
  primaryAxisAlignItems : Option String
  counterAxisAlignItems : Option String
  primaryAxisSizingMode : Option String
  counterAxisSizingMode : Option String
  layoutSizingHorizontal : Option String
  layoutSizingVertical : Option String
  layoutPositioning : Option String
  itemSpacing : Option Float
  paddingTop : Option Float
  paddingRight : Option Float
  paddingBottom : Option Float
  paddingLeft : Option Float
  characters : Option String
  segments : List RawTextSegment
  fontSize : Option Float
  fontWeight : Option Nat
  fontName : Option RawFontName
  textAlignHorizontal : Option String
  textAutoResize : Option String
  exportSettings : List RawExportSetting
  /-- Always export this node as a vector. -/
  isAsset : Bool

/-- A node of the design tree. -/
inductive DesignNode where
  | mk (attrs : NodeAttrs) (children : List DesignNode)

namespace DesignNode

/-- The fields of a node. -/
def attrs : DesignNode → NodeAttrs
  | mk a _ => a

/-- The children of a node. -/
def children : DesignNode → List DesignNode
  | mk _ cs => cs

end DesignNode

namespace NodeAttrs

/-- Whether a node is shown. -/
def isVisible (n : NodeAttrs) : Bool := n.visible.getD true

/-- ASCII case-insensitive equality of texts. -/
def sameIgnoringAsciiCase (a b : String) : Bool :=
  let lower (c : Char) : Char := if 'A' ≤ c && c ≤ 'Z' then Char.ofNat (c.toNat + 32) else c
  a.length == b.length && (a.toList.map lower) == (b.toList.map lower)

/-- Whether the tool marks the node for export as SVG. -/
def exportsAsVector (n : NodeAttrs) : Bool :=
  n.isAsset || n.exportSettings.any fun s => sameIgnoringAsciiCase s.format "SVG"

end NodeAttrs

/-- A variable as stored in a document. -/
structure RawVariable where
  name : String
  value : Color

/-- A document: the selected roots, variables by id, vector markup by node id. -/
structure RawDocument where
  nodes : List DesignNode
  variableTable : List (String × RawVariable)
  vectorMarkup : List (String × String)

end Handoff
