/-
Module: Handoff.Design.Schema
Purpose: What JSON each raw record accepts, and the record built from what was read. Keys
  are the tool's camelCase names. Records whose every field has a default (paints,
  effects, text segments, unit values, export settings, nodes) accept any subset of their
  keys; a colour needs red, green and blue (alpha defaults to one); rectangles, vectors,
  gradient stops and variables need all their fields; a font name needs its family; a
  document needs its nodes. Texts are read from JSON text with places, values parsed
  already are read without.
Main exports: colorShape, rectShape, paintShape, effectShape, designNodeShape,
  documentShape, Color.ofDatum, Rect.ofDatum, RawPaint.ofDatum, RawEffect.ofDatum,
  DesignNode.ofDatum, RawDocument.ofDatum, parseDocument.
-/
import Handoff.Design.Raw
import Handoff.Json.Read
import Handoff.Json.FromValue

namespace Handoff

open Json

/-- A record shape whose fields all have defaults. -/
def defaultedRecord (name : String) (fields : List (String × Shape)) : Shape :=
  .record name (fields.map fun (k, s) => Json.defaulted k s)

/-- A 16-bit natural. -/
def u16Shape : Shape := .natural 16 "u16"

/-- Colours: red, green, blue required, alpha defaulted. -/
def colorShape : Shape :=
  .record "Color"
    [required "r" .single, required "g" .single, required "b" .single, Json.defaulted "a" .single]

/-- Rectangles: every field required. -/
def rectShape : Shape :=
  .record "Rect"
    [required "x" .double, required "y" .double, required "width" .double,
      required "height" .double]

/-- Points: both coordinates required. -/
def vectorShape : Shape := .record "RawVector" [required "x" .double, required "y" .double]

/-- Gradient stops: position and colour required. -/
def gradientStopShape : Shape :=
  .record "RawGradientStop" [required "position" .double, required "color" colorShape]

/-- Paints. -/
def paintShape : Shape :=
  defaultedRecord "RawPaint"
    [("type", .text), ("visible", .optional .flag), ("opacity", .optional .double),
      ("color", .optional colorShape), ("gradientStops", .list gradientStopShape),
      ("gradientHandlePositions", .list vectorShape), ("imageRef", .optional .text),
      ("scaleMode", .optional .text), ("boundVariable", .optional .text)]

/-- Effects. -/
def effectShape : Shape :=
  defaultedRecord "RawEffect"
    [("type", .text), ("visible", .optional .flag), ("color", .optional colorShape),
      ("offset", .optional vectorShape), ("radius", .double), ("spread", .optional .double)]

/-- Font names: the family required, the style defaulted. -/
def fontNameShape : Shape :=
  .record "RawFontName" [required "family" .text, Json.defaulted "style" .text]

/-- The names of the units, as written. -/
def unitNames : List String := ["PIXELS", "PERCENT", "AUTO"]

/-- Values with units. -/
def unitValueShape : Shape :=
  defaultedRecord "RawUnitValue" [("value", .double), ("unit", .choice unitNames)]

/-- Text segments. -/
def textSegmentShape : Shape :=
  defaultedRecord "RawTextSegment"
    [("characters", .text), ("fontSize", .optional .double), ("fontWeight", .optional u16Shape),
      ("fontName", .optional fontNameShape), ("textDecoration", .optional .text),
      ("textCase", .optional .text), ("letterSpacing", .optional unitValueShape),
      ("lineHeight", .optional unitValueShape), ("fills", .list paintShape)]

/-- Export settings. -/
def exportSettingShape : Shape := defaultedRecord "RawExportSetting" [("format", .text)]

/-- Design nodes; `recur` in the children stands for this shape. -/
def designNodeShape : Shape :=
  defaultedRecord "DesignNode"
    [("id", .text), ("name", .text), ("type", .text), ("visible", .optional .flag),
      ("absoluteBoundingBox", .optional rectShape), ("rotation", .double),
      ("opacity", .optional .double), ("fills", .list paintShape), ("strokes", .list paintShape),
      ("strokeWeight", .optional .double), ("strokeAlign", .optional .text),
      ("cornerRadius", .optional .double), ("rectangleCornerRadii", .optional (.array 4 .double)),
      ("effects", .list effectShape), ("clipsContent", .flag), ("layoutMode", .optional .text),
      ("layoutWrap", .optional .text), ("primaryAxisAlignItems", .optional .text),
      ("counterAxisAlignItems", .optional .text), ("primaryAxisSizingMode", .optional .text),
      ("counterAxisSizingMode", .optional .text), ("layoutSizingHorizontal", .optional .text),
      ("layoutSizingVertical", .optional .text), ("layoutPositioning", .optional .text),
      ("itemSpacing", .optional .double), ("paddingTop", .optional .double),
      ("paddingRight", .optional .double), ("paddingBottom", .optional .double),
      ("paddingLeft", .optional .double), ("characters", .optional .text),
      ("segments", .list textSegmentShape), ("fontSize", .optional .double),
      ("fontWeight", .optional u16Shape), ("fontName", .optional fontNameShape),
      ("textAlignHorizontal", .optional .text), ("textAutoResize", .optional .text),
      ("exportSettings", .list exportSettingShape), ("isAsset", .flag), ("children", .list .recur)]

/-- Variables: name and value required. -/
def variableShape : Shape :=
  .record "RawVariable" [required "name" .text, required "value" colorShape]

/-- Documents: the nodes required, variables and vector markup defaulted. -/
def documentShape : Shape :=
  .record "RawDocument"
    [required "nodes" (.list designNodeShape),
      Json.defaulted "variables" (.map .text variableShape),
      Json.defaulted "vectorMarkup" (.map .text .text)]

/-- A colour read under `colorShape`. -/
def Color.ofDatum (d : Datum) : Color :=
  ⟨(d.field 0).singleOr 0.0, (d.field 1).singleOr 0.0, (d.field 2).singleOr 0.0,
    (d.field 3).singleOr 1.0⟩

/-- A rectangle read under `rectShape`. -/
def Rect.ofDatum (d : Datum) : Rect Float :=
  ⟨(d.field 0).doubleOr 0.0, (d.field 1).doubleOr 0.0, (d.field 2).doubleOr 0.0,
    (d.field 3).doubleOr 0.0⟩

/-- A point read under `vectorShape`. -/
def RawVector.ofDatum (d : Datum) : RawVector :=
  ⟨(d.field 0).doubleOr 0.0, (d.field 1).doubleOr 0.0⟩

/-- A gradient stop read under `gradientStopShape`. -/
def RawGradientStop.ofDatum (d : Datum) : RawGradientStop :=
  ⟨(d.field 0).doubleOr 0.0, Color.ofDatum (d.field 1)⟩

/-- A paint read under `paintShape`. -/
def RawPaint.ofDatum (d : Datum) : RawPaint where
  kind := (d.field 0).textOr ""
  visible := (d.field 1).optFlag
  opacity := (d.field 2).optDouble
  color := (d.field 3).toOption.map Color.ofDatum
  gradientStops := (d.field 4).items.map RawGradientStop.ofDatum
  gradientHandlePositions := (d.field 5).items.map RawVector.ofDatum
  imageRef := (d.field 6).optText
  scaleMode := (d.field 7).optText
  boundVariable := (d.field 8).optText

/-- An effect read under `effectShape`. -/
def RawEffect.ofDatum (d : Datum) : RawEffect where
  kind := (d.field 0).textOr ""
  visible := (d.field 1).optFlag
  color := (d.field 2).toOption.map Color.ofDatum
  offset := (d.field 3).toOption.map RawVector.ofDatum
  radius := (d.field 4).doubleOr 0.0
  spread := (d.field 5).optDouble

/-- A font name read under `fontNameShape`. -/
def RawFontName.ofDatum (d : Datum) : RawFontName :=
  ⟨(d.field 0).textOr "", (d.field 1).textOr ""⟩

/-- A unit read as a variant index. -/
def RawUnit.ofDatum : Datum → RawUnit
  | .choice 1 => .percent
  | .choice 2 => .auto
  | _ => .pixels

/-- A value with a unit read under `unitValueShape`. -/
def RawUnitValue.ofDatum (d : Datum) : RawUnitValue :=
  ⟨(d.field 0).doubleOr 0.0, RawUnit.ofDatum (d.field 1)⟩

/-- A text segment read under `textSegmentShape`. -/
def RawTextSegment.ofDatum (d : Datum) : RawTextSegment where
  characters := (d.field 0).textOr ""
  fontSize := (d.field 1).optDouble
  fontWeight := (d.field 2).optNatural
  fontName := (d.field 3).toOption.map RawFontName.ofDatum
  textDecoration := (d.field 4).optText
  textCase := (d.field 5).optText
  letterSpacing := (d.field 6).toOption.map RawUnitValue.ofDatum
  lineHeight := (d.field 7).toOption.map RawUnitValue.ofDatum
  fills := (d.field 8).items.map RawPaint.ofDatum

/-- The fields of a node read under `designNodeShape`. -/
def NodeAttrs.ofDatum (d : Datum) : NodeAttrs where
  id := (d.field 0).textOr ""
  name := (d.field 1).textOr ""
  kind := (d.field 2).textOr ""
  visible := (d.field 3).optFlag
  absoluteBoundingBox := (d.field 4).toOption.map Rect.ofDatum
  rotation := (d.field 5).doubleOr 0.0
  opacity := (d.field 6).optDouble
  fills := (d.field 7).items.map RawPaint.ofDatum
  strokes := (d.field 8).items.map RawPaint.ofDatum
  strokeWeight := (d.field 9).optDouble
  strokeAlign := (d.field 10).optText
  cornerRadius := (d.field 11).optDouble
  rectangleCornerRadii := (d.field 12).toOption.map fun r => r.items.map (Datum.doubleOr 0.0)
  effects := (d.field 13).items.map RawEffect.ofDatum
  clipsContent := (d.field 14).flagOr false
  layoutMode := (d.field 15).optText
  layoutWrap := (d.field 16).optText
  primaryAxisAlignItems := (d.field 17).optText
  counterAxisAlignItems := (d.field 18).optText
  primaryAxisSizingMode := (d.field 19).optText
  counterAxisSizingMode := (d.field 20).optText
  layoutSizingHorizontal := (d.field 21).optText
  layoutSizingVertical := (d.field 22).optText
  layoutPositioning := (d.field 23).optText
  itemSpacing := (d.field 24).optDouble
  paddingTop := (d.field 25).optDouble
  paddingRight := (d.field 26).optDouble
  paddingBottom := (d.field 27).optDouble
  paddingLeft := (d.field 28).optDouble
  characters := (d.field 29).optText
  segments := (d.field 30).items.map RawTextSegment.ofDatum
  fontSize := (d.field 31).optDouble
  fontWeight := (d.field 32).optNatural
  fontName := (d.field 33).toOption.map RawFontName.ofDatum
  textAlignHorizontal := (d.field 34).optText
  textAutoResize := (d.field 35).optText
  exportSettings := (d.field 36).items.map fun e => ⟨(e.field 0).textOr ""⟩
  isAsset := (d.field 37).flagOr false

/-- A node and its descendants read under `designNodeShape`, at most `depth` levels deep
(reading nests at most 128 brackets, so 128 levels always suffice). -/
def DesignNode.ofDatum : Nat → Datum → DesignNode
  | 0, d => .mk (NodeAttrs.ofDatum d) []
  | depth + 1, d => .mk (NodeAttrs.ofDatum d) ((d.field 38).items.map (DesignNode.ofDatum depth))

/-- Levels enough for any tree that reading accepts. -/
def treeDepthBound : Nat := 130

/-- A variable read under `variableShape`. -/
def RawVariable.ofDatum (d : Datum) : RawVariable :=
  ⟨(d.field 0).textOr "", Color.ofDatum (d.field 1)⟩

/-- A document read under `documentShape`. -/
def RawDocument.ofDatum (d : Datum) : RawDocument where
  nodes := (d.field 0).items.map (DesignNode.ofDatum treeDepthBound)
  variableTable := (d.field 1).members.map fun (k, v) => (k, RawVariable.ofDatum v)
  vectorMarkup := (d.field 2).members.map fun (k, v) => (k, v.textOr "")

/-- A document from its JSON text. -/
def parseDocument (text : String) : Except ReadError RawDocument :=
  (readText designNodeShape documentShape text).map RawDocument.ofDatum

/-- A record from a parsed value under a shape whose `recur` is the node shape. -/
def readRecord {α : Type} (shape : Shape) (build : Datum → α) (v : Value) : Except Problem α :=
  (readAs designNodeShape shape v).map build

end Handoff
