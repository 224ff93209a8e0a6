/-
Module: Handoff.Encode
Purpose: The description, its diagnostics and the geometry results as JSON values, with
  snake_case keys; a variant without data is its name, a variant with data an object with
  the name as its only key. Singles are written as the doubles they equal.
Main exports: Json.obj, Json.real, Color.toJson, Diagnostic.toJson, PaintEntry.toJson,
  Gradient.toJson, Effect.toJson, LayoutDescriptor.toJson, AltNode.toJson, AltTree.toJson,
  ResolvedBox.toJson, ConversionOutput.toJson.
-/
import Handoff.Json.Value
import Handoff.Tree.Arena
import Handoff.Diagnostic
import Handoff.Layout.Rotation
import Handoff.Conversion

namespace Handoff

open Json

/-- An object from members given in any order. -/
def Json.obj (members : List (String × Value)) : Value :=
  .object (members.foldl (fun acc (k, v) => insertMember k v acc) [])

/-- A variant with data. -/
def Json.tagged (name : String) (v : Value) : Value := obj [(name, v)]

/-- A double. -/
def Json.real (x : Float) : Value := Value.ofFloat x

/-- A single, written as the double it equals. -/
def Json.single (x : Float32) : Value := Value.ofFloat x.toBinary64

/-- A text. -/
def Json.str (s : String) : Value := .string s

/-- A natural. -/
def Json.nat (n : Nat) : Value := Value.ofNat n

/-- A list. -/
def Json.list {α : Type} (f : α → Value) (xs : List α) : Value := .array (xs.map f)

/-- A colour. -/
def Color.toJson (c : Color) : Value :=
  obj [("r", single c.r), ("g", single c.g), ("b", single c.b), ("a", single c.a)]

/-- A diagnostic. -/
def Diagnostic.toJson (d : Diagnostic) : Value :=
  obj [("message", str d.message), ("severity", str d.severity.name),
    ("node", Value.ofOption nat d.node)]

/-- A variable binding. -/
def VariableBinding.toJson (b : VariableBinding) : Value :=
  obj [("name", str b.name), ("fallback_hex", str b.fallbackHex)]

/-- The name of an image scale mode. -/
def ImageScaleMode.name : ImageScaleMode → String
  | .fill => "Fill"
  | .fit => "Fit"
  | .tile => "Tile"
  | .crop => "Crop"

/-- A gradient stop. -/
def GradientStop.toJson (s : GradientStop) : Value :=
  obj [("offset", real s.offset), ("color", s.color.toJson), ("opacity", real s.opacity)]

/-- A gradient. -/
def Gradient.toJson : Gradient → Value
  | .linear angle stops =>
      tagged "Linear" (obj [("angle", real angle), ("stops", list GradientStop.toJson stops)])
  | .radial cx cy rx ry stops =>
      tagged "Radial" (obj [("center_x", real cx), ("center_y", real cy), ("radius_x", real rx),
        ("radius_y", real ry), ("stops", list GradientStop.toJson stops)])
  | .angular cx cy start stops =>
      tagged "Angular" (obj [("center_x", real cx), ("center_y", real cy),
        ("start_angle", real start), ("stops", list GradientStop.toJson stops)])

/-- What a paint paints. -/
def PaintKind.toJson : PaintKind → Value
  | .solid c => tagged "Solid" c.toJson
  | .gradient g => tagged "Gradient" g.toJson
  | .image i =>
      tagged "Image" (obj [("image_ref", str i.imageRef), ("scale_mode", str i.scaleMode.name)])

/-- A paint. -/
def PaintEntry.toJson (e : PaintEntry) : Value :=
  obj [("kind", e.kind.toJson), ("opacity", real e.opacity),
    ("variable", Value.ofOption VariableBinding.toJson e.binding),
    ("variable_ref", Value.ofOption str e.variableRef)]

/-- A shadow. -/
def Shadow.toJson (s : Shadow) : Value :=
  obj [("color", s.color.toJson), ("offset_x", real s.offsetX), ("offset_y", real s.offsetY),
    ("radius", real s.radius), ("spread", real s.spread)]

/-- An effect. -/
def Effect.toJson : Effect → Value
  | .dropShadow s => tagged "DropShadow" s.toJson
  | .innerShadow s => tagged "InnerShadow" s.toJson
  | .layerBlur r => tagged "LayerBlur" (obj [("radius", real r)])
  | .backgroundBlur r => tagged "BackgroundBlur" (obj [("radius", real r)])

/-- The name of a sizing mode. -/
def SizingMode.name : SizingMode → String
  | .fixed => "Fixed"
  | .hug => "Hug"
  | .fill => "Fill"

/-- The name of a placement. -/
def Positioning.name : Positioning → String
  | .flow => "Flow"
  | .absolute => "Absolute"

/-- Sizing as a child. -/
def ChildSizing.toJson (s : ChildSizing) : Value :=
  obj [("horizontal", str s.horizontal.name), ("vertical", str s.vertical.name)]

/-- Padding. -/
def Padding.toJson (p : Padding) : Value :=
  obj [("top", real p.top), ("right", real p.right), ("bottom", real p.bottom),
    ("left", real p.left)]

/-- A flow descriptor. -/
def LayoutDescriptor.toJson (l : LayoutDescriptor) : Value :=
  obj [("direction", str (match l.direction with | .row => "Row" | .column => "Column")),
    ("primary_align", str (match l.primaryAlign with
      | .atStart => "Start" | .center => "Center" | .atEnd => "End"
      | .spaceBetween => "SpaceBetween")),
    ("counter_align", str (match l.counterAlign with
      | .atStart => "Start" | .center => "Center" | .atEnd => "End" | .baseline => "Baseline")),
    ("wrap", .bool l.wrap), ("gap", real l.gap), ("padding", l.padding.toJson),
    ("primary_sizing", str l.primarySizing.name), ("counter_sizing", str l.counterSizing.name),
    ("has_absolute_children", .bool l.hasAbsoluteChildren)]

/-- A line height. -/
def LineHeight.toJson : LineHeight → Value
  | .auto => str "Auto"
  | .pixels v => tagged "Pixels" (real v)
  | .percent v => tagged "Percent" (real v)

/-- A text run. -/
def TextRun.toJson (r : TextRun) : Value :=
  obj [("characters", str r.characters), ("font_size", real r.fontSize),
    ("font_weight", nat r.fontWeight), ("font_family", str r.fontFamily),
    ("italic", .bool r.italic),
    ("decoration", str (match r.decoration with
      | .plain => "None" | .underline => "Underline" | .strikethrough => "Strikethrough")),
    ("case_transform", str (match r.caseTransform with
      | .original => "Original" | .upper => "Upper" | .lower => "Lower" | .title => "Title")),
    ("fill_ref", Value.ofOption nat r.fillRef), ("letter_spacing", real r.letterSpacing),
    ("line_height", r.lineHeight.toJson)]

/-- A text content. -/
def TextContent.toJson (t : TextContent) : Value :=
  obj [("runs", list TextRun.toJson t.runs),
    ("align", str (match t.align with
      | .left => "Left" | .center => "Center" | .right => "Right" | .justified => "Justified")),
    ("auto_resize", str (match t.autoResize with
      | .fixedBox => "None" | .height => "Height" | .widthAndHeight => "WidthAndHeight"))]

/-- A node's geometry. -/
def Geometry.toJson (g : Geometry) : Value :=
  obj [("x", real g.x), ("y", real g.y), ("width", real g.width), ("height", real g.height),
    ("rotation_degrees", real g.rotationDegrees),
    ("cumulative_rotation_degrees", real g.cumulativeRotationDegrees)]

/-- Corner rounding. -/
def CornerRadius.toJson : CornerRadius → Value
  | .uniform r => tagged "Uniform" (real r)
  | .perCorner a b c d => tagged "PerCorner" (.array [real a, real b, real c, real d])

/-- A node. -/
def AltNode.toJson (n : AltNode) : Value :=
  obj [("id", nat n.id), ("source_id", str n.sourceId), ("source_kind", str n.sourceKind),
    ("kind", str n.kind.name), ("name", str n.name), ("unique_name", str n.uniqueName),
    ("parent", Value.ofOption nat n.parent), ("children", list nat n.children),
    ("geometry", n.geometry.toJson),
    ("paint", obj [("fills", list PaintEntry.toJson n.paint.fills),
      ("strokes", list PaintEntry.toJson n.paint.strokes)]),
    ("stroke", obj [("weight", real n.stroke.weight), ("align", str (match n.stroke.align with
      | .inside => "Inside" | .center => "Center" | .outside => "Outside"))]),
    ("corner_radius", n.cornerRadius.toJson), ("opacity", real n.opacity),
    ("clips_content", .bool n.clipsContent),
    ("layout", Value.ofOption LayoutDescriptor.toJson n.layout),
    ("positioning", str n.positioning.name), ("sizing", n.sizing.toJson),
    ("effects", list Effect.toJson n.effects), ("text", Value.ofOption TextContent.toJson n.text),
    ("export_as_vector", .bool n.exportAsVector),
    ("can_flatten_to_vector", .bool n.canFlattenToVector),
    ("embedded_vector_markup", Value.ofOption str n.embeddedVectorMarkup)]

/-- A tree: its nodes and roots. -/
def AltTree.toJson (t : AltTree) : Value :=
  obj [("nodes", list AltNode.toJson t.nodes.toList), ("roots", list nat t.roots)]

/-- A resolved box. -/
def ResolvedBox.toJson (b : ResolvedBox Float) : Value :=
  obj [("width", real b.width), ("height", real b.height), ("left", real b.left),
    ("top", real b.top),
    ("rotation_degrees", real b.rotationDegrees), ("singular", .bool b.singular)]

/-- A palette entry. -/
def PaletteEntry.toJson (e : PaletteEntry) : Value :=
  obj [("hex", str e.hex), ("variable", Value.ofOption str e.variableName),
    ("occurrences", nat e.occurrences)]

/-- The result of a run: the code, its issues and its palette. -/
def ConversionOutput.toJson (o : ConversionOutput) : Value :=
  obj [("code", str o.code), ("diagnostics", list Diagnostic.toJson o.diagnostics),
    ("palette", list PaletteEntry.toJson o.palette)]

end Handoff
