/-
Module: Handoff.Emit.Scene
Purpose: What code generation reads and what a target framework provides. A scene is the
  normalised tree with the run's settings and the named palette; emission runs in a scene
  and collects warnings about nodes. The helpers here are the decisions every target shares:
  how a node is sized along each axis (a text box that follows its content hugs it), whether
  a stretching node stretches along its parent's flow, where a linear gradient of a given
  angle starts and ends in the unit square, which fill paints a text run, the solid colour
  of a run for toolkits without gradient text, case transforms applied to the characters,
  and resource names safe as identifiers.
Main exports: Scene, Emit, Emit.warn, Scene.isAbsolute, Dim, dims, fillsMainAxis,
  unitPoints, runFill, nativeTextColor, applyCase, resourceName, partitionChildren, Target.
-/
import Handoff.Tree.Arena
import Handoff.Config
import Handoff.Paint.Palette
import Handoff.Diagnostic
import Handoff.Emit.Format
import Handoff.Emit.Fragment
import Handoff.Text.Case

namespace Handoff

/-- What code generation reads: the tree, the settings and the named palette. -/
structure Scene where
  tree : AltTree
  config : RunConfig
  palette : Palette

/-- Emission steps: they read the scene and collect warnings. -/
abbrev Emit := ReaderT Scene (StateM (Array Diagnostic))

/-- Records a warning about a node. -/
def Emit.warn (node : AltNode) (message : String) : Emit Unit :=
  modify fun ds => ds.push (Diagnostic.warning node.id message)

/-- The settings of the run. -/
def Emit.config : Emit RunConfig := do return (← read).config

namespace Scene

/-- The layout of a node's parent, if the parent has one. -/
def parentLayout (s : Scene) (node : AltNode) : Option LayoutDescriptor :=
  (s.tree.parentOf node.id).bind AltNode.layout

/-- Whether a node is placed at its own coordinates inside a parent. -/
def isAbsolute (_s : Scene) (node : AltNode) : Bool :=
  !node.isRoot && node.positioning == .absolute

end Scene

/-- The size of a node along one axis, as a target expresses it. -/
inductive Dim where
  | fixed (value : Float)
  /-- Sized by the content. -/
  | hug
  /-- Stretched along the parent. -/
  | fill

/-- Whether a size stretches. -/
def Dim.isFill : Dim → Bool
  | .fill => true
  | _ => false

/-- Whether a size is fixed. -/
def Dim.isFixed : Dim → Bool
  | .fixed _ => true
  | _ => false

/-- The horizontal and vertical size of a node: a fixed text box that grows in both
directions hugs horizontally, one that grows at all hugs vertically. -/
def dims (node : AltNode) : Dim × Dim :=
  let resize := (node.text.map TextContent.autoResize).getD .fixedBox
  let axis (mode : SizingMode) (fixed : Float) (hugsText : Bool) : Dim :=
    match mode with
    | .fill => .fill
    | .hug => .hug
    | .fixed => if hugsText then .hug else .fixed fixed
  (axis node.sizing.horizontal node.geometry.width (resize == .widthAndHeight),
    axis node.sizing.vertical node.geometry.height (resize != .fixedBox))

/-- Whether an axis of a node runs along its parent's flow. -/
def fillsMainAxis (s : Scene) (node : AltNode) (horizontal : Bool) : Bool :=
  match (s.parentLayout node).map LayoutDescriptor.direction with
  | some .row => horizontal
  | some .column => !horizontal
  | none => false

/-- Start and end of a linear gradient in the unit square (y down), from a CSS angle. -/
def unitPoints (angleDegrees : Float) : (Float × Float) × (Float × Float) :=
  let radians := angleDegrees.toRadians
  let sin := radians.sin
  let cos := radians.cos
  ((0.5 - sin / 2.0, 0.5 + cos / 2.0), (0.5 + sin / 2.0, 0.5 - cos / 2.0))

/-- The fill painting a text run: its own, or the node's top fill. -/
def runFill (node : AltNode) (run : TextRun) : Option PaintEntry :=
  match run.fillRef.bind fun i => node.paint.fills[i]? with
  | some fill => some fill
  | none => topPaint node.paint.fills

/-- The solid colour of a run for toolkits without gradient text: a gradient gives its first
stop, an image nothing; both with a warning naming the toolkit where it applies. -/
def nativeTextColor (node : AltNode) (run : TextRun) (toolkit : String) : Emit (Option Color) :=
  match runFill node run with
  | none => return none
  | some fill =>
      match fill.kind with
      | .solid _ => return fill.solidColor
      | .gradient g => do
          Emit.warn node
            ("gradient text fills are not supported by " ++ toolkit ++ "; using the first stop")
          return g.stops.head?.map GradientStop.effectiveColor
      | .image _ => do
          Emit.warn node "image fills on text are not supported; skipped"
          return none

/-- Title case: each character that starts the text or follows white space is uppercased. -/
def titleCase (atWordStart : Bool) : List Char → List Char
  | [] => []
  | c :: rest =>
      (if atWordStart then Text.upperChars c else [c]) ++ titleCase (Text.isWhiteSpace c) rest

/-- The characters of a run with its case transform applied. -/
def applyCase (text : String) : TextCase → String
  | .original => text
  | .upper => Text.toUpper text
  | .lower => Text.toLower text
  | .title => String.ofList (titleCase true text.toList)

/-- A lowercase resource name: ASCII letters and digits kept (lowercased), every other
character an underscore, and `ic_` in front of a name that is empty or starts with a
digit. -/
def resourceName (uniqueName : String) : String :=
  let name := String.map (fun c => if c.isAlphanum then c.toLower else '_') uniqueName
  match name.toList with
  | [] => "ic_" ++ name
  | c :: _ => if c.isDigit then "ic_" ++ name else name

/-- The emitted children in the flow and those placed on top of it, empty ones dropped. -/
def partitionChildren (children : List (AltNode × Fragment)) : List Fragment × List Fragment :=
  let kept := children.filter fun (_, f) => !f.isEmpty
  (kept.filterMap fun (n, f) => if n.positioning == .flow then some f else none,
    kept.filterMap fun (n, f) => if n.positioning == .absolute then some f else none)

/-- What a target framework provides to the engine. Targets only read the tree; what they
cannot express becomes a best-effort fragment and a warning. -/
structure Target where
  /-- A text node. -/
  text : AltNode → Emit Fragment
  /-- A flattenable subtree drawn from its exported markup. -/
  vector : AltNode → String → Emit Fragment
  /-- Rectangles, ellipses, and vectors without markup. -/
  shape : AltNode → Emit Fragment
  /-- A container with its emitted children, in paint order. -/
  container : AltNode → List (AltNode × Fragment) → Emit Fragment
  /-- A fragment annotated with its node's layer name. -/
  withLayerName : AltNode → Fragment → Fragment
  /-- The source text of one root fragment. -/
  render : RunConfig → Fragment → String
  /-- The rendered roots wrapped as the generation mode asks, named after the first root. -/
  document : RunConfig → String → List String → String

end Handoff
