/-
Module: Handoff.Normalize.Pass
Purpose: The normalisation pass from the tool's tree to the description. Hidden nodes vanish;
  groups dissolve, their children taking their place and their rotation; every other node
  gets the next id (a preorder), a unique name, its un-rotated geometry in its parent's
  frame, paints, stroke, effects, corners, text runs, layout, placement and sizing. Only
  cancellation stops the pass; every other problem is a warning and a best effort.
Main exports: Failure, NormState, normalizeRoots, mapKind, cornerRadiusOf.
-/
import Handoff.Normalize.Names
import Handoff.Normalize.Text
import Handoff.Layout.Rotation
import Handoff.Layout.Classify
import Handoff.Tree.Arena
import Handoff.Float.Decimal
import Handoff.Text.Case

namespace Handoff

/-- Why a run stops without a result. -/
inductive Failure where
  /-- The run was cancelled. -/
  | cancelled
  /-- No visible node survived normalisation. -/
  | emptySelection
  /-- The tree broke a structural promise. -/
  | contract (e : ContractError)
  deriving DecidableEq, Repr

/-- The message of a failure. -/
def Failure.message : Failure → String
  | .cancelled => "conversion cancelled"
  | .emptySelection => "no visible nodes selected"
  | .contract e => e.message

/-- The kind of node a tool type becomes, if it is known. -/
def mapKind : String → Option NodeKind
  | "FRAME" | "COMPONENT" | "COMPONENT_SET" | "INSTANCE" | "SECTION" => some .container
  | "RECTANGLE" => some .rectangle
  | "ELLIPSE" => some .ellipse
  | "TEXT" => some .text
  | "VECTOR" | "STAR" | "POLYGON" | "LINE" | "REGULAR_POLYGON" => some .vector
  | "BOOLEAN_OPERATION" => some .booleanOp
  | _ => none

/-- The stroke alignment a tool setting names. -/
def strokeAlignOf : Option String → StrokeAlign
  | some "CENTER" => .center
  | some "OUTSIDE" => .outside
  | _ => .inside

/-- The corner rounding of a node: per corner when the four radii differ, uniform
otherwise. -/
def cornerRadiusOf (raw : NodeAttrs) : CornerRadius :=
  match raw.rectangleCornerRadii with
  | some radii =>
      let r0 := radii.getD 0 0.0
      let r1 := radii.getD 1 0.0
      let r2 := radii.getD 2 0.0
      let r3 := radii.getD 3 0.0
      if radii.any (· != r0) then .perCorner r0 r1 r2 r3 else .uniform r0
  | none => .uniform (raw.cornerRadius.getD 0.0)

/-- What a child needs to know about the node it is placed in. -/
structure ParentContext where
  id : Nat
  /-- The parent's absolute un-rotated box; children are placed in its frame. -/
  frame : ResolvedBox Float
  layout : Option LayoutDescriptor
  /-- In the tool's convention (counter-clockwise). -/
  cumulativeRotation : Float

/-- The state of the pass: the tree so far, the names handed out, the issues found. -/
structure NormState where
  tree : AltTree
  names : UniqueNames
  diagnostics : Array Diagnostic

/-- Steps of the pass. -/
abbrev Normalizing := StateT NormState (Except Failure)

/-- Records issues. -/
def report (ds : List Diagnostic) : Normalizing Unit :=
  modify fun s => { s with diagnostics := s.diagnostics ++ ds.toArray }

/-- Stops when the run is cancelled. -/
def checkCancel (cancelled : Bool) : Normalizing Unit :=
  if cancelled then throw .cancelled else pure ()

/-- Converts paints in order, keeping those that convert. -/
def convertPaints (node : Nat) : List RawPaint → List PaintEntry × List Diagnostic
  | [] => ([], [])
  | p :: rest =>
      let (e, ds) := convertPaint p node
      let (es, more) := convertPaints node rest
      (e.toList ++ es, ds ++ more)

/-- Converts effects in order, keeping those that convert. -/
def convertEffects (node : Nat) : List RawEffect → List Effect × List Diagnostic
  | [] => ([], [])
  | e :: rest =>
      let (x, ds) := convertEffect e node
      let (xs, more) := convertEffects node rest
      (x.toList ++ xs, ds ++ more)

/-- The description of one node (not yet inserted) and what its children need, from its
fields, its parent and the rotation of the groups dissolved above it. -/
def describeNode (raw : NodeAttrs) (parent : Option ParentContext) (absorbed : Float) (id : Nat)
    (uniqueName : String) : AltNode × ParentContext × List Diagnostic :=
  let (kind, dKind) : NodeKind × List Diagnostic :=
    match mapKind raw.kind with
    | some k => (k, [])
    | none => (.container, [Diagnostic.warning id ("unsupported node type: " ++ raw.kind)])
  let parentRotation := (parent.map ParentContext.cumulativeRotation).getD 0.0
  let ownRotation := raw.rotation + absorbed
  let cumulativeRotation := parentRotation + ownRotation
  let (bounds, wellFormed, dBounds) : Rect Float × Bool × List Diagnostic :=
    let origin : Rect Float :=
      (parent.map fun p => (⟨p.frame.left, p.frame.top, 0.0, 0.0⟩ : Rect Float)).getD
        ⟨0.0, 0.0, 0.0, 0.0⟩
    let missing : Rect Float × Bool × List Diagnostic :=
      (origin, false, [Diagnostic.warning id
        "missing or malformed bounding box; using an empty box at the parent origin"])
    match raw.absoluteBoundingBox with
    | some b => if b.isWellFormed then (b, true, []) else missing
    | none => missing
  let resolved := resolveRotatedBox bounds cumulativeRotation
  let dSingular :=
    if resolved.singular then
      [Diagnostic.warning id ("rotation of " ++ cumulativeRotation.plainText ++
        "° cannot be solved exactly; using the bounding box size")]
    else []
  let (x, y) : Float × Float :=
    match parent with
    | some p => if wellFormed then offsetInParent resolved p.frame else (0.0, 0.0)
    | none => (0.0, 0.0)
  let geometry : Geometry :=
    ⟨x, y, resolved.width, resolved.height, -ownRotation, -cumulativeRotation⟩
  let (fills, dFills) := convertPaints id raw.fills
  let (strokes, dStrokes) := convertPaints id raw.strokes
  let stroke : Stroke :=
    ⟨raw.strokeWeight.getD (if strokes.isEmpty then 0.0 else 1.0),
      strokeAlignOf raw.strokeAlign⟩
  let (effects, dEffects) := convertEffects id raw.effects
  let (text, fills, dText) : Option TextContent × List PaintEntry × List Diagnostic :=
    if kind == .text then
      let (t, fs, ds) := buildText raw fills id
      (some t, fs, ds)
    else (none, fills, [])
  let (layout, dLayout) : Option LayoutDescriptor × List Diagnostic :=
    if kind == .container then classifyLayout raw id else (none, [])
  let parentLayout := parent.bind ParentContext.layout
  let ((positioning, sizing), dChild) := classifyChild raw layout parentLayout id
  let node : AltNode :=
    { id := id
      sourceId := raw.id
      sourceKind := raw.kind
      kind := kind
      name := raw.name
      uniqueName := uniqueName
      parent := none
      children := []
      geometry := geometry
      paint := ⟨fills, strokes⟩
      stroke := stroke
      cornerRadius := cornerRadiusOf raw
      opacity := Float.clampTo (raw.opacity.getD 1.0) 0.0 1.0
      clipsContent := raw.clipsContent
      layout := layout
      positioning := if parent.isSome then positioning else .flow
      sizing := sizing
      effects := effects
      text := text
      exportAsVector := raw.exportsAsVector
      canFlattenToVector := false
      embeddedVectorMarkup := none }
  let context : ParentContext := ⟨id, resolved, layout, cumulativeRotation⟩
  (node, context,
    dKind ++ dBounds ++ dSingular ++ dFills ++ dStrokes ++ dEffects ++ dText ++ dLayout ++ dChild)

/-- The base of a node's unique name: its trimmed name, or its kind's name when blank. -/
def nameBase (raw : NodeAttrs) (kind : NodeKind) : String :=
  let trimmed := Text.trim raw.name
  if trimmed.isEmpty then kind.name else trimmed

/-- Marks the layout of a flow container whose children include absolutely placed ones. -/
def markChildren (id : Nat) : Normalizing Unit :=
  modify fun s =>
    let positions := (s.tree.childrenOf id).map AltNode.positioning
    { s with tree := s.tree.modify id fun n =>
        { n with layout := n.layout.map fun l => markAbsoluteChildren l positions } }

mutual

/-- Visits nodes in order, dissolving groups into their children. -/
def visitChildren (cancelled : Bool) (parent : Option ParentContext) (absorbed : Float) :
    List DesignNode → Normalizing Unit
  | [] => pure ()
  | .mk raw children :: rest => do
      if !raw.isVisible then pure ()
      else if raw.kind == "GROUP" then
        checkCancel cancelled
        visitChildren cancelled parent (absorbed + raw.rotation) children
      else visitNode cancelled parent absorbed raw children
      visitChildren cancelled parent absorbed rest

/-- Visits one node that is not a group, then its children when it can hold any. -/
def visitNode (cancelled : Bool) (parent : Option ParentContext) (absorbed : Float)
    (raw : NodeAttrs) (children : List DesignNode) : Normalizing Unit := do
  checkCancel cancelled
  let s ← get
  let id := s.tree.nextId
  let kind := (mapKind raw.kind).getD .container
  let (uniqueName, names) := s.names.assign (nameBase raw kind)
  set { s with names := names }
  let (node, context, ds) := describeNode raw parent absorbed id uniqueName
  report ds
  modify fun s => { s with tree := s.tree.insert node (parent.map ParentContext.id) }
  if kind == .container || kind == .booleanOp then
    visitChildren cancelled (some context) 0.0 children
  if context.layout.isSome then markChildren id

end

/-- The description of the selected roots, with the issues found, in the order found. -/
def normalizeRoots (roots : List DesignNode) (cancelled : Bool) :
    Except Failure (AltTree × List Diagnostic) :=
  let start : NormState := ⟨AltTree.empty, UniqueNames.empty, #[]⟩
  match (visitChildren cancelled none 0.0 roots).run start with
  | .ok ((), s) => .ok (s.tree, s.diagnostics.toList)
  | .error e => .error e

end Handoff
