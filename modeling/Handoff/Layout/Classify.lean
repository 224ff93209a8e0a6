/-
Module: Handoff.Layout.Classify
Purpose: Reading the tool's auto-layout settings into a flow descriptor, and deciding how a
  node is placed and sized in its parent. A node is placed by its parent's flow unless it
  opts out or the parent has no flow; a node that asks to fill an axis without a flow to
  fill is fixed on that axis instead, with a warning.
Main exports: classifyLayout, classifyChild, markAbsoluteChildren, axisSizing.
-/
import Handoff.Design.Raw
import Handoff.Tree.Node
import Handoff.Diagnostic

namespace Handoff

/-- The sizing mode a tool setting names. -/
def axisSizing : Option String → SizingMode
  | some "AUTO" => .hug
  | some "HUG" => .hug
  | some "FILL" => .fill
  | _ => .fixed

/-- The flow descriptor of a container, or nothing when it places children freely; an
unknown mode is reported. -/
def classifyLayout (raw : NodeAttrs) (id : Nat) : Option LayoutDescriptor × List Diagnostic :=
  let direction? : Option Direction × List Diagnostic :=
    match raw.layoutMode with
    | some "HORIZONTAL" => (some .row, [])
    | some "VERTICAL" => (some .column, [])
    | some "NONE" => (none, [])
    | none => (none, [])
    | some other => (none, [Diagnostic.warning id ("unknown layout mode: " ++ other)])
  match direction? with
  | (none, ds) => (none, ds)
  | (some direction, _) =>
      let primaryAlign : PrimaryAlign :=
        match raw.primaryAxisAlignItems with
        | some "CENTER" => .center
        | some "MAX" => .atEnd
        | some "SPACE_BETWEEN" => .spaceBetween
        | _ => .atStart
      let (counterAlign, ds) : CounterAlign × List Diagnostic :=
        match raw.counterAxisAlignItems with
        | some "CENTER" => (.center, [])
        | some "MAX" => (.atEnd, [])
        | some "BASELINE" => (.baseline, [])
        | some "SPACE_BETWEEN" =>
            (.atStart,
              [Diagnostic.warning id
                "space-between is not supported on the counter axis; using start"])
        | _ => (.atStart, [])
      let padding : Padding :=
        ⟨raw.paddingTop.getD 0.0, raw.paddingRight.getD 0.0, raw.paddingBottom.getD 0.0,
          raw.paddingLeft.getD 0.0⟩
      (some { direction, primaryAlign, counterAlign
              wrap := raw.layoutWrap == some "WRAP"
              gap := raw.itemSpacing.getD 0.0
              padding
              primarySizing := axisSizing raw.primaryAxisSizingMode
              counterSizing := axisSizing raw.counterAxisSizingMode
              hasAbsoluteChildren := false }, ds)

/-- A fill request on an axis that has no flow to fill becomes fixed, with a warning. -/
def settleFill (id : Nat) (axis : String) (flows : Bool) (mode : SizingMode) :
    SizingMode × List Diagnostic :=
  if mode == .fill && !flows then
    (.fixed,
      [Diagnostic.warning id (axis ++ " FILL sizing needs a parent with auto layout; using FIXED")])
  else (mode, [])

/-- Placement and sizing of a node in its parent; the node's own flow gives the sizing of an
axis the tool leaves unset. -/
def classifyChild (raw : NodeAttrs) (ownLayout parentLayout : Option LayoutDescriptor) (id : Nat) :
    (Positioning × ChildSizing) × List Diagnostic :=
  let positioning : Positioning :=
    match parentLayout with
    | some _ => if raw.layoutPositioning == some "ABSOLUTE" then .absolute else .flow
    | none => .absolute
  let horizontal : SizingMode :=
    match raw.layoutSizingHorizontal with
    | some mode => axisSizing (some mode)
    | none => (ownLayout.map LayoutDescriptor.horizontalSizing).getD .fixed
  let vertical : SizingMode :=
    match raw.layoutSizingVertical with
    | some mode => axisSizing (some mode)
    | none => (ownLayout.map LayoutDescriptor.verticalSizing).getD .fixed
  let flows := parentLayout.isSome && positioning == .flow
  let (h, dh) := settleFill id "horizontal" flows horizontal
  let (v, dv) := settleFill id "vertical" flows vertical
  ((positioning, ⟨h, v⟩), dh ++ dv)

/-- Marks a flow container whose children include absolutely placed ones. -/
def markAbsoluteChildren (layout : LayoutDescriptor) (children : List Positioning) :
    LayoutDescriptor :=
  { layout with hasAbsoluteChildren := children.any (· == .absolute) }

end Handoff
