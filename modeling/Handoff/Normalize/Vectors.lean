/-
Module: Handoff.Normalize.Vectors
Purpose: Which nodes can be drawn as one exported vector: vectors and boolean operations,
  rectangles and ellipses no larger than the icon size, anything the tool marks for vector
  export, and containers that have children, none of them a text or a container and all of
  them drawn as vectors themselves. Since a container's children are never containers, the
  test looks one level down and no further, whatever order the ids are in. The marks are all
  worked out on the tree as it is, then written at the slots the nodes' ids name.
Main exports: flattensAlone, childFlattens, flattenable, isFlattenable, classifyVectors.
-/
import Handoff.Tree.Arena

namespace Handoff

/-- Whether a node, looked at on its own, can be drawn as one vector: the whole test for
every node but a container. -/
def flattensAlone (iconSize : Float) (n : AltNode) : Bool :=
  match n.kind with
  | .vector | .booleanOp => true
  | .rectangle | .ellipse =>
      if n.geometry.width ≤ iconSize && n.geometry.height ≤ iconSize then true
      else n.exportAsVector
  | .container | .text => n.exportAsVector

/-- Whether the child with an id lets its container be drawn as one vector: it exists, is
neither a text nor a container, and can be drawn as one vector on its own. -/
def childFlattens (iconSize : Float) (tree : AltTree) (c : Nat) : Bool :=
  match tree.get? c with
  | some child => child.kind != .text && child.kind != .container && flattensAlone iconSize child
  | none => false

/-- Whether a node can be drawn as one vector. A container can when the tool marks it, or when
it has children and each of them lets it. -/
def flattenable (iconSize : Float) (tree : AltTree) (n : AltNode) : Bool :=
  match n.kind with
  | .container =>
      n.exportAsVector || (!n.children.isEmpty && n.children.all (childFlattens iconSize tree))
  | _ => flattensAlone iconSize n

/-- Whether the node with an id can be drawn as one vector; no node, no. -/
def isFlattenable (iconSize : Float) (tree : AltTree) (id : Nat) : Bool :=
  match tree.get? id with
  | some n => flattenable iconSize tree n
  | none => false

/-- Sets the vector mark of the node at each node's id, all marks worked out beforehand on the
tree as it is. -/
def classifyVectors (tree : AltTree) (iconSize : Float) : AltTree :=
  let marks := tree.nodes.toList.map fun n => (n.id, isFlattenable iconSize tree n.id)
  marks.foldl (fun t mark => t.modify mark.1 fun n => { n with canFlattenToVector := mark.2 })
    tree

end Handoff
