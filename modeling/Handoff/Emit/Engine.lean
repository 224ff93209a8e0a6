/-
Module: Handoff.Emit.Engine
Purpose: Code generation over a whole tree. A node is emitted after its children (a
  container receives them already emitted, in paint order): a flattenable node becomes its
  exported markup when vectors are embedded, or nothing when the export failed; otherwise a
  text, a container or a shape. With layer names on, every fragment that emits something is
  annotated with its node's name. Each root that emits something is rendered, and the target
  wraps the rendered roots into a document named after the first root. Emission first checks
  that the tree keeps its structural promises and that every node is named.
Main exports: emitNode, emitTree, emit.
-/
import Handoff.Emit.Scene

namespace Handoff

/-- One node and its subtree, at most `fuel` levels deep. -/
def emitNode (target : Target) : Nat → Nat → Emit Fragment
  | 0, _ => return Fragment.empty
  | fuel + 1, id => do
      let scene ← read
      match scene.tree.get? id with
      | none => return Fragment.empty
      | some node =>
          let fragment ←
            if node.canFlattenToVector && scene.config.embedVectors then
              match node.embeddedVectorMarkup with
              | some markup => target.vector node markup
              | none => pure Fragment.empty
            else
              match node.kind with
              | .text => target.text node
              | .container => do
                  let children ← node.children.filterMapM fun child => do
                    let f ← emitNode target fuel child
                    return (scene.tree.get? child).map fun n => (n, f)
                  target.container node children
              | _ => target.shape node
          if scene.config.showLayerNames && !fragment.isEmpty then
            return target.withLayerName node fragment
          return fragment

/-- The rendered roots that emit something. Children have larger ids than their parent,
so no path is longer than the number of nodes. -/
def emitRoots (target : Target) : Emit (List String) := do
  let scene ← read
  let mut bodies := []
  for root in scene.tree.roots do
    let f ← emitNode target (scene.tree.nodes.size + 1) root
    if !f.isEmpty then bodies := bodies ++ [target.render scene.config f]
  return bodies

/-- The code of every root of a scene, and the warnings raised on the way. The document is
named after the first root's unique name. -/
def emitTree (target : Target) (scene : Scene) : String × List Diagnostic :=
  let (bodies, warnings) := (emitRoots target scene).run #[]
  let name :=
    match scene.tree.roots.head?.bind scene.tree.get? with
    | some root => root.uniqueName
    | none => "Component"
  (target.document scene.config name bodies, warnings.toList)

/-- The code of every root of a normalised scene: a tree that breaks its structural promises,
or has a node without a unique name, is refused. -/
def emit (target : Target) (scene : Scene) : Except ContractError (String × List Diagnostic) := do
  scene.tree.validate
  if scene.tree.nodes.any (·.uniqueName.isEmpty) then throw .notNormalized
  return emitTree target scene

end Handoff
